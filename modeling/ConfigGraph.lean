import ConfigGraph.Text.Blank
import ConfigGraph.Text.Integer
import ConfigGraph.Text.Unprintable
import ConfigGraph.Text.Quoted
import ConfigGraph.Binary32.Basic
import ConfigGraph.Binary32.Numeral
import ConfigGraph.Binary32.Shortest
import ConfigGraph.FieldPath
import ConfigGraph.Ordered
import ConfigGraph.Graph.Shape
import ConfigGraph.Graph.Value
import ConfigGraph.Graph.Schema
import ConfigGraph.Graph.Assign
import ConfigGraph.Graph.Address
import ConfigGraph.Directive.Basic
import ConfigGraph.Directive.Fault
import ConfigGraph.Directive.Operator
import ConfigGraph.Directive.Literal
import ConfigGraph.Directive.Slot
import ConfigGraph.Directive.Landing
import ConfigGraph.Directive.Update
import ConfigGraph.Directive.Tag
import ConfigGraph.Directive.Engine
import ConfigGraph.Batch.Registry
import ConfigGraph.Batch.Overlay
import ConfigGraph.Batch.Report
import ConfigGraph.Batch.Apply
import ConfigGraph.Document.Node
import ConfigGraph.Document.Json
import ConfigGraph.Document.Decode
import ConfigGraph.Document.Toml.Text
import ConfigGraph.Document.Toml.Scalar
import ConfigGraph.Document.Toml.Table
import ConfigGraph.Document.Toml
import ConfigGraph.Document
import ConfigGraph.Catalog.Hooks
import ConfigGraph.Catalog.Records
import ConfigGraph.Catalog.Samples
import ConfigGraph.Proofs.Ordered
import ConfigGraph.Proofs.Address
import ConfigGraph.Proofs.WellFormed
import ConfigGraph.Proofs.Conversion
import ConfigGraph.Proofs.Slot
import ConfigGraph.Proofs.Lookup
import ConfigGraph.Proofs.Landing
import ConfigGraph.Proofs.Blame
import ConfigGraph.Proofs.Traversal
import ConfigGraph.Proofs.Writing
import ConfigGraph.Proofs.Operator
import ConfigGraph.Proofs.Updater
import ConfigGraph.Proofs.Update
import ConfigGraph.Proofs.Application
import ConfigGraph.Proofs.Atomicity
import ConfigGraph.Proofs.InternalFaults
import ConfigGraph.Proofs.Exactness
import ConfigGraph.Proofs.Reset
import ConfigGraph.Proofs.Preservation
import ConfigGraph.Proofs.Assignment
import ConfigGraph.Proofs.Independence
import ConfigGraph.Proofs.Path.Integer
import ConfigGraph.Proofs.Path.Codec
import ConfigGraph.Proofs.Path.Validity
import ConfigGraph.Proofs.Path.Naming
import ConfigGraph.Proofs.Literal.Number
import ConfigGraph.Proofs.Literal.Vector
import ConfigGraph.Proofs.Literal.Integer
import ConfigGraph.Proofs.Literal.Shortest
import ConfigGraph.Proofs.Literal.VectorText
import ConfigGraph.Proofs.Container.Growth
import ConfigGraph.Proofs.Container.List
import ConfigGraph.Proofs.Container.Keys
import ConfigGraph.Proofs.Container.Map
import ConfigGraph.Proofs.Container.Filling
import ConfigGraph.Proofs.Container.Members
import ConfigGraph.Proofs.Container.Gain
import ConfigGraph.Proofs.Container.Conservation
import ConfigGraph.Proofs.Batch.Change
import ConfigGraph.Proofs.Batch.Sequence
import ConfigGraph.Proofs.Batch.Account
import ConfigGraph.Proofs.Batch.Noninterference
import ConfigGraph.Proofs.Batch.Soundness
import ConfigGraph.Proofs.Batch.Moments
import ConfigGraph.Proofs.Batch.Hooks
import ConfigGraph.Proofs.Batch.Composition
import ConfigGraph.Proofs.Batch.Summary
