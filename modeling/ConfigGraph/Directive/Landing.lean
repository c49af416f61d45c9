/-
  ConfigGraph.Directive.Landing
  ────────────────────────────────
  **WHERE A PATH LANDS.**

  Every segment but the last descends: it must lead to a part that exists.
  The last segment is resolved against its parent.  Under insert and remove
  it may change a list or a map, and that change comes before any value is
  looked at; otherwise it selects the slot that is to be updated.

      list, insert     a default instance goes in at the index, or to the end
      list, remove     the element goes
      map, insert      a default instance goes in at a new key; a present key
                       is reported and nothing happens
      map, remove      the entry goes
      anything else    the slot must exist

  An insertion with something left in its value goes on to update the slot
  that it made.

  Main definitions: `descend`, `finalStep`, `land`.
-/
import ConfigGraph.Directive.Slot
import ConfigGraph.Graph.Address
import ConfigGraph.Graph.Schema

namespace ConfigGraph

/-! ## §1. Descending. -/

/-- The step that a segment writes at a node and the part it leads to, or why there is none. -/
def descend (target : Value) (depth : Nat) (segment : String) : Except Fault (Step × Value) :=
  match target.present? with
  | none => .error (.nullTarget depth segment)
  | some (.record _ fields) =>
      match Ordered.find? segment fields with
      | some part => .ok (.field segment, part)
      | none => .error (.fieldNotFound depth segment target.shape)
  | some (.list _ items) =>
      if depth = 0 then .error (.fieldNotFound depth segment target.shape)
      else match Text.index? segment with
        | none => .error (.invalidIndex depth segment)
        | some i =>
            match items[i]? with
            | some part => .ok (.index i, part)
            | none => .error (.indexOutOfBounds depth i items.length)
  | some (.map _ kind _ entries) =>
      if depth = 0 then .error (.fieldNotFound depth segment target.shape)
      else match kind.read? segment with
        | none => .error (.keyNotFound depth segment)
        | some key =>
            match Ordered.find? key entries with
            | some part => .ok (.key key, part)
            | none => .error (.keyNotFound depth segment)
  | some _ => .error (.fieldNotFound depth segment target.shape)

/-- Descend along several segments: the address travelled and the node at its end. -/
def descendAll (target : Value) (depth : Nat) : List String → Except Fault (Address × Value)
  | [] => .ok ([], target)
  | segment :: rest =>
      match descend target depth segment with
      | .error fault => .error fault
      | .ok (step, part) =>
          (descendAll part (depth + 1) rest).map fun (address, node) => (step :: address, node)

/-! ## §2. The last segment. -/

/-- What is left to do after the last segment. -/
inductive Onward where
  /-- Update the slot that this selects. -/
  | update (selector : Selector)
  /-- Nothing. -/
  | finished (status : Status)
  deriving Repr, DecidableEq

/-- What the last segment did. -/
structure FinalStep where
  /-- The list or map with an element or entry more or less, if it was changed. -/
  changed : Option Value
  /-- The line about it. -/
  notes : List Note
  /-- What is left to do. -/
  onward : Onward
  deriving Repr

/-- After an insertion: go on if anything is left in the value. -/
def afterInsertion (value : String) (selector : Selector) : Onward :=
  if Text.isBlankText value then .finished .edited else .update selector

/-- The last segment at a list. -/
def finalStepList (schema : Schema) (shape : Shape) (items : List Value) (depth : Nat)
    (segment : String) (operation : Operation) (value : String) : Except Fault FinalStep :=
  match Text.index? segment with
  | none => .error (.invalidIndex depth segment)
  | some i =>
    match operation with
    | .insert =>
        match schema.instantiate shape with
        | none => .error (.noDefault shape)
        | some element =>
            if items.length ≤ i then
              match Items.push shape items element with
              | .error cause => .error (.write cause)
              | .ok items' => .ok {
                  changed := some (.list shape items')
                  notes := [⟨.edit, "Adding new entry of type " ++ shape.name ++
                    " to end of the list (step " ++ Text.ofNat depth ++ ")"⟩]
                  onward := afterInsertion value (.index items.length) }
            else
              match Items.insert shape items i element with
              | .error cause => .error (.write cause)
              | .ok items' => .ok {
                  changed := some (.list shape items')
                  notes := [⟨.edit, "Inserting new entry of type " ++ shape.name ++
                    " to index " ++ Text.ofNat i ++ " of the list (step " ++
                    Text.ofNat depth ++ ")"⟩]
                  onward := afterInsertion value (.index i) }
    | .remove =>
        match Items.remove? items i with
        | none => .error (.indexOutOfBounds depth i items.length)
        | some (_, items') => .ok {
            changed := some (.list shape items')
            notes := [⟨.edit, "Removing entry at index " ++ Text.ofNat i ++
              " of the list (step " ++ Text.ofNat depth ++ ")"⟩]
            onward := .finished .edited }
    | .overwrite | .defaultValue =>
        if i < items.length then .ok ⟨none, [], .update (.index i)⟩
        else .error (.indexOutOfBounds depth i items.length)

/-- The last segment at a map. -/
def finalStepMap (schema : Schema) (order : MapOrder) (kind : KeyKind) (shape : Shape)
    (entries : List (Key × Value)) (depth : Nat) (segment : String) (operation : Operation)
    (value : String) : Except Fault FinalStep :=
  match operation with
  | .insert =>
      if kind ≠ .text then .error (.unsupportedKey depth segment kind)
      else if (Entries.find? kind entries segment).isSome then .ok {
        changed := none
        notes := [⟨.attempt, "Key " ++ segment ++
          " already exists, ignoring the command to add it"⟩]
        onward := .finished .unchanged }
      else
        match schema.instantiate shape with
        | none => .error (.noDefault shape)
        | some entry =>
            match Entries.put order kind shape entries segment entry with
            | .error cause => .error (.write cause)
            | .ok entries' => .ok {
                changed := some (.map order kind shape entries')
                notes := [⟨.edit, "Adding key " ++ segment ++ " (step " ++ Text.ofNat depth ++
                  ") to target dictionary"⟩]
                onward := afterInsertion value (.key segment) }
  | .remove =>
      match Entries.remove? kind entries segment with
      | none => .error (.keyNotFound depth segment)
      | some (_, entries') => .ok {
          changed := some (.map order kind shape entries')
          notes := [⟨.edit, "Removing key " ++ segment ++ " (step " ++ Text.ofNat depth ++
            ") from target dictionary"⟩]
          onward := .finished .edited }
  | .overwrite | .defaultValue =>
      if (Entries.find? kind entries segment).isSome then .ok ⟨none, [], .update (.key segment)⟩
      else .error (.keyNotFound depth segment)

/-- The last segment at any node. A field that does not exist is reported with the shape
that the reader sees. -/
def finalStep (schema : Schema) (target : Value) (depth : Nat) (segment : String)
    (operation : Operation) (value : String) : Except Fault FinalStep :=
  match target.present? with
  | none => .error (.nullTarget depth segment)
  | some (.record name fields) =>
      if Ordered.contains segment fields then .ok ⟨none, [], .update (.field segment)⟩
      else .error (.fieldNotFound depth segment (.record name))
  | some (.list shape items) =>
      if depth = 0 then .error (.fieldNotFound depth segment (.list shape))
      else finalStepList schema shape items depth segment operation value
  | some (.map order kind shape entries) =>
      if depth = 0 then .error (.fieldNotFound depth segment (.map order kind shape))
      else finalStepMap schema order kind shape entries depth segment operation value
  | some leaf => .error (.fieldNotFound depth segment leaf.shape)

/-! ## §3. The whole path. -/

/-- Where a path ended. -/
inductive Ending where
  /-- At a slot of the node at this address. -/
  | slot (parent : Address) (slot : Slot)
  /-- The directive is complete. -/
  | finished (status : Status)
  deriving Repr

/-- What following a path did. -/
structure Landing where
  /-- The graph afterwards. -/
  root : Value
  /-- The lines about changes on the way. -/
  notes : List Note
  /-- Where the path ended, or why it did not. -/
  result : Except Fault Ending

/-- Put a list, map or record in the place of the one behind the layers of a node. -/
def Value.replaceAt (root : Value) (address : Address) (container : Value) : Value :=
  root.update (fun node => node.mapPresent fun _ => container) address

/-- The landing at the node at an address, from what the last segment did there. -/
def Landing.of (root : Value) (address : Address) (target : Value) :
    Except Fault FinalStep → Landing
  | .error fault => ⟨root, [], .error fault⟩
  | .ok step =>
    let parent := match step.changed with
      | none => target
      | some container => target.mapPresent fun _ => container
    { root := match step.changed with
        | none => root
        | some container => root.replaceAt address container
      notes := step.notes
      result := match step.onward with
        | .finished status => .ok (.finished status)
        | .update selector => (Slot.resolve parent selector).map (.slot address) }

/-- Follow the segments of a path from the root. -/
def land (schema : Schema) (root : Value) (segments : List String) (operation : Operation)
    (value : String) : Landing :=
  match segments.getLast? with
  | none => ⟨root, [], .error (.invalidPath "" .emptyPath)⟩
  | some last =>
    match descendAll root 0 segments.dropLast with
    | .error fault => ⟨root, [], .error fault⟩
    | .ok (address, target) =>
        .of root address target
          (finalStep schema target (segments.length - 1) last operation value)

end ConfigGraph
