/-
  ConfigGraph.Catalog.Hooks
  ────────────────────────────────
  **WHAT THE HOST OF THE CATALOGUE BRINGS ALONG.**

  The roots of the catalogue count how often a batch has passed over them:
  an integer doubles, a slot gets one more piece of ammunition, a preset one
  more unit.  All counting wraps around at 32 bits.  A counting hook also
  leaves a line behind, so that the order in which hooks run can be seen.

  The host also has an updater for truth values that are switches: they are
  toggled and not set.
-/
import ConfigGraph.Batch.Registry
import ConfigGraph.Catalog.Records
import ConfigGraph.Directive.Engine

namespace ConfigGraph.Catalog

/-- An integer one greater; any other value as it is. -/
def successor : Value → Value
  | .int n => .int (n + 1)
  | value => value

/-- A root after one more batch. -/
def count : Value → Value
  | .int n => .int (n + n)
  | .record "Slot" fields => .record "Slot" (Ordered.modify "ammo" successor fields)
  | .record "Preset" fields => .record "Preset" (Ordered.modify "count" successor fields)
  | value => value

/-- The hook of this number for a collection: it adds a line and counts the root. -/
def countingHook (collection : String) (number : Nat) : Hook (List String) :=
  fun key root lines =>
    (count root, lines ++ [collection ++ ":" ++ key ++ ":" ++ Text.ofNat number])

/-- The updater of a switch: it takes the opposite value, and says so in two lines. -/
def toggling : Updater where
  run context :=
    let refuse (fault : Fault) : Update := ⟨none, context.notes, .error fault⟩
    match context.slot.target?.bind Value.present? with
    | some (.bool b) =>
        if context.value = "toggle" then
          match context.slot.write (.bool !b) with
          | .ok slot =>
              ⟨some slot, context.notes ++ [⟨.edit, "Switch is toggled"⟩,
                ⟨.edit, "Switch is now " ++ Literal.boolText (!b)⟩], .ok .edited⟩
          | .error cause => refuse (.write cause)
        else refuse (.unsupported context.operation context.shape
          (.other "switches are toggled and not set"))
    | _ => ⟨none, context.notes ++ [⟨.attempt, "There is no switch to toggle"⟩], .ok .unchanged⟩

/-- The engine of the host, with its updater in place of the one for truth values. -/
def switching : Engine :=
  { Engine.new schema .standard with updaters := UpdaterTable.standard.register .bool toggling }

end ConfigGraph.Catalog
