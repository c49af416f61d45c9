/-
  ConfigGraph.Proofs.Updater
  ────────────────────────────────
  **WHAT A HOST PROMISES OF ITS UPDATERS.**

  An engine runs whatever function stands in its table.  What can be said of
  a run is therefore said of the functions first, in promises that a host
  makes for the updaters that it registers:

      Reports      a change is reported as an edit, and what is kept as an
                   attempt; a failure changes nothing
      Confined     what is written is written to the slot
      Impartial    an insertion is treated like an overwrite, and what has
                   been reported makes no difference

  None of them is kept by every function, and no run breaks one by itself:
  the theorems about runs name the promises that they rest on.  The updates
  of the leaf types keep `Reports` and `Confined`, under whatever kinds they
  are registered (`BuiltIn`), and those of a single value are `Impartial`.

  Main results:
    * `LeafUpdate.reports`, `LeafUpdate.confined`, `LeafUpdate.impartial`
    * `updateSlot_reported`, `updateSlot_confined` — the last stage keeps what its updaters keep
    * `UpdaterTable.BuiltIn.exists_ends` — without the updaters of a host, it has one effect
-/
import ConfigGraph.Directive.Engine
import ConfigGraph.Proofs.Literal.Vector
import ConfigGraph.Proofs.Ordered

namespace ConfigGraph

/-! ## §1. Promises. -/

/-- Behind what was reported before there are more notes, and all of them are of the kind. -/
def Adds (before after : List Note) (kind : NoteKind) : Prop :=
  ∃ added, after = before ++ added ∧ added ≠ [] ∧ ∀ note ∈ added, note.kind = kind

/-- What is left behind agrees with what is reported about it. -/
structure Update.Reported (notes : List Note) (update : Update) : Prop where
  /-- An edit is reported, by notes about changes. -/
  edited : update.result = .ok .edited → Adds notes update.notes .edit
  /-- Where nothing was to be done nothing is done, and that is reported as well. -/
  unchanged : update.result = .ok .unchanged →
    update.slot = none ∧ Adds notes update.notes .attempt
  /-- What is skipped is passed over in silence. -/
  skipped : update.result = .ok .skipped → update.slot = none ∧ update.notes = notes
  /-- A failure changes nothing and takes no report back. -/
  failed : ∀ fault, update.result = .error fault → update.slot = none ∧ notes <+: update.notes

/-- **THE REPORT CONTRACT** of an updater. -/
def Updater.Reports (updater : Updater) : Prop :=
  ∀ context, (updater.run context).Reported context.notes

/-- The updater leaves its slot as one write to it could have done, or does not touch it. -/
def Updater.Confined (updater : Updater) : Prop :=
  ∀ context slot', (updater.run context).slot = some slot' →
    ∃ new, context.slot.write new = .ok slot'

/-- The same update with notes in front of its own. -/
def Update.behind (notes : List Note) (update : Update) : Update :=
  { update with notes := notes ++ update.notes }

/-- The updater treats an insertion like an overwrite, and adds to the notes without regard to
those that are there. -/
def Updater.Impartial (updater : Updater) : Prop :=
  ∀ value slot tokens notes, updater.run ⟨⟨value, .insert, slot, tokens⟩, notes⟩
    = (updater.run ⟨⟨value, .overwrite, slot, tokens⟩, []⟩).behind notes

namespace UpdaterTable

/-- Every updater in the table keeps the promise. -/
def Each (table : UpdaterTable) (promise : Updater → Prop) : Prop :=
  ∀ kind updater, table.find? kind = some updater → promise updater

/-- Every updater in the table keeps the report contract. -/
def Reports (table : UpdaterTable) : Prop :=
  table.Each Updater.Reports

/-- No updater in the table writes to anything but its slot. -/
def Confined (table : UpdaterTable) : Prop :=
  table.Each Updater.Confined

/-- The table has no updaters of a host: it gives kinds the updates of leaf types, perhaps of
others than their own, and leaves kinds out. -/
def BuiltIn (table : UpdaterTable) : Prop :=
  table.Each fun updater => ∃ leaf : LeafUpdate, updater = leaf.updater

end UpdaterTable

/-! ## §2. The updates of leaf types keep them. -/

/-- What happens in one go is reported in one go. -/
theorem Update.reported_of (notes : List Note) (done : Except Fault UpdateEffect) :
    (Update.of notes done).Reported notes := by
  have hadds (kind : NoteKind) (message : String) :
      Adds notes (notes ++ [⟨kind, message⟩]) kind := by
    refine ⟨_, rfl, List.cons_ne_nil _ _, ?_⟩
    intro note hnote
    rw [List.mem_singleton.mp hnote]
  rcases done with fault | ⟨slot, message⟩ | message
  · refine ⟨nofun, nofun, nofun, ?_⟩
    intro _ _
    exact ⟨rfl, List.prefix_refl notes⟩
  · exact ⟨fun _ => hadds .edit message, nofun, nofun, nofun⟩
  · exact ⟨nofun, fun _ => ⟨rfl, hadds .attempt message⟩, nofun, nofun⟩

/-- What is written in one go is the slot of the effect. -/
theorem Update.of_slot_eq_some {notes : List Note} {done : Except Fault UpdateEffect} {slot' : Slot}
    (h : (Update.of notes done).slot = some slot') : ∃ message, done = .ok (.wrote slot' message) := by
  rcases done with fault | ⟨slot, message⟩ | message
  · cases h
  · injection h with h
    exact ⟨message, by rw [h]⟩
  · cases h

theorem LeafUpdate.reports (leaf : LeafUpdate) : leaf.updater.Reports :=
  fun context => Update.reported_of context.notes _

/-- Every leaf but the sets has one value. -/
def LeafUpdate.isScalar : LeafUpdate → Bool
  | .textSet => false
  | _ => true

/-- The update of a single value tells default requests from the rest, and no more. -/
theorem LeafUpdate.impartial {leaf : LeafUpdate} (scalar : leaf.isScalar = true) :
    leaf.updater.Impartial := by
  intro value slot tokens notes
  have hrun : leaf.run ⟨value, .insert, slot, tokens⟩
      = leaf.run ⟨value, .overwrite, slot, tokens⟩ := by
    cases leaf with
    | textSet => cases scalar
    | _ => rfl
  simp only [LeafUpdate.updater, hrun]
  rcases leaf.run ⟨value, .overwrite, slot, tokens⟩ with fault | ⟨slot', message⟩ | message
  · simp only [Update.of, Update.behind, List.append_nil]
  · simp only [Update.of, Update.behind, List.nil_append]
  · simp only [Update.of, Update.behind, List.nil_append]

namespace UpdateRequest

variable {request : UpdateRequest} {new : Value} {message message' : String} {slot' : Slot}

theorem write_eq_wrote (h : request.write new message = .ok (.wrote slot' message')) :
    request.slot.write new = .ok slot' := by
  unfold UpdateRequest.write at h
  split at h
  · rename_i hwrite
    injection h with h
    injection h with hslot
    rw [hwrite, hslot]
  · cases h

/-- What the update of a leaf type may write. -/
inductive Offers (request : UpdateRequest) : LeafUpdate → Value → Prop where
  /-- A text. -/
  | text (s : String) : Offers request .text (.text s)
  /-- Nothing, in a nullable text. -/
  | emptied : Offers request .text (.vacant .text)
  /-- A truth value. -/
  | bool (b : Bool) : Offers request .bool (.bool b)
  /-- An integer. -/
  | int (n : Int32) : Offers request .int (.int n)
  /-- A floating-point number. -/
  | float (x : Binary32) : Offers request .float (.float x)
  /-- A vector of the size that the update is for. -/
  | vector {dim : Dim} {components : List Binary32} (size : components.length = dim.size) :
      Offers request (.vector dim) (.vector dim components)
  /-- The set with one more member. -/
  | inserted (member : String) :
      Offers request .textSet (.textSet (Ordered.insertMember member request.members))
  /-- The set with one member less. -/
  | erased (member : String) :
      Offers request .textSet (.textSet (Ordered.eraseMember member request.members))

/-- Every update that writes has written one such value, also where it is not the update that
the slot's shape calls for. -/
theorem run_offers (leaf : LeafUpdate) (h : leaf.run request = .ok (.wrote slot' message)) :
    ∃ new, Offers request leaf new ∧ request.slot.write new = .ok slot' := by
  match leaf with
  | .text =>
      change updateText request = _ at h
      unfold updateText at h
      split at h
      · exact ⟨_, .text _, write_eq_wrote h⟩
      · split at h
        · exact ⟨_, .emptied, write_eq_wrote h⟩
        · exact ⟨_, .text _, write_eq_wrote h⟩
  | .bool => exact ⟨_, .bool _, write_eq_wrote h⟩
  | .int =>
      change updateInt request = _ at h
      simp only [updateInt] at h
      split at h
      · cases h
      · exact ⟨_, .int _, write_eq_wrote h⟩
  | .float =>
      change updateFloat request = _ at h
      simp only [updateFloat] at h
      split at h
      · cases h
      · exact ⟨_, .float _, write_eq_wrote h⟩
  | .vector dim =>
      change updateVector dim request = _ at h
      simp only [updateVector] at h
      split at h
      · cases h
      · rename_i components hread
        refine ⟨_, .vector ?_, write_eq_wrote h⟩
        -- The zero vector and every vector that is read have the size of the update.
        split at hread
        · injection hread with hread
          rw [← hread, List.length_replicate]
        · exact Literal.length_of_vector hread
  | .textSet =>
      change updateTextSet request = _ at h
      simp only [updateTextSet] at h
      split at h
      · split at h
        · cases h
        · exact ⟨_, .inserted _, write_eq_wrote h⟩
      · split at h
        · exact ⟨_, .erased _, write_eq_wrote h⟩
        · cases h
      · cases h

end UpdateRequest

theorem LeafUpdate.confined (leaf : LeafUpdate) : leaf.updater.Confined := by
  intro context slot' h
  obtain ⟨message, hrun⟩ := Update.of_slot_eq_some h
  obtain ⟨new, _, hwrite⟩ := UpdateRequest.run_offers leaf hrun
  exact ⟨new, hwrite⟩

namespace UpdaterTable

variable {table : UpdaterTable}

theorem BuiltIn.reports (builtIn : table.BuiltIn) : table.Reports := by
  intro kind updater hfind
  obtain ⟨leaf, rfl⟩ := builtIn kind updater hfind
  exact leaf.reports

theorem BuiltIn.confined (builtIn : table.BuiltIn) : table.Confined := by
  intro kind updater hfind
  obtain ⟨leaf, rfl⟩ := builtIn kind updater hfind
  exact leaf.confined

/-- The leaf type whose update a kind has to begin with. -/
def leaf? (kind : Kind) : Option LeafUpdate :=
  Ordered.find? kind leaves

theorem find?_standard (kind : Kind) :
    standard.find? kind = (leaf? kind).map LeafUpdate.updater :=
  Ordered.find?_map (fun _ => LeafUpdate.updater) kind leaves

/-- An engine that nobody has configured has no updaters of a host. -/
theorem builtIn_standard : standard.BuiltIn := by
  intro kind updater hfind
  rw [find?_standard, Option.map_eq_some_iff] at hfind
  obtain ⟨leaf, _, hleaf⟩ := hfind
  exact ⟨leaf, hleaf.symm⟩

theorem find?_register_self (table : UpdaterTable) (kind : Kind) (updater : Updater) :
    (table.register kind updater).find? kind = some updater :=
  Ordered.find?_putLast_self kind updater table.entries

/-- What every updater of a table keeps is kept with one more of the kind. -/
theorem Each.register {promise : Updater → Prop} (each : table.Each promise) (kind : Kind)
    {updater : Updater} (h : promise updater) : (table.register kind updater).Each promise := by
  intro other found hfind
  by_cases hother : other = kind
  · subst hother
    rw [find?_register_self] at hfind
    injection hfind with hfind
    exact hfind ▸ h
  · rw [find?, UpdaterTable.register, Ordered.find?_putLast_of_ne hother] at hfind
    exact each other found hfind

end UpdaterTable

/-! ## §3. The last stage. -/

section

variable {engine : Engine} {slot slot' : Slot} {operation : Operation} {value : String}

/-- A reset writes a default instance to the slot. -/
theorem fillSlot_writes {message : String}
    (h : engine.fillSlot slot operation value = .ok (.wrote slot' message)) :
    operation = .defaultValue ∧ ∃ tagged new, engine.tags.resolve value = .ok tagged ∧
      engine.schema.instantiate (tagged.getD slot.declared.resolved) = some new ∧
      slot.write new = .ok slot' := by
  by_cases hop : operation = .defaultValue
  · refine ⟨hop, ?_⟩
    simp only [Engine.fillSlot, hop, ne_eq, not_true, if_false, Slot.reset] at h
    cases htags : engine.tags.resolve value with
    | error fault =>
        simp only [htags] at h
        cases h
    | ok tagged =>
        cases hnew : engine.schema.instantiate (tagged.getD slot.declared.resolved) with
        | none =>
            simp only [htags, hnew] at h
            cases h
        | some new =>
            cases hwrite : slot.write new with
            | error cause =>
                simp only [htags, hnew, hwrite] at h
                cases h
            | ok written =>
                simp only [htags, hnew, hwrite] at h
                cases h
                exact ⟨tagged, new, rfl, hnew, hwrite⟩
  · rw [Engine.fillSlot, if_pos hop] at h
    cases h

/-- The last stage keeps the report contract if the updaters of the table do. -/
theorem updateSlot_reported (reports : engine.updaters.Reports) (slot : Slot)
    (operation : Operation) (value : String) (notes : List Note) :
    (engine.updateSlot slot operation value notes).Reported notes := by
  unfold Engine.updateSlot
  cases hfind : engine.updaters.find? slot.declared.resolved.kind with
  | some updater =>
      exact reports _ updater hfind ⟨⟨value, operation, slot, engine.config.operators⟩, notes⟩
  | none => exact Update.reported_of notes (engine.fillSlot slot operation value)

/-- And it is confined to the slot if they are. -/
theorem updateSlot_confined (confined : engine.updaters.Confined) {notes : List Note}
    (h : (engine.updateSlot slot operation value notes).slot = some slot') :
    ∃ new, slot.write new = .ok slot' := by
  unfold Engine.updateSlot at h
  cases hfind : engine.updaters.find? slot.declared.resolved.kind with
  | some updater =>
      rw [hfind] at h
      exact confined _ updater hfind ⟨⟨value, operation, slot, engine.config.operators⟩, notes⟩
        slot' h
  | none =>
      rw [hfind] at h
      obtain ⟨message, hfill⟩ := Update.of_slot_eq_some h
      obtain ⟨_, _, new, _, _, hwrite⟩ := fillSlot_writes hfill
      exact ⟨new, hwrite⟩

/-- The last stage has this effect or ends with this fault, whatever has been reported before. -/
def Engine.Ends (engine : Engine) (slot : Slot) (operation : Operation) (value : String)
    (done : Except Fault UpdateEffect) : Prop :=
  ∀ notes, engine.updateSlot slot operation value notes = .of notes done

theorem ends_of_leaf {leaf : LeafUpdate}
    (hfind : engine.updaters.find? slot.declared.resolved.kind = some leaf.updater) :
    engine.Ends slot operation value
      (leaf.run ⟨value, operation, slot, engine.config.operators⟩) := by
  intro notes
  simp only [Engine.updateSlot, hfind, LeafUpdate.updater]

theorem ends_of_bare (hfind : engine.updaters.find? slot.declared.resolved.kind = none) :
    engine.Ends slot operation value (engine.fillSlot slot operation value) := by
  intro notes
  simp only [Engine.updateSlot, hfind]

/-- **WITHOUT THE UPDATERS OF A HOST, THE LAST STAGE HAS ONE EFFECT.** If it writes, it writes
what the update of a leaf type offers or, on a default request, a default instance. -/
theorem UpdaterTable.BuiltIn.exists_ends (builtIn : engine.updaters.BuiltIn) (slot : Slot)
    (operation : Operation) (value : String) :
    ∃ done, engine.Ends slot operation value done ∧
      ∀ slot' message, done = .ok (.wrote slot' message) → ∃ new, slot.write new = .ok slot' ∧
        ((∃ leaf, UpdateRequest.Offers ⟨value, operation, slot, engine.config.operators⟩ leaf new) ∨
          operation = .defaultValue ∧ ∃ tagged, engine.tags.resolve value = .ok tagged ∧
            engine.schema.instantiate (tagged.getD slot.declared.resolved) = some new) := by
  cases hfind : engine.updaters.find? slot.declared.resolved.kind with
  -- The kind has the update of a leaf type, perhaps of another one than its own.
  | some updater =>
      obtain ⟨leaf, rfl⟩ := builtIn _ updater hfind
      refine ⟨_, ends_of_leaf hfind, ?_⟩
      intro slot' message h
      obtain ⟨new, offers, hwrite⟩ := UpdateRequest.run_offers leaf h
      exact ⟨new, hwrite, .inl ⟨leaf, offers⟩⟩
  | none =>
      refine ⟨_, ends_of_bare hfind, ?_⟩
      intro slot' message h
      obtain ⟨hop, tagged, new, htags, hnew, hwrite⟩ := fillSlot_writes h
      exact ⟨new, hwrite, .inr ⟨hop, tagged, htags, hnew⟩⟩

end

end ConfigGraph
