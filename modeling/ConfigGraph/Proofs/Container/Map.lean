/-
  ConfigGraph.Proofs.Container.Map
  ────────────────────────────────
  **INSERTING INTO A MAP AND REMOVING FROM IT.**

  A map is edited by a directive with one more segment than the path of the
  map.  An insertion needs text keys and adds one entry with a default
  instance, where the order of the map puts a new key; if the key is there
  already, nothing happens and the value is not looked at.  A removal takes
  the entry of the key away and keeps the others in their order.  Around the
  map, nothing changes.

  Unlike in a list, an insertion that is refused for want of a default
  instance does no harm to a removal behind it: the key is still not there.

  Two things are not so.  An insertion that makes an entry and fails at the
  value leaves the entry, as it does in a list.  And the key that a directive
  writes is one that a path can write, but a default instance may bring keys
  that are not: they come from the schema and were never in a path.

  Main results:
    * `map_edits`
    * `brought_labels_and_left_entries`
-/
import ConfigGraph.Proofs.Container.Growth
import ConfigGraph.Proofs.Container.Keys

namespace ConfigGraph

/-- A new key goes between these entries: at its place in a sorted map, and to the end of one in
order of arrival. -/
def MapOrder.Places : MapOrder → Key → List (Key × Value) → List (Key × Value) → Prop
  | .sorted, key, before, after =>
      (∀ entry ∈ before, entry.1 < key) ∧ ∀ entry ∈ after, key < entry.1
  | .arrival, _, _, after => after = []

/-- What directives do to a map, at one segment behind the path of the map. -/
structure MapEdits (engine : Engine) (root : Value) (path segment : String) (address : Address)
    (node : Value) (order : MapOrder) (kind : KeyKind) (shape : Shape)
    (entries : List (Key × Value)) : Prop where
  /-- Into a map with other keys than texts nothing can be inserted. -/
  foreign : kind ≠ .text → ∀ raw value, Wants engine raw .insert value →
    engine.apply root ⟨FieldPath.extend path segment, raw⟩
      = (root, ⟨.error (.unsupportedKey (FieldPath.parse path).length segment kind), []⟩)
  /-- An insertion of a key that is there does nothing, whatever its value. -/
  held : kind = .text → ∀ old, Ordered.find? (.text segment) entries = some old →
    ∃ message, ∀ raw value, Wants engine raw .insert value →
      engine.apply root ⟨FieldPath.extend path segment, raw⟩
        = (root, ⟨.ok .unchanged, [⟨.attempt, message⟩]⟩)
  /-- An insertion of a new key adds an entry with a default instance. That is also what is left
  of one that goes on with its value and fails, if updaters that fail have changed nothing. -/
  inserted : kind = .text → Ordered.find? (.text segment) entries = none → shape ≠ .dynamic →
    ∃ fresh before after root' message, engine.schema.instantiate shape = some fresh ∧
      entries = before ++ after ∧ order.Places (.text segment) before after ∧
      Value.ReplacedAt root root' address (node.mapPresent fun _ =>
        .map order .text shape (before ++ (.text segment, fresh) :: after)) ∧
      (∀ raw value, Wants engine raw .insert value → Text.isBlankText value = true →
        engine.apply root ⟨FieldPath.extend path segment, raw⟩
          = (root', ⟨.ok .edited, [⟨.edit, message⟩]⟩)) ∧
      (engine.updaters.Reports → ∀ raw value, Wants engine raw .insert value →
        (engine.apply root ⟨FieldPath.extend path segment, raw⟩).2.isOk = false →
        (engine.apply root ⟨FieldPath.extend path segment, raw⟩).1 = root')
  /-- Values of any type have no default instance. -/
  barren : kind = .text → Ordered.find? (.text segment) entries = none → shape = .dynamic →
    ∀ raw value, Wants engine raw .insert value →
      engine.apply root ⟨FieldPath.extend path segment, raw⟩
        = (root, ⟨.error (.noDefault .dynamic), []⟩)
  /-- A removal takes the entry of the key away, and no other. -/
  removed : ∀ key old, kind.read? segment = some key → Ordered.find? key entries = some old →
    ∃ before after root' message, entries = before ++ (key, old) :: after ∧
      Ordered.find? key (before ++ after) = none ∧
      Value.ReplacedAt root root' address
        (node.mapPresent fun _ => .map order kind shape (before ++ after)) ∧
      ∀ raw value, Wants engine raw .remove value →
        engine.apply root ⟨FieldPath.extend path segment, raw⟩
          = (root', ⟨.ok .edited, [⟨.edit, message⟩]⟩)
  /-- A segment that writes no key of the map has nothing to remove. -/
  missing : (∀ key, kind.read? segment = some key → Ordered.find? key entries = none) →
    ∀ raw value, Wants engine raw .remove value →
      engine.apply root ⟨FieldPath.extend path segment, raw⟩
        = (root, ⟨.error (.keyNotFound (FieldPath.parse path).length segment), []⟩)
  /-- What has been inserted, with whatever value, is removed again by the same key, if updaters
  write to their slots only. -/
  restored : engine.updaters.Confined → kind = .text →
    Ordered.find? (.text segment) entries = none →
    ∀ raw value raw' value', Wants engine raw .insert value → Wants engine raw' .remove value' →
      (engine.apply (engine.apply root ⟨FieldPath.extend path segment, raw⟩).1
        ⟨FieldPath.extend path segment, raw'⟩).1 = root
  /-- With whatever value, an insertion adds one entry at the place of the key, it is found at the
  path of the insertion, and around the map nothing changes, if updaters write to their slots
  only. -/
  addressable : engine.updaters.Confined → kind = .text →
    Ordered.find? (.text segment) entries = none → shape ≠ .dynamic →
    ∀ raw value, Wants engine raw .insert value → ∃ stored before after, stored.shape = shape ∧
      entries = before ++ after ∧ order.Places (.text segment) before after ∧
      Value.ReplacedAt root (engine.apply root ⟨FieldPath.extend path segment, raw⟩).1 address
        (node.mapPresent fun _ =>
          .map order .text shape (before ++ (.text segment, stored) :: after)) ∧
      (engine.apply root ⟨FieldPath.extend path segment, raw⟩).1.locate?
        (FieldPath.parse (FieldPath.extend path segment))
          = some (address ++ [.key (.text segment)], stored)
  /-- Apart from the keys inside its default instance, a directive makes no key more frequent but
  a text that is not empty and has no separator in it. -/
  writable : engine.updaters.BuiltIn → ∀ directive key,
    ∃ count, Brought engine root directive key count ∧
    (root.keyCount key + count < (engine.apply root directive).1.keyCount key →
      ∃ s, key = .text s ∧ s.isEmpty = false ∧ FieldPath.Plain s)

section

variable {engine : Engine} {root node : Value} {path segment : String} {address : Address}
  {order : MapOrder} {kind : KeyKind} {shape : Shape} {entries : List (Key × Value)}

/-- A new key is put at the place that the order of the map has for it. -/
theorem Entries.exists_place {key : Key} (keeps : order.Keeps (entries.map (·.1)))
    (absent : Ordered.find? key entries = none) (value : Value) :
    ∃ before after, entries = before ++ after ∧ order.Places key before after ∧
      Entries.putKey order key value entries = before ++ (key, value) :: after := by
  cases order with
  | sorted =>
      obtain ⟨before, after, rfl, hput⟩ := Ordered.putSorted_of_find?_eq_none absent value
      refine ⟨before, after, rfl, ?_, hput⟩
      -- The longer list ascends, so the new key divides it.
      have hkeeps := Entries.keeps_putKey keeps key value
      rw [Entries.putKey, hput, List.map_append, List.map_cons] at hkeeps
      obtain ⟨_, hbehind, hbetween⟩ := List.pairwise_append.mp hkeeps
      obtain ⟨hafter, _⟩ := List.pairwise_cons.mp hbehind
      constructor
      · exact fun entry h => hbetween _ (List.mem_map_of_mem h) _ List.mem_cons_self
      · exact fun entry h => hafter _ (List.mem_map_of_mem h)
  | arrival =>
      exact ⟨entries, [], (List.append_nil _).symm, rfl,
        Ordered.putLast_of_find?_eq_none absent value⟩

/-- The last segment of a directive decides at the map. -/
theorem Leads.apply_map {raw value : String} {operation : Operation}
    (leads : Leads root path segment address node (.map order kind shape entries))
    (wants : Wants engine raw operation value) :
    engine.apply root ⟨FieldPath.extend path segment, raw⟩
      = engine.settle operation value (.of root address node (finalStepMap engine.schema order kind
          shape entries (FieldPath.parse path).length segment operation value)) := by
  rw [leads.apply_eq wants, finalStep_map leads.present leads.depth_ne_zero]

/-- Where the segment writes no key of the map, there is nothing to remove. -/
theorem Leads.apply_remove_missing {raw value : String}
    (leads : Leads root path segment address node (.map order kind shape entries))
    (missing : ∀ key, kind.read? segment = some key → Ordered.find? key entries = none)
    (wants : Wants engine raw .remove value) :
    engine.apply root ⟨FieldPath.extend path segment, raw⟩
      = (root, ⟨.error (.keyNotFound (FieldPath.parse path).length segment), []⟩) := by
  have hremove : Entries.remove? kind entries segment = none := by
    rw [Entries.remove?, Option.bind_eq_none_iff]
    intro key hread
    rw [missing key hread, Option.map_none]
  rw [leads.apply_map wants]
  simp only [finalStepMap, hremove]
  rfl

/-- **A MAP TAKES AND GIVES ENTRIES AT A KEY.** -/
theorem map_edits (wf : root.WellFormed engine.schema)
    (valid : FieldPath.validate (FieldPath.extend path segment) = .ok ())
    (plain : FieldPath.Plain segment)
    (located : root.locate? (FieldPath.parse path) = some (address, node))
    (present : node.present? = some (.map order kind shape entries)) :
    MapEdits engine root path segment address node order kind shape entries := by
  have leads : Leads root path segment address node (.map order kind shape entries) :=
    ⟨valid, plain, located, present⟩
  have hget := Value.get?_of_locate? located
  have keeps : order.Keeps (entries.map (·.1)) := ((wf.get? hget).present present).keepsKeys
  constructor
  case foreign =>
    intro hkind raw value wants
    rw [leads.apply_map wants]
    simp only [finalStepMap, hkind, ne_eq, not_false_eq_true, if_true]
    rfl
  case held =>
    intro hkind old hfind
    subst hkind
    have hheld : Entries.find? .text entries segment = some old := hfind
    refine ⟨"Key " ++ segment ++ " already exists, ignoring the command to add it", ?_⟩
    intro raw value wants
    rw [leads.apply_map wants]
    simp only [finalStepMap, hheld]
    rfl
  case inserted =>
    intro hkind absent hdynamic
    subst hkind
    have hgrows : Grows segment (.map order .text shape entries) _ := .entry absent
    obtain ⟨fresh, instantiates⟩ : ∃ fresh, engine.schema.instantiate shape = some fresh :=
      Schema.exists_instantiate hdynamic
    obtain ⟨message, hinsert⟩ := hgrows.apply_insert leads instantiates
    obtain ⟨before, after, hsplit, places, hput⟩ := Entries.exists_place keeps absent fresh
    refine ⟨fresh, before, after, root.replaceAt address (.map order .text shape
      (Entries.putKey order (.text segment) fresh entries)), message, instantiates, hsplit, places,
      ?_, ?_, ?_⟩
    · rw [← hput]
      exact Value.replacedAt_replaceAt hget _
    · intro raw value wants blank
      rw [hinsert raw value wants, if_pos blank]
      rfl
    · intro reports raw value wants failed
      exact Grows.apply_insert_failed reports hgrows leads instantiates wants failed
  case barren =>
    intro hkind absent hdynamic raw value wants
    subst hkind hdynamic
    have hgrows : Grows segment (.map order .text .dynamic entries) _ := .entry absent
    exact hgrows.apply_insert_barren leads rfl wants
  case removed =>
    intro key old hread hfind
    obtain ⟨before, after, hsplit, herase⟩ := Ordered.erase_of_find? hfind
    refine ⟨before, after, root.replaceAt address (.map order kind shape
      (Ordered.erase key entries)), "Removing key " ++ segment ++ " (step " ++
      Text.ofNat (FieldPath.parse path).length ++ ") from target dictionary", hsplit, ?_, ?_, ?_⟩
    · rw [← herase, Ordered.find?_erase_self keeps.nodup]
    · rw [← herase]
      exact Value.replacedAt_replaceAt hget _
    · intro raw value wants
      rw [leads.apply_map wants]
      simp only [finalStepMap, Entries.remove?, hread, Option.bind_some, hfind, Option.map_some]
      rfl
  case missing => exact fun missing raw value wants => leads.apply_remove_missing missing wants
  case restored =>
    intro confined hkind absent raw value raw' value' wants wants'
    subst hkind
    have hgrows : Grows segment (.map order .text shape entries) _ := .entry absent
    by_cases hdynamic : shape = .dynamic
    · -- Nothing was inserted, and nothing is there to be removed.
      have hmissing : ∀ key, KeyKind.read? .text segment = some key →
          Ordered.find? key entries = none := by
        rintro _ ⟨⟩
        exact absent
      rw [hgrows.apply_insert_barren leads (Schema.instantiate_eq_none_iff.mpr hdynamic) wants,
        leads.apply_remove_missing hmissing wants']
    · obtain ⟨fresh, instantiates⟩ : ∃ fresh, engine.schema.instantiate shape = some fresh :=
        Schema.exists_instantiate hdynamic
      obtain ⟨message, hremove⟩ :=
        Grows.apply_insert_remove confined hgrows leads instantiates wants wants'
      exact congrArg Prod.fst hremove
  case addressable =>
    intro confined hkind absent hdynamic raw value wants
    subst hkind
    have hgrows : Grows segment (.map order .text shape entries) _ := .entry absent
    obtain ⟨fresh, instantiates⟩ : ∃ fresh, engine.schema.instantiate shape = some fresh :=
      Schema.exists_instantiate hdynamic
    obtain ⟨stored, hshape, hinsert⟩ :=
      Grows.exists_apply_insert confined hgrows leads instantiates wants
    obtain ⟨before, after, hsplit, places, hput⟩ := Entries.exists_place keeps absent stored
    obtain ⟨node', leads'⟩ := hgrows.leads_again leads stored
    refine ⟨stored, before, after, hshape, hsplit, places, ?_, ?_⟩
    · rw [hinsert, ← hput]
      exact Value.replacedAt_replaceAt hget _
    · rw [hinsert, FieldPath.parse_of_validate_extend valid plain]
      exact Value.locate?_concat leads'.located
        (hgrows.step?_again leads'.present leads'.depth_ne_zero)
  case writable => exact fun builtIn => apply_adds_segment builtIn wf

end

/-- Into the codes of the rig, which have integer keys, nothing is inserted; in the order, an entry
is added with a value and removed again. -/
theorem map_edits_rig :
    Catalog.sampleRig.WellFormed (Engine.new Catalog.schema .standard).schema ∧
      (Engine.new Catalog.schema .standard).updaters.Confined ∧
      (Engine.new Catalog.schema .standard).apply Catalog.sampleRig
          ⟨FieldPath.extend "codes" " +08", "!+"⟩
        = (Catalog.sampleRig, ⟨.error (.unsupportedKey 1 " +08" .int), []⟩) ∧
      ((Engine.new Catalog.schema .standard).apply
        ((Engine.new Catalog.schema .standard).apply Catalog.sampleRig
          ⟨FieldPath.extend "order" "b2", "5!+"⟩).1 ⟨FieldPath.extend "order" "b2", "!-"⟩).1
        = Catalog.sampleRig := by
  have wf : Catalog.sampleRig.WellFormed (Engine.new Catalog.schema .standard).schema := by decide
  have confined : (Engine.new Catalog.schema .standard).updaters.Confined :=
    UpdaterTable.builtIn_standard.confined
  refine ⟨wf, confined, ?_, ?_⟩
  · have edits : MapEdits (.new Catalog.schema .standard) Catalog.sampleRig "codes" " +08" _ _ _ _ _
        _ := map_edits wf (by decide) (by decide) (by rfl) rfl
    exact edits.foreign (by decide) "!+" "" ⟨rfl, by rfl⟩
  · have edits : MapEdits (.new Catalog.schema .standard) Catalog.sampleRig "order" "b2" _ _ _ _ _
        _ := map_edits wf (by decide) (by decide) (by rfl) rfl
    exact edits.restored confined rfl (by rfl) "5!+" "5" "!-" "" ⟨rfl, by rfl⟩ ⟨rfl, by rfl⟩

/-- Crates that have labels to begin with, and shelves for them. No path writes these labels: one
is empty, the other has a separator in it. -/
def labelledCrates : Schema where
  records :=
    [("Crate", [("labels", .map .sorted .text .int [(.text "", .int 1), (.text "a.b", .int 2)])]),
     ("Shelf", [("crates", .list (.record "Crate") [])])]

/-- A shelf without crates. -/
def emptyShelf : Value := .record "Shelf" [("crates", .list (.record "Crate") [])]

/-- A new crate brings both of its labels along, and an insertion that fails because its value is no
literal leaves its entry behind. -/
theorem brought_labels_and_left_entries :
    (¬ ∀ (engine : Engine) (root : Value) (directive : Directive) (s : String),
      engine.updaters = .standard → root.WellFormed engine.schema →
      root.keyCount (.text s) < (engine.apply root directive).1.keyCount (.text s) →
      s.isEmpty = false ∧ FieldPath.Plain s) ∧
    ¬ ∀ (engine : Engine) (root node : Value) (path segment raw value : String)
      (address : Address) (order : MapOrder) (kind : KeyKind) (shape : Shape)
      (entries : List (Key × Value)),
      engine.updaters = .standard → root.WellFormed engine.schema →
      FieldPath.validate (FieldPath.extend path segment) = .ok () → FieldPath.Plain segment →
      root.locate? (FieldPath.parse path) = some (address, node) →
      node.present? = some (.map order kind shape entries) → Wants engine raw .insert value →
      (engine.apply root ⟨FieldPath.extend path segment, raw⟩).2.isOk = false →
      (engine.apply root ⟨FieldPath.extend path segment, raw⟩).1 = root := by
  constructor
  · intro h
    obtain ⟨_, hplain⟩ := h (.new labelledCrates .standard) emptyShelf ⟨"crates.0", "!+"⟩ "a.b"
      (by rfl) (by decide) (by decide)
    exact absurd hplain (by decide)
  · intro h
    have hroot := h (.new Catalog.schema .standard) Catalog.samplePreset _ "levels" "k" "x!+" "x" _
      _ _ _ _ (by rfl) (by decide) (by decide) (by decide) (by rfl) (by rfl) ⟨rfl, by rfl⟩ (by rfl)
    have hleft := congrArg (fun root => (root.lookup? ["levels", "k"]).isSome) hroot
    have hthere : ((Engine.new Catalog.schema .standard).apply Catalog.samplePreset
        ⟨FieldPath.extend "levels" "k", "x!+"⟩).1.lookup? ["levels", "k"] = some (.int 0) := by rfl
    exact Bool.noConfusion ((congrArg Option.isSome hthere).symm.trans hleft)

end ConfigGraph
