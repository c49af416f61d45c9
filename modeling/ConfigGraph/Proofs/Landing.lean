/-
  ConfigGraph.Proofs.Landing
  ────────────────────────────────
  **EVERYTHING THAT FOLLOWING A PATH CAN DO.**

  `Lands` lists the ends that a path can come to, each with what is known
  when it is reached and with the landing as it is then.  There are seven:

      stopped     a segment leads nowhere
      refused     an insertion that the list or map cannot take
      selected    an existing slot, nothing changed
      held        an insertion at a key that the map has, nothing changed
      added       an insertion, and the directive is complete
      opened      an insertion, and the new slot is to be updated
      removed     a removal, and the directive is complete

  `land_lands` opens the functions of the last segment once for all runs, and
  what the engine does is read off `Lands`.  Where two runs are compared, or a
  message matters, `land_of_locate?` leads to those functions themselves.

  Main results:
    * `land_lands`, `land_of_locate?`
    * `Addition.binds` — the slot of an insertion is there, and it is fresh
    * `Value.replaceAt_mapPart` — writing a slot is an update at its address
    * `Value.replaceAt_self`, `Value.replaceAt_replaceAt`
-/
import ConfigGraph.Proofs.Lookup
import ConfigGraph.Proofs.Slot

namespace ConfigGraph

/-! ## §1. Insertions and removals. -/

/-- The second container is the first with one more item or entry, which the step leads to
and which holds a default instance. Everything else is as it was. -/
inductive Addition (schema : Schema) (segment : String) : Value → Step → Value → Prop where
  /-- A list has the new item at the index, or behind its last one. -/
  | item {shape : Shape} {items : List Value} {i : Nat} {added : Value}
      (reads : Text.index? segment = some i) (fresh : schema.instantiate shape = some added) :
      Addition schema segment (.list shape items) (.index (min i items.length))
        (.list shape (items.insertIdx (min i items.length) added))
  /-- A map has the new entry where the map's order puts it. -/
  | entry {order : MapOrder} {shape : Shape} {before after : List (Key × Value)} {added : Value}
      (absent : Ordered.find? (.text segment) (before ++ after) = none)
      (fresh : schema.instantiate shape = some added)
      (place : Entries.putKey order (.text segment) added (before ++ after)
        = before ++ (.text segment, added) :: after) :
      Addition schema segment (.map order .text shape (before ++ after)) (.key (.text segment))
        (.map order .text shape (before ++ (.text segment, added) :: after))

/-- The second container is the first without one item or entry. -/
inductive Removal (segment : String) : Value → Value → Prop where
  /-- A list has lost the item at the index. -/
  | item {shape : Shape} {items : List Value} {i : Nat} (reads : Text.index? segment = some i)
      (bound : i < items.length) :
      Removal segment (.list shape items) (.list shape (items.eraseIdx i))
  /-- A map has lost the entry at the key. -/
  | entry {order : MapOrder} {kind : KeyKind} {shape : Shape} {entries : List (Key × Value)}
      {key : Key} {old : Value} (reads : kind.read? segment = some key)
      (present : Ordered.find? key entries = some old) :
      Removal segment (.map order kind shape entries)
        (.map order kind shape (Ordered.erase key entries))

/-- Nothing can be inserted into the container, and this is the fault about it. -/
inductive Refuses (schema : Schema) (depth : Nat) (segment : String) : Value → Fault → Prop where
  /-- The items have no default instance. -/
  | item {shape : Shape} {items : List Value} {i : Nat} (reads : Text.index? segment = some i)
      (barren : schema.instantiate shape = none) :
      Refuses schema depth segment (.list shape items) (.noDefault shape)
  /-- The values have no default instance. -/
  | entry {order : MapOrder} {shape : Shape} {entries : List (Key × Value)}
      (absent : Ordered.find? (.text segment) entries = none)
      (barren : schema.instantiate shape = none) :
      Refuses schema depth segment (.map order .text shape entries) (.noDefault shape)
  /-- The keys are no texts. -/
  | key {order : MapOrder} {kind : KeyKind} {shape : Shape} {entries : List (Key × Value)}
      (foreign : kind ≠ .text) :
      Refuses schema depth segment (.map order kind shape entries)
        (.unsupportedKey depth segment kind)

/-- A key that the map does not have is added between entries that stay as they are. -/
theorem Addition.of_absent {schema : Schema} {segment : String} {order : MapOrder} {shape : Shape}
    {entries : List (Key × Value)} {added : Value}
    (absent : Ordered.find? (.text segment) entries = none)
    (fresh : schema.instantiate shape = some added) :
    Addition schema segment (.map order .text shape entries) (.key (.text segment))
      (.map order .text shape (Entries.putKey order (.text segment) added entries)) := by
  obtain ⟨before, after, hentries, hput⟩ := Entries.putKey_of_absent order absent added
  rw [hput]
  subst hentries
  exact .entry absent fresh hput

/-- How a step is selected, in the words of the segment that wrote it. -/
def Step.selector (segment : String) : Step → Selector
  | .field name => .field name
  | .index i => .index i
  | .key _ => .key segment

/-- A container with an addition has a slot there, and the slot holds the default instance
of its shape. -/
theorem Addition.binds {schema : Schema} {segment : String} {container container' : Value}
    {step : Step} (h : Addition schema segment container step container') :
    ∃ slot added, Slot.Binds container' step slot ∧ slot.selector = step.selector segment ∧
      slot.target? = some added ∧ schema.instantiate slot.declared = some added := by
  cases h with
  | @item shape items i added reads fresh =>
      have hle : min i items.length ≤ items.length := Nat.min_le_right _ _
      have hlt : min i items.length < (items.insertIdx (min i items.length) added).length := by
        rw [List.length_insertIdx_of_le_length hle]
        omega
      refine ⟨_, added, .element hlt, rfl, ?_, fresh⟩
      show (items.insertIdx (min i items.length) added)[min i items.length]? = some added
      rw [List.getElem?_insertIdx_self, if_pos hle]
  | @entry order shape before after added absent fresh place =>
      -- Looked up through the insertion itself, so that nothing about the two parts is needed.
      have hfind : Ordered.find? (Key.text segment) (before ++ (.text segment, added) :: after)
          = some added := by
        rw [← place, Entries.find?_putKey_self]
      have hbinds : Slot.Binds _ _ (.entry order .text shape _ segment) := .entry rfl hfind
      exact ⟨_, added, hbinds, rfl, hfind, fresh⟩

/-! ## §2. The ends of a path. -/

/-- What is known of a landing when the path `before ++ [last]` is followed. -/
inductive Lands (schema : Schema) (root : Value) (before : List String) (last : String)
    (operation : Operation) (value : String) : Landing → Prop where
  /-- A segment leads nowhere. -/
  | stopped {fault : Fault} (stops : Stops root 0 (before ++ [last]) fault) :
      Lands schema root before last operation value ⟨root, [], .error fault⟩
  /-- The parent takes no insertion. -/
  | refused {address : Address} {node container : Value} {fault : Fault}
      (located : root.locate? before = some (address, node))
      (present : node.present? = some container) (inserting : operation = .insert)
      (refuses : Refuses schema before.length last container fault) :
      Lands schema root before last operation value ⟨root, [], .error fault⟩
  /-- There is a slot, and it is to be updated. -/
  | selected {address : Address} {node container part : Value} {step : Step} {slot : Slot}
      (located : root.locate? before = some (address, node))
      (present : node.present? = some container)
      (leads : node.step? before.length last = some (step, part))
      (binds : Slot.Binds container step slot)
      (selecting : operation = .overwrite ∨ operation = .defaultValue ∨
        ∃ name, step = .field name) :
      Lands schema root before last operation value ⟨root, [], .ok (.slot address slot)⟩
  /-- The map has the key already. -/
  | held {address : Address} {node old : Value} {order : MapOrder} {shape : Shape}
      {entries : List (Key × Value)} {message : String}
      (located : root.locate? before = some (address, node))
      (present : node.present? = some (.map order .text shape entries))
      (inserting : operation = .insert) (found : Ordered.find? (.text last) entries = some old) :
      Lands schema root before last operation value
        ⟨root, [⟨.attempt, message⟩], .ok (.finished .unchanged)⟩
  /-- An insertion was all that was asked for. -/
  | added {address : Address} {node container container' : Value} {step : Step} {message : String}
      (located : root.locate? before = some (address, node))
      (present : node.present? = some container) (inserting : operation = .insert)
      (adds : Addition schema last container step container')
      (blank : Text.isBlankText value = true) :
      Lands schema root before last operation value
        ⟨root.replaceAt address container', [⟨.edit, message⟩], .ok (.finished .edited)⟩
  /-- After an insertion, the new slot is to be updated. -/
  | opened {address : Address} {node container container' fresh : Value} {step : Step}
      {slot : Slot} {message : String} (located : root.locate? before = some (address, node))
      (present : node.present? = some container) (inserting : operation = .insert)
      (adds : Addition schema last container step container')
      (filled : Text.isBlankText value = false) (binds : Slot.Binds container' step slot)
      (holds : slot.target? = some fresh)
      (instantiates : schema.instantiate slot.declared = some fresh) :
      Lands schema root before last operation value
        ⟨root.replaceAt address container', [⟨.edit, message⟩], .ok (.slot address slot)⟩
  /-- An item or an entry was taken out. -/
  | removed {address : Address} {node container container' : Value} {message : String}
      (located : root.locate? before = some (address, node))
      (present : node.present? = some container) (removing : operation = .remove)
      (removes : Removal last container container') :
      Lands schema root before last operation value
        ⟨root.replaceAt address container', [⟨.edit, message⟩], .ok (.finished .edited)⟩

/-! ## §3. Every path comes to one of them. -/

variable {schema : Schema} {root : Value} {before : List String} {last : String}
  {operation : Operation} {value : String} {address : Address} {node container : Value}

theorem Lands.of_misses {fault : Fault} (located : root.locate? before = some (address, node))
    (misses : Misses node before.length last fault) :
    Lands schema root before last operation value ⟨root, [], .error fault⟩ := by
  refine .stopped (Stops.of_locateFrom? located (.here ?_))
  rw [Nat.zero_add]
  exact misses

/-- A selected slot is the slot that the directive goes on with. -/
theorem Lands.of_selected {part : Value} {step : Step} {slot : Slot}
    (located : root.locate? before = some (address, node))
    (present : node.present? = some container)
    (leads : node.step? before.length last = some (step, part))
    (binds : Slot.Binds container step slot)
    (selecting : operation = .overwrite ∨ operation = .defaultValue ∨ ∃ name, step = .field name) :
    Lands schema root before last operation value
      (.of root address node (.ok ⟨none, [], .update slot.selector⟩)) := by
  have hland : Landing.of root address node (.ok ⟨none, [], .update slot.selector⟩)
      = ⟨root, [], .ok (.slot address slot)⟩ := by
    simp only [Landing.of, binds.resolve present, Except.map]
  rw [hland]
  exact .selected located present leads binds selecting

/-- An insertion ends the directive, or goes on with the slot that it made. -/
theorem Lands.of_addition {container' : Value} {step : Step} {message : String}
    (located : root.locate? before = some (address, node))
    (present : node.present? = some container) (inserting : operation = .insert)
    (adds : Addition schema last container step container') :
    Lands schema root before last operation value (.of root address node
      (.ok ⟨some container', [⟨.edit, message⟩], afterInsertion value (step.selector last)⟩)) := by
  obtain ⟨slot, fresh, binds, hselector, holds, instantiates⟩ := adds.binds
  cases hblank : Text.isBlankText value with
  | true =>
      have hland : Landing.of root address node
          (.ok ⟨some container', [⟨.edit, message⟩], afterInsertion value (step.selector last)⟩)
          = ⟨root.replaceAt address container', [⟨.edit, message⟩], .ok (.finished .edited)⟩ := by
        simp only [Landing.of, afterInsertion, hblank, if_true]
      rw [hland]
      exact .added located present inserting adds hblank
  | false =>
      -- The selector is resolved in the changed parent, whose layers are the old ones.
      have hparent : (node.mapPresent fun _ => container').present? = some container' := by
        rw [Value.present?_mapPresent, present]
        exact Value.present?_of_isBare binds.isBare
      have hland : Landing.of root address node
          (.ok ⟨some container', [⟨.edit, message⟩], afterInsertion value (step.selector last)⟩)
          = ⟨root.replaceAt address container', [⟨.edit, message⟩], .ok (.slot address slot)⟩ := by
        simp only [Landing.of, afterInsertion, hblank, if_false, Bool.false_eq_true, ← hselector,
          binds.resolve hparent, Except.map]
      rw [hland]
      exact .opened located present inserting adds hblank binds holds instantiates

/-- Behind the first segment, the last one is tried as an index at a list. -/
theorem finalStep_list {depth : Nat} {shape : Shape} {items : List Value}
    (present : node.present? = some (.list shape items)) (hdepth : depth ≠ 0)
    (schema : Schema) (segment : String) (operation : Operation) (value : String) :
    finalStep schema node depth segment operation value
      = finalStepList schema shape items depth segment operation value := by
  simp only [finalStep, present, if_neg hdepth]

/-- And as a key at a map. -/
theorem finalStep_map {depth : Nat} {order : MapOrder} {kind : KeyKind} {shape : Shape}
    {entries : List (Key × Value)} (present : node.present? = some (.map order kind shape entries))
    (hdepth : depth ≠ 0) (schema : Schema) (segment : String) (operation : Operation)
    (value : String) :
    finalStep schema node depth segment operation value
      = finalStepMap schema order kind shape entries depth segment operation value := by
  simp only [finalStep, present, if_neg hdepth]

theorem lands_list {shape : Shape} {items : List Value}
    (located : root.locate? before = some (address, node))
    (present : node.present? = some (.list shape items)) (hdepth : before.length ≠ 0) :
    Lands schema root before last operation value (.of root address node
      (finalStepList schema shape items before.length last operation value)) := by
  rw [finalStepList]
  cases hindex : Text.index? last with
  | none => exact .of_misses located (.invalidIndex present hindex)
  | some i =>
      have hselect (hop : operation = .overwrite ∨ operation = .defaultValue) :
          Lands schema root before last operation value (.of root address node
            (if i < items.length then .ok ⟨none, [], .update (.index i)⟩
              else .error (.indexOutOfBounds before.length i items.length))) := by
        by_cases hlt : i < items.length
        · have hstep : node.step? before.length last = some (.index i, items[i]) := by
            rw [Value.step?_list present hdepth, hindex, Option.bind_some,
              List.getElem?_eq_getElem hlt]
            rfl
          rw [if_pos hlt]
          refine .of_selected located present hstep (.element hlt) ?_
          exact hop.imp_right Or.inl
        · rw [if_neg hlt]
          exact .of_misses located (.indexOutOfBounds present hindex (Nat.le_of_not_lt hlt))
      cases operation with
      | overwrite => exact hselect (.inl rfl)
      | defaultValue => exact hselect (.inr rfl)
      | remove =>
          simp only [Items.remove?]
          cases hget : items[i]? with
          | none =>
              have hbeyond : items.length ≤ i := List.getElem?_eq_none_iff.mp hget
              exact .of_misses located (.indexOutOfBounds present hindex hbeyond)
          | some item =>
              obtain ⟨hlt, _⟩ := List.getElem?_eq_some_iff.mp hget
              exact .removed located present rfl (.item hindex hlt)
      | insert =>
          simp only []
          cases hfresh : schema.instantiate shape with
          | none => exact .refused located present rfl (.item hindex hfresh)
          | some added =>
              -- A default instance has the shape of the items, so the list cannot refuse it.
              have hconvert : added.convert shape = .ok added :=
                Value.convert_self (Schema.shape_of_instantiate hfresh)
              have hadds : Addition schema last (.list shape items) _ _ := .item hindex hfresh
              -- Pushing is inserting at the length, the lesser of the two positions.
              by_cases hle : items.length ≤ i
              · have hmin : min i items.length = items.length := Nat.min_eq_right hle
                rw [hmin, List.insertIdx_length_self] at hadds
                simp only [hle, if_true, Items.push, hconvert, Except.map]
                exact .of_addition located present rfl hadds
              · have hlt : i ≤ items.length := Nat.le_of_not_le hle
                have hmin : min i items.length = i := Nat.min_eq_left hlt
                rw [hmin] at hadds
                simp only [hle, if_false, Items.insert, hlt, if_true, hconvert, Except.map]
                exact .of_addition located present rfl hadds

theorem lands_map {order : MapOrder} {kind : KeyKind} {shape : Shape}
    {entries : List (Key × Value)} (located : root.locate? before = some (address, node))
    (present : node.present? = some (.map order kind shape entries)) (hdepth : before.length ≠ 0) :
    Lands schema root before last operation value (.of root address node
      (finalStepMap schema order kind shape entries before.length last operation value)) := by
  have hselect (hop : operation = .overwrite ∨ operation = .defaultValue) :
      Lands schema root before last operation value (.of root address node
        (if (Entries.find? kind entries last).isSome then .ok ⟨none, [], .update (.key last)⟩
          else .error (.keyNotFound before.length last))) := by
    cases hfind : Entries.find? kind entries last with
    | none => exact .of_misses located (.keyNotFound present hfind)
    | some part =>
        obtain ⟨key, hkey, hpart⟩ := Option.bind_eq_some_iff.mp hfind
        have hstep : node.step? before.length last = some (.key key, part) := by
          rw [Value.step?_map present hdepth, hkey, Option.bind_some, hpart]
          rfl
        have hbinds : Slot.Binds _ _ (.entry order kind shape entries last) := .entry hkey hpart
        exact .of_selected located present hstep hbinds (hop.imp_right Or.inl)
  unfold finalStepMap
  cases operation with
  | overwrite => exact hselect (.inl rfl)
  | defaultValue => exact hselect (.inr rfl)
  | remove =>
      simp only [Entries.remove?]
      cases hkey : kind.read? last with
      | none =>
          refine .of_misses located (.keyNotFound present ?_)
          rw [Entries.find?, hkey]
          rfl
      | some key =>
          cases hfind : Ordered.find? key entries with
          | none =>
              simp only [Option.bind_some, hfind, Option.map_none]
              refine .of_misses located (.keyNotFound present ?_)
              rw [Entries.find?, hkey]
              exact hfind
          | some old =>
              simp only [Option.bind_some, hfind, Option.map_some]
              exact .removed located present rfl (.entry hkey hfind)
  | insert =>
      by_cases hkind : kind = .text
      · subst hkind
        have hkey : Entries.find? .text entries last = Ordered.find? (.text last) entries := rfl
        simp only [ne_eq, not_true, if_false, hkey]
        cases hfind : Ordered.find? (Key.text last) entries with
        | some old => exact .held located present rfl hfind
        | none =>
            simp only [Option.isSome_none, Bool.false_eq_true, if_false]
            cases hfresh : schema.instantiate shape with
            | none => exact .refused located present rfl (.entry hfind hfresh)
            | some added =>
                have hconvert : added.convert shape = .ok added :=
                  Value.convert_self (Schema.shape_of_instantiate hfresh)
                have hput : Entries.put order .text shape entries last added
                    = .ok (Entries.putKey order (.text last) added entries) := by
                  simp only [Entries.put, KeyKind.read?, hconvert, Except.map]
                simp only [hput]
                exact .of_addition located present rfl (.of_absent hfind hfresh)
      · simp only [ne_eq, hkind, not_false_eq_true, if_true]
        exact .refused located present rfl (.key hkind)

/-- The last segment at a record: the field is there, or it is missed. -/
theorem lands_record {name : String} {fields : List (String × Value)}
    (located : root.locate? before = some (address, node))
    (present : node.present? = some (.record name fields)) :
    Lands schema root before last operation value (.of root address node
      (if Ordered.contains last fields then .ok ⟨none, [], .update (.field last)⟩
        else .error (.fieldNotFound before.length last (.record name)))) := by
  have hstep : node.step? before.length last = _ := Value.step?_record present
  cases hfind : Ordered.find? last fields with
  | some part =>
      rw [hfind] at hstep
      rw [Ordered.contains, hfind]
      exact .of_selected located present hstep (.field hfind) (.inr (.inr ⟨last, rfl⟩))
  | none =>
      rw [hfind] at hstep
      rw [Ordered.contains, hfind]
      exact .of_misses located (.fieldNotFound present (.inr rfl) hstep)

theorem land_concat (schema : Schema) (root : Value) (before : List String) (last : String)
    (operation : Operation) (value : String) :
    land schema root (before ++ [last]) operation value =
      match descendAll root 0 before with
      | .error fault => ⟨root, [], .error fault⟩
      | .ok (address, target) =>
          .of root address target (finalStep schema target before.length last operation value) := by
  have hlength : (before ++ [last]).length - 1 = before.length := by
    rw [List.length_append, List.length_singleton, Nat.add_sub_cancel]
  cases hdescend : descendAll root 0 before with
  | error fault => simp only [land, List.getLast?_concat, List.dropLast_concat, hdescend]
  | ok found =>
      simp only [land, List.getLast?_concat, List.dropLast_concat, hlength, hdescend]

/-- At a node, a path lands where its last segment does. -/
theorem land_of_locate? (located : root.locate? before = some (address, node))
    (schema : Schema) (last : String) (operation : Operation) (value : String) :
    land schema root (before ++ [last]) operation value =
      .of root address node (finalStep schema node before.length last operation value) := by
  rw [land_concat]
  rcases descendAll_cases root 0 before with ⟨found, hfound, hdescend⟩ | ⟨fault, stops, _⟩
  · injection located.symm.trans hfound with hfound
    rw [hdescend, ← hfound]
  · exact nomatch located.symm.trans stops.locateFrom?_eq_none

/-- Without a node, a path stops before its last segment. -/
theorem land_of_locate?_eq_none (unlocated : root.locate? before = none) (schema : Schema)
    (last : String) (operation : Operation) (value : String) :
    ∃ fault, Stops root 0 before fault ∧
      land schema root (before ++ [last]) operation value = ⟨root, [], .error fault⟩ := by
  rw [land_concat]
  rcases descendAll_cases root 0 before with ⟨found, hfound, _⟩ | ⟨fault, stops, hdescend⟩
  · exact nomatch unlocated.symm.trans hfound
  · exact ⟨fault, stops, by rw [hdescend]⟩

/-- **EVERYTHING THAT FOLLOWING A PATH CAN DO**: one of the seven ends of `Lands`. -/
theorem land_lands (schema : Schema) (root : Value) (before : List String) (last : String)
    (operation : Operation) (value : String) :
    Lands schema root before last operation value
      (land schema root (before ++ [last]) operation value) := by
  cases located : root.locate? before with
  | none =>
    obtain ⟨fault, stops, hland⟩ := land_of_locate?_eq_none located schema last operation value
    rw [hland]
    exact .stopped (stops.append [last])
  | some found =>
    obtain ⟨address, node⟩ := found
    rw [land_of_locate? located]
    unfold finalStep
    cases present : node.present? with
    | none => exact .of_misses located (.nullTarget present)
    | some inside =>
        -- The first segment names a field of a record and enters nothing else.
        have hroot (hdepth : before.length = 0) (hnotRecord : ∀ name fields,
            inside ≠ .record name fields) : Lands schema root before last operation value
              ⟨root, [], .error (.fieldNotFound before.length last inside.shape)⟩ := by
          refine .of_misses located (.fieldNotFound present (.inr rfl) ?_)
          rw [hdepth]
          exact Value.step?_zero present hnotRecord
        cases inside with
        | record name fields => exact lands_record located present
        | list shape items =>
            by_cases hdepth : before.length = 0
            · simp only [hdepth, if_true]
              rw [← hdepth]
              exact hroot hdepth (fun _ _ => Value.noConfusion)
            · simp only [hdepth, if_false]
              exact lands_list located present hdepth
        | map order kind shape entries =>
            by_cases hdepth : before.length = 0
            · simp only [hdepth, if_true]
              rw [← hdepth]
              exact hroot hdepth (fun _ _ => Value.noConfusion)
            · simp only [hdepth, if_false]
              exact lands_map located present hdepth
        | _ =>
            refine .of_misses located (.fieldNotFound present (.inr rfl) ?_)
            rw [Value.step?, present]

/-! ## §4. Exchanging what is behind the layers of a node. -/

namespace Value

/-- Replacing the container of a node replaces the node, its layers kept. -/
theorem replacedAt_replaceAt (h : root.get? address = some node) (container : Value) :
    ReplacedAt root (root.replaceAt address container) address
      (node.mapPresent fun _ => container) :=
  replacedAt_update h _

/-- The contents that are there may be put there. -/
theorem replaceAt_self (h : root.get? address = some node)
    (present : node.present? = some container) : root.replaceAt address container = root :=
  update_eq_self h (mapPresent_eq_self present rfl)

/-- Contents that have been put somewhere can be exchanged again. -/
theorem replaceAt_replaceAt {container : Value} (hbare : container.isBare = true) (other : Value) :
    (root.replaceAt address container).replaceAt address other = root.replaceAt address other := by
  rw [replaceAt, replaceAt, update_update_self, replaceAt]
  congr 1
  funext node
  exact mapPresent_mapPresent _ fun _ _ => hbare

/-- Exchanging one part of the container is the update at the address of that part. -/
theorem replaceAt_mapPart (h : root.get? address = some node)
    (present : node.present? = some container) (step : Step) (new : Value) :
    root.replaceAt address (mapPart step (fun _ => new) container)
      = root.update (fun _ => new) (address ++ [step]) := by
  have hnode : (node.mapPresent fun _ => mapPart step (fun _ => new) container)
      = node.update (fun _ => new) [step] :=
    mapPresent_congr_of_present? present rfl
  rw [replaceAt, update_append, update_eq_replace h,
    update_eq_replace h (update (fun _ => new) [step]), hnode]

end Value

end ConfigGraph
