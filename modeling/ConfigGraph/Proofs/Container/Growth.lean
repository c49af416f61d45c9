/-
  ConfigGraph.Proofs.Container.Growth
  ────────────────────────────────
  **ONE MORE ITEM OR ENTRY, AND AWAY WITH IT AGAIN.**

  Insertion into a list and insertion into a map are one story.  There is a
  place that the segment names and that is not taken; the container can be
  had with any value in that place; and the place has a segment of its own,
  which is a decimal index or the segment that was given.  `Growth` is what
  the story needs to know, and `Grows` says what it is for a list and a map.

  A directive that inserts puts a default instance into the place.  If there
  is more in its value, the last stage exchanges that instance for something
  else, or fails and leaves it there.  Whatever is in the place in the end, a
  directive that removes it by the segment of the place gives back the graph
  as it was.

  Main results:
    * `Grows.write` — writing to the place is having another value there
    * `Grows.apply_insert` — what an insertion leaves
    * `Grows.apply_insert_remove` — a removal undoes it
-/
import ConfigGraph.Proofs.Independence
import ConfigGraph.Proofs.Path.Codec

namespace ConfigGraph

/-! ## §1. Exchanging contents. -/

namespace Value

variable {root node container : Value} {address : Address}

/-- Whoever follows the path finds the new contents. -/
theorem locate?_replaceAt {segments : List String}
    (h : root.locate? segments = some (address, node)) (present : node.present? = some container)
    {container' : Value} (hbare : container'.isBare = true) :
    ∃ node', node'.present? = some container' ∧
      (root.replaceAt address container').locate? segments = some (address, node') := by
  refine ⟨node.mapPresent fun _ => container', ?_, locate?_update_self h _⟩
  rw [present?_mapPresent, present]
  exact present?_of_isBare hbare

end Value

/-! ## §2. Places that are not taken. -/

theorem Items.insertIdx_eq {items : List Value} {k : Nat} (h : k ≤ items.length) (value : Value) :
    items.insertIdx k value = items.take k ++ value :: items.drop k := by
  induction items generalizing k with
  | nil =>
      obtain rfl := Nat.le_zero.mp h
      rfl
  | cons item rest ih =>
      cases k with
      | zero => rfl
      | succ k => simp [ih (Nat.le_of_succ_le_succ h)]

theorem Items.set_insertIdx {items : List Value} {k : Nat} (h : k ≤ items.length)
    (value value' : Value) : (items.insertIdx k value).set k value' = items.insertIdx k value' := by
  rw [insertIdx_eq h, insertIdx_eq h, List.set_append_right _ _ (by simp)]
  simp [Nat.min_eq_left h]

theorem Text.index?_ofNat_min {segment : String} {i : Nat} (reads : Text.index? segment = some i)
    (n : Nat) : Text.index? (Text.ofNat (min i n)) = some (min i n) :=
  Text.index?_ofNat (Nat.le_trans (Nat.min_le_left i n) (Text.le_maxIndex_of_index? reads))

/-- A place in a list or map that can be had with any value in it. -/
structure Growth where
  /-- The shape that is declared for the place. -/
  shape : Shape
  /-- The step to the place. -/
  step : Step
  /-- The segment of the place, once it is taken. -/
  again : String
  /-- The place, with the value in it and the contents around it. -/
  slot : Value → Slot

/-- The place between the first items of a list and the others. -/
def Growth.item (shape : Shape) (items : List Value) (k : Nat) : Growth where
  shape := shape
  step := .index k
  again := Text.ofNat k
  slot value := .element shape (items.insertIdx k value) k

/-- The place of a key in a map. -/
def Growth.entry (order : MapOrder) (shape : Shape) (entries : List (Key × Value))
    (segment : String) : Growth where
  shape := shape
  step := .key (.text segment)
  again := segment
  slot value :=
    .entry order .text shape (Entries.putKey order (.text segment) value entries) segment

/-- An insertion at the segment would take the place. -/
inductive Grows (segment : String) : Value → Growth → Prop where
  /-- In a list, at the index or behind the last item. -/
  | item {shape : Shape} {items : List Value} {i : Nat} (reads : Text.index? segment = some i) :
      Grows segment (.list shape items) (.item shape items (min i items.length))
  /-- In a map, if the key is a new one. -/
  | entry {order : MapOrder} {shape : Shape} {entries : List (Key × Value)}
      (absent : Ordered.find? (.text segment) entries = none) :
      Grows segment (.map order .text shape entries) (.entry order shape entries segment)

namespace Grows

variable {segment : String} {container : Value} {growth : Growth}

theorem binds (h : Grows segment container growth) (value : Value) :
    Slot.Binds (growth.slot value).container growth.step (growth.slot value) := by
  cases h with
  | @item shape items i reads =>
      refine .element ?_
      rw [List.length_insertIdx_of_le_length (Nat.min_le_right i items.length)]
      exact Nat.lt_succ_of_le (Nat.min_le_right i items.length)
  | entry absent => exact .entry rfl (Entries.find?_putKey_self _ _ _ _)

theorem isBare (h : Grows segment container growth) (value : Value) :
    (growth.slot value).container.isBare = true :=
  (h.binds value).isBare

theorem declared (h : Grows segment container growth) (value : Value) :
    (growth.slot value).declared = growth.shape := by
  cases h <;> rfl

/-- The value in the place is the part that the step leads to. -/
theorem part? (h : Grows segment container growth) (value : Value) :
    (growth.slot value).container.part? growth.step = some value := by
  cases h with
  | @item shape items i reads =>
      show (items.insertIdx _ value)[_]? = some value
      rw [List.getElem?_insertIdx_self, if_pos (Nat.min_le_right i items.length)]
  | entry absent => exact Entries.find?_putKey_self _ _ _ _

/-- **WRITING TO THE PLACE IS HAVING ANOTHER VALUE THERE.** -/
theorem write (h : Grows segment container growth) (value new : Value) :
    (growth.slot value).write new = (new.convert growth.shape).map growth.slot := by
  have hbound := h.binds value
  cases h with
  | @item shape items i reads =>
      have hset : (items.insertIdx (min i items.length) value).set (min i items.length)
          = fun new => items.insertIdx (min i items.length) new :=
        funext fun new => Items.set_insertIdx (Nat.min_le_right i items.length) value new
      cases hbound with
      | element bound =>
          simp only [Growth.item, Slot.write, Items.set, if_pos bound, hset]
          cases new.convert shape <;> rfl
  | @entry order shape entries absent =>
      simp only [Growth.entry, Slot.write, Entries.put, KeyKind.read?]
      cases new.convert shape with
      | error cause => rfl
      | ok stored => simp only [Except.map, Entries.putKey_putKey]

/-- So something of the declared shape is in the place after a write. -/
theorem exists_of_write (h : Grows segment container growth) {value new : Value} {slot' : Slot}
    (writes : (growth.slot value).write new = .ok slot') :
    ∃ stored, stored.shape = growth.shape ∧ slot' = growth.slot stored := by
  rw [h.write] at writes
  cases hconvert : new.convert growth.shape with
  | error cause =>
      rw [hconvert] at writes
      cases writes
  | ok stored =>
      rw [hconvert] at writes
      injection writes with hslot
      exact ⟨stored, Value.shape_of_convert hconvert, hslot.symm⟩

/-! ## §3. Segments. -/

/-- The segment of the place can stand where the segment stands. -/
theorem valid_again (h : Grows segment container growth) {path : String}
    (valid : FieldPath.validate (FieldPath.extend path segment) = .ok ())
    (plain : FieldPath.Plain segment) :
    FieldPath.validate (FieldPath.extend path growth.again) = .ok () ∧
      FieldPath.Plain growth.again := by
  cases h with
  | @item shape items i reads =>
      have hplain := FieldPath.plain_ofNat (min i items.length)
      refine ⟨FieldPath.validate_extend_of_le valid plain ?_ hplain ?_, hplain⟩
      · exact FieldPath.ofNat_nonempty _
      · exact Text.utf8ByteSize_ofNat_le reads (Nat.min_le_left i items.length)
  | entry absent => exact ⟨valid, plain⟩

/-- The segment of the place writes the step to it. -/
theorem step?_again (h : Grows segment container growth) {node value : Value} {depth : Nat}
    (present : node.present? = some (growth.slot value).container) (hdepth : depth ≠ 0) :
    node.step? depth growth.again = some (growth.step, value) := by
  have hpart := h.part? value
  cases h with
  | @item shape items i reads =>
      have hreads := Text.index?_ofNat_min reads items.length
      have hitem : (items.insertIdx (min i items.length) value)[min i items.length]? = some value :=
        hpart
      rw [Value.step?_list present hdepth]
      simp only [Growth.item, hreads, Option.bind_some, hitem, Option.map_some]
  | @entry order shape entries absent =>
      rw [Value.step?_map present hdepth]
      simp only [Growth.entry, KeyKind.read?, Option.bind_some, Entries.find?_putKey_self,
        Option.map_some]

/-! ## §4. The last segment. -/

section

variable {schema : Schema} {node fresh value : Value} {depth : Nat}

/-- An insertion puts a default instance into the place; what it says about it does not depend
on the rest of its value. -/
theorem finalStep_insert (h : Grows segment container growth)
    (present : node.present? = some container) (hdepth : depth ≠ 0)
    (instantiates : schema.instantiate growth.shape = some fresh) :
    ∃ message, ∀ value, finalStep schema node depth segment .insert value
      = .ok ⟨some (growth.slot fresh).container, [⟨.edit, message⟩],
          afterInsertion value (growth.slot fresh).selector⟩ := by
  -- A default instance is of the declared shape, so it is stored as it is.
  have hconvert : fresh.convert growth.shape = .ok fresh :=
    Value.convert_self (Schema.shape_of_instantiate instantiates)
  cases h with
  | @item shape items i reads =>
      simp only [Growth.item] at instantiates hconvert
      by_cases hle : items.length ≤ i
      · refine ⟨"Adding new entry of type " ++ shape.name ++ " to end of the list (step " ++
          Text.ofNat depth ++ ")", fun value => ?_⟩
        rw [finalStep_list present hdepth]
        simp only [finalStepList, reads, instantiates, if_pos hle, Items.push, hconvert, Except.map,
          Growth.item, Nat.min_eq_right hle, List.insertIdx_length_self, Slot.container,
          Slot.selector]
      · refine ⟨"Inserting new entry of type " ++ shape.name ++ " to index " ++ Text.ofNat i ++
          " of the list (step " ++ Text.ofNat depth ++ ")", fun value => ?_⟩
        have hlt : i ≤ items.length := Nat.le_of_not_le hle
        rw [finalStep_list present hdepth]
        simp only [finalStepList, reads, instantiates, if_neg hle, Items.insert, if_pos hlt,
          hconvert, Except.map, Growth.item, Nat.min_eq_left hlt, Slot.container, Slot.selector]
  | @entry order shape entries absent =>
      simp only [Growth.entry] at instantiates hconvert
      have hfind : Entries.find? .text entries segment = none := absent
      refine ⟨"Adding key " ++ segment ++ " (step " ++ Text.ofNat depth ++
        ") to target dictionary", fun value => ?_⟩
      rw [finalStep_map present hdepth]
      simp only [finalStepMap, hfind, instantiates, Entries.put, KeyKind.read?, hconvert,
        Except.map, Growth.entry, Slot.container, Slot.selector]
      rfl

/-- Without a default instance there is nothing to put there. -/
theorem finalStep_barren (h : Grows segment container growth)
    (present : node.present? = some container) (hdepth : depth ≠ 0)
    (barren : schema.instantiate growth.shape = none) (value : String) :
    finalStep schema node depth segment .insert value = .error (.noDefault growth.shape) := by
  cases h with
  | item reads =>
      simp only [Growth.item] at barren
      rw [finalStep_list present hdepth]
      simp only [finalStepList, reads, barren, Growth.item]
  | @entry order shape entries absent =>
      simp only [Growth.entry] at barren
      have hfind : Entries.find? .text entries segment = none := absent
      rw [finalStep_map present hdepth]
      simp only [finalStepMap, hfind, barren, Growth.entry]
      rfl

/-- By its own segment, the place is selected. -/
theorem finalStep_select (h : Grows segment container growth)
    (present : node.present? = some (growth.slot value).container) (hdepth : depth ≠ 0)
    (raw : String) : finalStep schema node depth growth.again .overwrite raw
      = .ok ⟨none, [], .update (growth.slot value).selector⟩ := by
  cases h with
  | @item shape items i reads =>
      have hreads := Text.index?_ofNat_min reads items.length
      have hle := Nat.min_le_right i items.length
      rw [finalStep_list present hdepth]
      simp only [finalStepList, Growth.item, hreads, Slot.selector,
        List.length_insertIdx_of_le_length hle, if_pos (Nat.lt_succ_of_le hle)]
  | @entry order shape entries absent =>
      have hfind : Entries.find? .text
          (Entries.putKey order (.text segment) value entries) segment = some value :=
        Entries.find?_putKey_self order (.text segment) value entries
      rw [finalStep_map present hdepth]
      simp only [finalStepMap, Growth.entry, hfind, Slot.selector]
      rfl

/-- By its own segment, the place is given up, whatever is in it. -/
theorem finalStep_remove (h : Grows segment container growth) (schema : Schema)
    (present : node.present? = some (growth.slot value).container)
    (hdepth : depth ≠ 0) :
    ∃ message, ∀ raw, finalStep schema node depth growth.again .remove raw
      = .ok ⟨some container, [⟨.edit, message⟩], .finished .edited⟩ := by
  have hpart := h.part? value
  cases h with
  | @item shape items i reads =>
      have hreads := Text.index?_ofNat_min reads items.length
      have hitem : (items.insertIdx (min i items.length) value)[min i items.length]? = some value :=
        hpart
      refine ⟨"Removing entry at index " ++ Text.ofNat (min i items.length) ++
        " of the list (step " ++ Text.ofNat depth ++ ")", fun raw => ?_⟩
      rw [finalStep_list present hdepth]
      simp only [finalStepList, Growth.item, hreads, Items.remove?, hitem, Option.map_some,
        List.eraseIdx_insertIdx_self]
  | @entry order shape entries absent =>
      have hremove : Entries.remove? .text (Entries.putKey order (.text segment) value entries)
          segment = some (value, entries) := by
        simp only [Entries.remove?, KeyKind.read?, Option.bind_some, Entries.find?_putKey_self,
          Option.map_some, Entries.erase_putKey order absent]
      refine ⟨"Removing key " ++ segment ++ " (step " ++ Text.ofNat depth ++
        ") from target dictionary", fun raw => ?_⟩
      rw [finalStep_map present hdepth]
      simp only [finalStepMap, Growth.entry, hremove]

end

end Grows

/-! ## §5. Directives. -/

/-- The raw value of a directive asks for the operation, and this is the value without its
token. -/
structure Wants (engine : Engine) (raw : String) (operation : Operation) (value : String) :
    Prop where
  /-- It is not the empty text. -/
  nonempty : raw.isEmpty = false
  /-- The token at its end, if there is one, is the one of the operation. -/
  split : engine.config.operators.split raw = (operation, value)

/-- The path leads to the list or map, and the segment can stand behind it. -/
structure Leads (root : Value) (path segment : String) (address : Address)
    (node container : Value) : Prop where
  /-- The longer path is a path. -/
  valid : FieldPath.validate (FieldPath.extend path segment) = .ok ()
  /-- What is behind the shorter one is one segment. -/
  plain : FieldPath.Plain segment
  /-- The path leads to a node. -/
  located : root.locate? (FieldPath.parse path) = some (address, node)
  /-- The list or map is behind the layers of the node. -/
  present : node.present? = some container

section

variable {engine : Engine} {root node container fresh : Value} {path segment raw value : String}
  {operation : Operation} {address : Address} {growth : Growth}

theorem Leads.depth_ne_zero (h : Leads root path segment address node container) :
    (FieldPath.parse path).length ≠ 0 :=
  FieldPath.length_parse_ne_zero h.valid

/-- The last segment of a directive decides at the node. -/
theorem Leads.apply_eq (h : Leads root path segment address node container)
    (wants : Wants engine raw operation value) :
    engine.apply root ⟨FieldPath.extend path segment, raw⟩
      = engine.settle operation value (.of root address node (finalStep engine.schema node
          (FieldPath.parse path).length segment operation value)) := by
  refine apply_of_locate? ?_ h.located
  constructor
  · exact wants.nonempty
  · exact h.valid
  · exact wants.split
  · exact FieldPath.parse_of_validate_extend h.valid h.plain

namespace Grows

/-- Once the place is taken, its own segment can stand behind the path. -/
theorem leads_again (h : Grows segment container growth)
    (leads : Leads root path segment address node container) (value : Value) :
    ∃ node', Leads (root.replaceAt address (growth.slot value).container) path growth.again address
      node' (growth.slot value).container := by
  obtain ⟨valid, plain⟩ := h.valid_again leads.valid leads.plain
  obtain ⟨node', present, located⟩ :=
    Value.locate?_replaceAt leads.located leads.present (h.isBare value)
  exact ⟨node', valid, plain, located, present⟩

/-- **AN INSERTION PUTS A DEFAULT INSTANCE INTO THE PLACE.** If there is more in its value, the
last stage goes on from there. -/
theorem apply_insert (h : Grows segment container growth)
    (leads : Leads root path segment address node container)
    (instantiates : engine.schema.instantiate growth.shape = some fresh) :
    ∃ message, ∀ raw value, Wants engine raw .insert value →
      engine.apply root ⟨FieldPath.extend path segment, raw⟩ =
        if Text.isBlankText value = true then
          (root.replaceAt address (growth.slot fresh).container, ⟨.ok .edited, [⟨.edit, message⟩]⟩)
        else engine.settle .insert value
          ⟨root.replaceAt address (growth.slot fresh).container, [⟨.edit, message⟩],
            .ok (.slot address (growth.slot fresh))⟩ := by
  obtain ⟨message, hstep⟩ := h.finalStep_insert leads.present leads.depth_ne_zero instantiates
  refine ⟨message, fun raw value wants => ?_⟩
  rw [leads.apply_eq wants, hstep]
  cases hblank : Text.isBlankText value with
  | true =>
      rw [if_pos rfl]
      simp only [Landing.of, afterInsertion, hblank, if_true]
      rfl
  | false =>
      have hparent : (node.mapPresent fun _ => (growth.slot fresh).container).present?
          = some (growth.slot fresh).container := by
        rw [Value.present?_mapPresent, leads.present]
        exact Value.present?_of_isBare (h.isBare fresh)
      rw [if_neg Bool.false_ne_true]
      simp only [Landing.of, afterInsertion, hblank, Bool.false_eq_true, if_false,
        (h.binds fresh).resolve hparent, Except.map]

/-- Without a default instance, an insertion is refused. -/
theorem apply_insert_barren (h : Grows segment container growth)
    (leads : Leads root path segment address node container)
    (barren : engine.schema.instantiate growth.shape = none)
    (wants : Wants engine raw .insert value) :
    engine.apply root ⟨FieldPath.extend path segment, raw⟩
      = (root, ⟨.error (.noDefault growth.shape), []⟩) := by
  rw [leads.apply_eq wants, h.finalStep_barren leads.present leads.depth_ne_zero barren]
  rfl

/-- **THE LAST STAGE LEAVES SOMETHING IN THE PLACE**, and touches nothing else. -/
theorem settle_slot (confined : engine.updaters.Confined) (h : Grows segment container growth)
    (hshape : fresh.shape = growth.shape) (operation : Operation) (value : String)
    (notes : List Note) :
    ∃ stored, stored.shape = growth.shape ∧
      (engine.settle operation value
        ⟨root.replaceAt address (growth.slot fresh).container, notes,
          .ok (.slot address (growth.slot fresh))⟩).1
        = root.replaceAt address (growth.slot stored).container := by
  unfold Engine.settle Value.afterUpdate
  simp only []
  rcases hupdate : (engine.updateSlot (growth.slot fresh) operation value notes).slot with _ | slot'
  · exact ⟨fresh, hshape, rfl⟩
  · obtain ⟨new, writes⟩ := updateSlot_confined confined hupdate
    obtain ⟨stored, hstored, rfl⟩ := h.exists_of_write writes
    exact ⟨stored, hstored, by simp only [Value.replaceAt_replaceAt (h.isBare fresh)]⟩

/-- Whatever else an insertion comes to, there is something in the place afterwards. -/
theorem exists_apply_insert (confined : engine.updaters.Confined)
    (h : Grows segment container growth)
    (leads : Leads root path segment address node container)
    (instantiates : engine.schema.instantiate growth.shape = some fresh)
    (wants : Wants engine raw .insert value) :
    ∃ stored, stored.shape = growth.shape ∧
      (engine.apply root ⟨FieldPath.extend path segment, raw⟩).1
        = root.replaceAt address (growth.slot stored).container := by
  obtain ⟨message, happly⟩ := h.apply_insert leads instantiates
  have hshape := Schema.shape_of_instantiate instantiates
  rw [happly raw value wants]
  split
  · exact ⟨fresh, hshape, rfl⟩
  · exact settle_slot confined h hshape .insert value _

/-- An insertion that fails behind the default instance leaves the default instance there. -/
theorem apply_insert_failed (reports : engine.updaters.Reports)
    (h : Grows segment container growth)
    (leads : Leads root path segment address node container)
    (instantiates : engine.schema.instantiate growth.shape = some fresh)
    (wants : Wants engine raw .insert value)
    (failed : (engine.apply root ⟨FieldPath.extend path segment, raw⟩).2.isOk = false) :
    (engine.apply root ⟨FieldPath.extend path segment, raw⟩).1
      = root.replaceAt address (growth.slot fresh).container := by
  obtain ⟨message, happly⟩ := h.apply_insert leads instantiates
  rw [happly raw value wants] at failed ⊢
  cases hblank : Text.isBlankText value with
  | true => rw [if_pos rfl]
  | false =>
      rw [hblank, if_neg Bool.false_ne_true] at failed
      rw [if_neg Bool.false_ne_true]
      have reported :=
        updateSlot_reported reports (growth.slot fresh) .insert value [⟨.edit, message⟩]
      unfold Engine.settle Value.afterUpdate at failed ⊢
      simp only [] at failed ⊢
      generalize engine.updateSlot (growth.slot fresh) .insert value [⟨.edit, message⟩] = update
        at reported failed ⊢
      obtain ⟨slot', notes, result⟩ := update
      rcases result with fault | status
      · obtain ⟨hslot, _⟩ := reported.failed fault rfl
        obtain rfl : slot' = none := hslot
        rfl
      · cases failed

/-- **A REMOVAL GIVES BACK THE GRAPH AS IT WAS**, whatever has come into the place. -/
theorem apply_remove (h : Grows segment container growth)
    (leads : Leads root path segment address node container) (stored : Value)
    (wants : Wants engine raw .remove value) :
    ∃ message, engine.apply (root.replaceAt address (growth.slot stored).container)
        ⟨FieldPath.extend path growth.again, raw⟩
      = (root, ⟨.ok .edited, [⟨.edit, message⟩]⟩) := by
  obtain ⟨node', leads'⟩ := h.leads_again leads stored
  obtain ⟨message, hstep⟩ :=
    h.finalStep_remove engine.schema leads'.present leads'.depth_ne_zero
  have hroot : (root.replaceAt address (growth.slot stored).container).replaceAt address container
      = root := by
    rw [Value.replaceAt_replaceAt (h.isBare stored),
      Value.replaceAt_self (Value.get?_of_locate? leads.located) leads.present]
  refine ⟨message, ?_⟩
  rw [leads'.apply_eq wants, hstep]
  simp only [Landing.of, Engine.settle, hroot]

/-- **WHAT HAS BEEN INSERTED CAN BE REMOVED AGAIN**, with whatever value it was inserted. -/
theorem apply_insert_remove (confined : engine.updaters.Confined)
    (h : Grows segment container growth)
    (leads : Leads root path segment address node container)
    (instantiates : engine.schema.instantiate growth.shape = some fresh)
    (wants : Wants engine raw .insert value) {raw' value' : String}
    (wants' : Wants engine raw' .remove value') :
    ∃ message, engine.apply (engine.apply root ⟨FieldPath.extend path segment, raw⟩).1
        ⟨FieldPath.extend path growth.again, raw'⟩
      = (root, ⟨.ok .edited, [⟨.edit, message⟩]⟩) := by
  obtain ⟨stored, _, hinsert⟩ := exists_apply_insert confined h leads instantiates wants
  rw [hinsert]
  exact h.apply_remove leads stored wants'

end Grows

end

end ConfigGraph
