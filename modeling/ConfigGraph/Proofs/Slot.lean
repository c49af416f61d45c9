/-
  ConfigGraph.Proofs.Slot
  ────────────────────────────────
  **SLOTS THAT FIT THEIR CONTAINER.**

  `Binds container step slot` says that a slot is the place in a bare list,
  map or record that a step leads to, and that something is there.  Resolving
  the selector of such a slot gives the slot back, and a write to it fails
  for one reason only: the shape of the value.  A position that does not
  exist, a text that writes no key and a missing field are causes that bound
  slots do not have.

  Writing to an entry goes through the map's own insertion, which searches
  for the place of the key.  In a well-formed map that search ends at the
  entry, so the write is the exchange of one part, as it is for elements and
  fields.

  Main results:
    * `Entries.keeps_putKey`, `Entries.putKey_of_find?`
    * `Binds.resolve`
    * `Binds.write_of_accepts`, `Binds.write_of_not_accepts`
    * `Binds.write_eq_replace`, `Binds.container_replace`
-/
import ConfigGraph.Directive.Slot
import ConfigGraph.Proofs.Conversion
import ConfigGraph.Proofs.WellFormed

namespace ConfigGraph

/-! ## §1. The order of keys. -/

theorem Key.lt_asymm (a b : Key) (h : a < b) : ¬ b < a := by
  cases a with
  | text s =>
      cases b with
      | text t =>
          have hst : s < t := of_decide_eq_true h
          exact fun h' => String.lt_asymm hst (of_decide_eq_true h')
      | int n => exact fun h' => Bool.noConfusion h'
  | int m =>
      cases b with
      | text t => cases h
      | int n =>
          have hmn : m < n := of_decide_eq_true h
          exact fun h' => Int32.lt_asymm hmn (of_decide_eq_true h')

theorem Key.lt_trans (a b c : Key) (hab : a < b) (hbc : b < c) : a < c := by
  -- Texts come before integers, so of the mixed cases only the ascending ones are left.
  match a, b, c with
  | .text r, .text s, .text t =>
      have hrs : r < s := of_decide_eq_true hab
      have hst : s < t := of_decide_eq_true hbc
      exact decide_eq_true (String.lt_trans hrs hst)
  | .int k, .int m, .int n =>
      have hkm : k < m := of_decide_eq_true hab
      have hmn : m < n := of_decide_eq_true hbc
      exact decide_eq_true (Int32.lt_trans hkm hmn)
  | .text _, _, .int _ => rfl
  | .text _, .int _, .text _ => cases hbc
  | .int _, .text _, _ => cases hab
  | .int _, .int _, .text _ => cases hbc

theorem Text.lt_of_ne_of_not_lt (s t : String) (hne : s ≠ t) (h : ¬ s < t) : t < s := by
  have hle : t ≤ s := String.not_lt.mp h
  exact String.not_le.mp fun hst => hne (String.le_antisymm hst hle)

theorem Key.lt_of_ne_of_not_lt (a b : Key) (hne : a ≠ b) (h : ¬ a < b) : b < a := by
  match a, b with
  | .text s, .text t =>
      have hst : ¬ s < t := fun hst => h (decide_eq_true hst)
      exact decide_eq_true (Text.lt_of_ne_of_not_lt s t (fun heq => hne (congrArg _ heq)) hst)
  | .int m, .int n =>
      have hnm : n ≤ m := Int32.not_lt.mp fun hmn => h (decide_eq_true hmn)
      have hnm' : n ≠ m := fun heq => hne (congrArg Key.int heq.symm)
      exact decide_eq_true (Int32.lt_of_le_of_ne hnm hnm')
  | .text _, .int _ => exact absurd rfl h
  | .int _, .text _ => rfl

/-- A map has no key twice. -/
theorem MapOrder.Keeps.nodup {order : MapOrder} {keys : List Key} (h : order.Keeps keys) :
    keys.Nodup := by
  cases order with
  | sorted =>
      refine List.Pairwise.imp ?_ h
      rintro a _ hlt rfl
      exact Key.lt_asymm a a hlt hlt
  | arrival => exact h

/-- A key that is put joins keys that stay in the order of the map. -/
theorem Entries.keeps_putKey {order : MapOrder} {entries : List (Key × Value)}
    (keeps : order.Keeps (entries.map (·.1))) (key : Key) (value : Value) :
    order.Keeps ((Entries.putKey order key value entries).map (·.1)) := by
  cases order with
  | sorted => exact Ordered.ascending_putSorted Key.lt_trans Key.lt_of_ne_of_not_lt key value keeps
  | arrival => exact Ordered.nodup_putLast key value keeps

theorem Entries.find?_putKey_self (order : MapOrder) (key : Key) (value : Value)
    (entries : List (Key × Value)) :
    Ordered.find? key (Entries.putKey order key value entries) = some value := by
  cases order with
  | sorted => exact Ordered.find?_putSorted_self key value entries
  | arrival => exact Ordered.find?_putLast_self key value entries

theorem Entries.putKey_putKey (order : MapOrder) (key : Key) (value value' : Value)
    (entries : List (Key × Value)) :
    Entries.putKey order key value' (Entries.putKey order key value entries)
      = Entries.putKey order key value' entries := by
  cases order with
  | sorted => exact Ordered.putSorted_putSorted key value value' entries
  | arrival => exact Ordered.putLast_putLast key value value' entries

/-- Both orders put a new key between entries that stay as they are. -/
theorem Entries.putKey_of_absent {key : Key} {entries : List (Key × Value)} (order : MapOrder)
    (h : Ordered.find? key entries = none) (value : Value) :
    ∃ before after, entries = before ++ after ∧
      Entries.putKey order key value entries = before ++ (key, value) :: after := by
  cases order with
  | sorted => exact Ordered.putSorted_of_find?_eq_none h value
  | arrival =>
      exact ⟨entries, [], (List.append_nil _).symm, Ordered.putLast_of_find?_eq_none h value⟩

/-- A new key can be taken out again. -/
theorem Entries.erase_putKey {key : Key} {entries : List (Key × Value)} (order : MapOrder)
    (h : Ordered.find? key entries = none) (value : Value) :
    Ordered.erase key (Entries.putKey order key value entries) = entries := by
  obtain ⟨before, after, rfl, hput⟩ := Entries.putKey_of_absent order h value
  have habsent := Ordered.not_mem_keys_of_find?_eq_none h
  rw [List.map_append, List.mem_append, not_or] at habsent
  rw [hput, Ordered.erase_append habsent.1]

/-- Putting a value at a present key changes the value and moves nothing. -/
theorem Entries.putKey_of_find? {order : MapOrder} {key : Key} {old : Value}
    {entries : List (Key × Value)} (keeps : order.Keeps (entries.map (·.1)))
    (h : Ordered.find? key entries = some old) (value : Value) :
    Entries.putKey order key value entries = Ordered.modify key (fun _ => value) entries := by
  cases order with
  | sorted => exact Ordered.putSorted_of_find? Key.lt_asymm keeps h value
  | arrival => exact Ordered.putLast_of_find? h value

/-- The keys of a bare map stand in the order that the map keeps. -/
def Value.KeepsKeys : Value → Prop
  | .map order _ _ entries => order.Keeps (entries.map (·.1))
  | _ => True

theorem Value.WellFormed.keepsKeys {schema : Schema} {value : Value}
    (wf : value.WellFormed schema) : value.KeepsKeys := by
  cases wf with
  | map keeps _ _ _ => exact keeps
  | _ => trivial

namespace Slot

/-! ## §2. Bound slots. -/

/-- The slot is the place in a bare container that the step leads to, and it is occupied. -/
inductive Binds : Value → Step → Slot → Prop where
  | element {shape : Shape} {items : List Value} {i : Nat} (bound : i < items.length) :
      Binds (.list shape items) (.index i) (.element shape items i)
  | entry {order : MapOrder} {kind : KeyKind} {shape : Shape} {entries : List (Key × Value)}
      {text : String} {key : Key} {old : Value} (reads : kind.read? text = some key)
      (present : Ordered.find? key entries = some old) :
      Binds (.map order kind shape entries) (.key key) (.entry order kind shape entries text)
  | field {record : String} {fields : List (String × Value)} {name : String} {part : Value}
      (present : Ordered.find? name fields = some part) :
      Binds (.record record fields) (.field name) (.field record fields name part.shape)

variable {container : Value} {step : Step} {slot : Slot}

theorem Binds.isBare (h : Binds container step slot) : container.isBare = true := by
  cases h <;> rfl

theorem Binds.target?_eq (h : Binds container step slot) :
    slot.target? = container.part? step := by
  cases h with
  | entry reads _ =>
      rw [target?, Entries.find?, reads]
      rfl
  | _ => rfl

theorem Binds.exists_part (h : Binds container step slot) :
    ∃ part, container.part? step = some part := by
  cases h with
  | element bound => exact ⟨_, List.getElem?_eq_getElem bound⟩
  | entry _ present => exact ⟨_, present⟩
  | field present => exact ⟨_, present⟩

/-- **A selector finds its slot.** -/
theorem Binds.resolve (h : Binds container step slot) {parent : Value}
    (hparent : parent.present? = some container) :
    Slot.resolve parent slot.selector = .ok slot := by
  cases h with
  | element bound => simp [Slot.resolve, selector, hparent, bound]
  | entry reads present =>
      simp [Slot.resolve, selector, hparent, Entries.find?, reads, present]
  | field present => simp [Slot.resolve, selector, hparent, present]

/-! ## §3. Writing. -/

/-- A bound slot takes what its declared shape accepts. -/
theorem Binds.write_of_accepts (h : Binds container step slot) {value : Value}
    (haccepts : slot.declared.accepts value.shape = true) :
    ∃ slot', slot.write value = .ok slot' := by
  obtain ⟨stored, hok, _, _⟩ := Value.convert_of_accepts haccepts
  cases h with
  | element bound =>
      rw [declared] at hok
      exact ⟨_, by rw [write, Items.set, if_pos bound, hok]; rfl⟩
  | entry reads _ =>
      rw [declared] at hok
      exact ⟨_, by rw [write, Entries.put, reads]; simp only [hok]; rfl⟩
  | field present =>
      rw [declared] at hok
      exact ⟨_, by rw [write, present]; simp only [Value.assign, hok]; rfl⟩

/-- And it refuses everything else for its shape. -/
theorem Binds.write_of_not_accepts (h : Binds container step slot) {value : Value}
    (hrefuses : slot.declared.accepts value.shape = false) :
    slot.write value = .error (.typeMismatch slot.declared.resolved value.shape) := by
  have herror := Value.convert_of_not_accepts hrefuses
  cases h with
  | element bound =>
      rw [declared] at herror ⊢
      rw [write, Items.set, if_pos bound, herror]
      rfl
  | entry reads _ =>
      rw [declared] at herror ⊢
      rw [write, Entries.put, reads]
      simp only [herror]
      rfl
  | field present =>
      rw [declared] at herror ⊢
      rw [write, present]
      simp only [Value.assign, herror]
      rfl

/-- **A WRITE EXCHANGES ONE PART.** The conversion aside, it is the unchecked replacement. -/
theorem Binds.write_of_keepsKeys (h : Binds container step slot) (keeps : container.KeepsKeys)
    (value : Value) : slot.write value = (value.convert slot.declared).map slot.replace := by
  cases h with
  | @element shape items i bound =>
      rw [write, Items.set, if_pos bound, declared]
      cases value.convert shape <;> rfl
  | @entry order kind shape entries text key old reads present =>
      -- The only kind of slot for which the order of the keys matters.
      rw [write, Entries.put, reads, declared]
      cases hok : value.convert shape with
      | error cause => rfl
      | ok stored => simp only [Except.map, replace, reads, Entries.putKey_of_find? keeps present]
  | @field record fields name part present =>
      rw [write, present, declared]
      simp only [Value.assign]
      cases value.convert part.shape <;> rfl

theorem Binds.write_eq_replace (h : Binds container step slot) {schema : Schema}
    (wf : container.WellFormed schema) (value : Value) :
    slot.write value = (value.convert slot.declared).map slot.replace :=
  h.write_of_keepsKeys wf.keepsKeys value

theorem Binds.container_replace (h : Binds container step slot) (value : Value) :
    (slot.replace value).container = Value.mapPart step (fun _ => value) container := by
  cases h with
  | @element shape items i _ =>
      rw [replace, Slot.container, Value.mapPart_index_const]
  | entry reads _ => simp only [replace, reads, Slot.container, Value.mapPart]
  | field _ => rfl

/-! ## §4. Declared shapes. -/

/-- In a well-formed container the slot is declared as its step is. -/
theorem Binds.declared_eq (h : Binds container step slot) {schema : Schema}
    (wf : container.WellFormed schema) :
    schema.partShape? container step = some slot.declared := by
  cases h with
  | @field record fields name part present =>
      have hpart : (Value.record record fields).part? (.field name) = some part := present
      exact (wf.part hpart).2
  | _ => rfl

/-- So what is in the slot has the shape that the slot declares. -/
theorem Binds.declared_eq_shape (h : Binds container step slot) {schema : Schema}
    (wf : container.WellFormed schema) {part : Value} (hpart : container.part? step = some part) :
    slot.declared = part.shape :=
  Option.some.inj ((h.declared_eq wf).symm.trans (wf.part hpart).2)

end Slot

end ConfigGraph
