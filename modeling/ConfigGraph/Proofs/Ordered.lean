/-
  ConfigGraph.Proofs.Ordered
  ────────────────────────────────
  **ENTRY LISTS: LOOKING UP WHAT WAS PUT IN.**

  The laws of `find?` against the functions that change an entry list, and
  the one law that needs an order: in a list that ascends by key, inserting
  at a present key changes the value at that key and nothing else.  Without
  the order it does not, because a greater key in front of the present one
  would stop the search.

  What the functions leave alone is said once, by `without`: the entries at
  other keys are the same entries in the same order after a change, a
  deletion or an insertion.  What they keep is said of the keys: they still
  ascend, or are still distinct.

  Main results:
    * `find?_modify_self`, `find?_modify_of_ne`, `modify_append`, `modify_map`
    * `find?_putSorted_self`, `find?_putLast_self`
    * `putSorted_of_find?`, `putLast_of_find?`
    * `putSorted_of_find?_eq_none`, `putLast_of_find?_eq_none`
    * `without_modify`, `without_erase`, `without_putSorted`
    * `ascending_putSorted`, `nodup_putLast`, `ascending_insertMember`
    * `mem_insertMember_iff`, `eraseMember_eq_erase`, `eraseMember_insertMember`
-/
import Mathlib.Data.List.Nodup
import ConfigGraph.Ordered

namespace ConfigGraph.Ordered

variable {α β : Type} [DecidableEq α]

/-! ## §1. Membership. -/

theorem mem_of_find? {key : α} {value : β} {entries : List (α × β)}
    (h : find? key entries = some value) : (key, value) ∈ entries := by
  induction entries with
  | nil => cases h
  | cons entry rest ih =>
      obtain ⟨k, v⟩ := entry
      by_cases hk : key = k
      · rw [find?, if_pos hk] at h
        injection h with h
        rw [hk, h]
        exact List.mem_cons_self
      · rw [find?, if_neg hk] at h
        exact List.mem_cons_of_mem _ (ih h)

/-- A key that is not found is not there. -/
theorem not_mem_keys_of_find?_eq_none {key : α} {entries : List (α × β)}
    (h : find? key entries = none) : key ∉ entries.map (·.1) := by
  induction entries with
  | nil => exact List.not_mem_nil
  | cons entry rest ih =>
      obtain ⟨k, v⟩ := entry
      by_cases hk : key = k
      · rw [find?, if_pos hk] at h
        cases h
      · rw [find?, if_neg hk] at h
        intro hmem
        rcases List.mem_cons.mp hmem with heq | hrest
        · exact hk heq
        · exact ih h hrest

/-- What is found is what is there. -/
theorem find?_isSome_iff {key : α} {entries : List (α × β)} :
    (find? key entries).isSome = true ↔ key ∈ entries.map (·.1) := by
  cases hfind : find? key entries with
  | none =>
      have habsent := not_mem_keys_of_find?_eq_none hfind
      simp [habsent]
  | some value =>
      have hmem : key ∈ entries.map (·.1) := List.mem_map_of_mem (mem_of_find? hfind)
      simp [hmem]

/-- Where no key is there twice, every entry is found at its key. -/
theorem find?_of_mem {key : α} {value : β} {entries : List (α × β)}
    (hnodup : (entries.map (·.1)).Nodup) (h : (key, value) ∈ entries) :
    find? key entries = some value := by
  induction entries with
  | nil => cases h
  | cons entry rest ih =>
      obtain ⟨k, v⟩ := entry
      rw [List.map_cons, List.nodup_cons] at hnodup
      rcases List.mem_cons.mp h with heq | hrest
      · injection heq with hk hv
        rw [find?, if_pos hk, hv]
      · have hmem : key ∈ rest.map (·.1) := List.mem_map_of_mem hrest
        rw [find?, if_neg (ne_of_mem_of_not_mem hmem hnodup.1)]
        exact ih hnodup.2 hrest

/-! ## §2. Changing a value in its place. -/

theorem find?_modify_self (key : α) (f : β → β) (entries : List (α × β)) :
    find? key (modify key f entries) = (find? key entries).map f := by
  induction entries with
  | nil => rfl
  | cons entry rest ih =>
      obtain ⟨k, v⟩ := entry
      by_cases hk : key = k
      · simp [modify, find?, hk]
      · simp [modify, find?, hk, ih]

theorem find?_modify_of_ne {key other : α} (hne : other ≠ key) (f : β → β)
    (entries : List (α × β)) : find? other (modify key f entries) = find? other entries := by
  induction entries with
  | nil => rfl
  | cons entry rest ih =>
      obtain ⟨k, v⟩ := entry
      by_cases hk : key = k
      · have hok : other ≠ k := hk ▸ hne
        simp [modify, find?, hk, hok]
      · simp [modify, find?, hk, ih]

/-- Changing a value moves no key. -/
theorem keys_modify (key : α) (f : β → β) (entries : List (α × β)) :
    (modify key f entries).map (·.1) = entries.map (·.1) := by
  induction entries with
  | nil => rfl
  | cons entry rest ih =>
      obtain ⟨k, v⟩ := entry
      by_cases hk : key = k
      · simp [modify, hk]
      · simp [modify, hk, ih]

theorem modify_of_find?_eq_none {key : α} {entries : List (α × β)}
    (h : find? key entries = none) (f : β → β) : modify key f entries = entries := by
  induction entries with
  | nil => rfl
  | cons entry rest ih =>
      obtain ⟨k, v⟩ := entry
      by_cases hk : key = k
      · rw [find?, if_pos hk] at h
        cases h
      · rw [find?, if_neg hk] at h
        rw [modify, if_neg hk, ih h]

/-- Only what the function does to the present value matters. -/
theorem modify_congr {key : α} {value : β} {entries : List (α × β)} {f g : β → β}
    (h : find? key entries = some value) (hfg : f value = g value) :
    modify key f entries = modify key g entries := by
  induction entries with
  | nil => rfl
  | cons entry rest ih =>
      obtain ⟨k, v⟩ := entry
      by_cases hk : key = k
      · rw [find?, if_pos hk] at h
        injection h with h
        subst h
        simp [modify, hk, hfg]
      · rw [find?, if_neg hk] at h
        simp [modify, hk, ih h]

/-- A change that changes nothing. -/
theorem modify_eq_self {key : α} {value : β} {entries : List (α × β)} {f : β → β}
    (h : find? key entries = some value) (hf : f value = value) :
    modify key f entries = entries := by
  rw [modify_congr h (g := id) hf]
  clear h
  induction entries with
  | nil => rfl
  | cons entry rest ih =>
      obtain ⟨k, v⟩ := entry
      by_cases hk : key = k
      · simp [modify, hk]
      · simp [modify, hk, ih]

/-- The entry that is found may stand behind entries of other keys. -/
theorem find?_append {key : α} {before : List (α × β)} (h : key ∉ before.map (·.1))
    (after : List (α × β)) : find? key (before ++ after) = find? key after := by
  induction before with
  | nil => rfl
  | cons entry rest ih =>
      obtain ⟨k, v⟩ := entry
      rw [List.map_cons, List.mem_cons, not_or] at h
      rw [List.cons_append, find?, if_neg h.1, ih h.2]

/-- An entry of another key makes no difference. -/
theorem find?_insert_of_ne {key other : α} (hne : other ≠ key) (value : β)
    (before after : List (α × β)) :
    find? other (before ++ (key, value) :: after) = find? other (before ++ after) := by
  induction before with
  | nil => rw [List.nil_append, find?, if_neg hne, List.nil_append]
  | cons entry rest ih =>
      obtain ⟨k, v⟩ := entry
      rw [List.cons_append, List.cons_append, find?, find?, ih]

/-- The entry that changes may stand behind entries of other keys. -/
theorem modify_append {key : α} {before : List (α × β)} (h : key ∉ before.map (·.1)) (f : β → β)
    (after : List (α × β)) : modify key f (before ++ after) = before ++ modify key f after := by
  induction before with
  | nil => rfl
  | cons entry rest ih =>
      obtain ⟨k, v⟩ := entry
      rw [List.map_cons, List.mem_cons, not_or] at h
      rw [List.cons_append, modify, if_neg h.1, ih h.2]
      rfl

/-- Looking up among values that were all changed alike. -/
theorem find?_map {γ : Type} (g : α → β → γ) (key : α) (entries : List (α × β)) :
    find? key (entries.map fun entry => (entry.1, g entry.1 entry.2))
      = (find? key entries).map (g key) := by
  induction entries with
  | nil => rfl
  | cons entry rest ih =>
      obtain ⟨k, v⟩ := entry
      by_cases hk : key = k
      · simp [find?, hk]
      · simp [find?, hk, ih]

/-- A value may be exchanged before all values are changed alike, or after. -/
theorem modify_map {γ : Type} (g : α → β → γ) (key : α) (value : β) (entries : List (α × β)) :
    modify key (fun _ => g key value) (entries.map fun entry => (entry.1, g entry.1 entry.2))
      = (modify key (fun _ => value) entries).map fun entry => (entry.1, g entry.1 entry.2) := by
  induction entries with
  | nil => rfl
  | cons entry rest ih =>
      obtain ⟨k, v⟩ := entry
      by_cases hk : key = k
      · simp [modify, hk]
      · simp [modify, hk, ih]

/-- What is said about every entry stays if it is the same of the changed value. -/
theorem map_modify {γ : Type} {key : α} {value : β} {entries : List (α × β)} {f : β → β}
    (h : find? key entries = some value) (g : α × β → γ) (hg : g (key, f value) = g (key, value)) :
    (modify key f entries).map g = entries.map g := by
  induction entries with
  | nil => rfl
  | cons entry rest ih =>
      obtain ⟨k, v⟩ := entry
      by_cases hk : key = k
      · subst hk
        rw [find?, if_pos rfl] at h
        injection h with h
        rw [modify, if_pos rfl, List.map_cons, List.map_cons, h, hg]
      · rw [find?, if_neg hk] at h
        rw [modify, if_neg hk, List.map_cons, List.map_cons, ih h]

/-- An entry of the changed list is an old one or the changed one. -/
theorem mem_modify {key : α} {f : β → β} {entries : List (α × β)} {entry : α × β}
    (h : entry ∈ modify key f entries) :
    entry ∈ entries ∨ ∃ value, find? key entries = some value ∧ entry = (key, f value) := by
  induction entries with
  | nil => cases h
  | cons first rest ih =>
      obtain ⟨k, v⟩ := first
      by_cases hk : key = k
      · rw [modify, if_pos hk] at h
        rcases List.mem_cons.mp h with hentry | hrest
        · exact .inr ⟨v, by rw [find?, if_pos hk], by rw [hentry, hk]⟩
        · exact .inl (List.mem_cons_of_mem _ hrest)
      · rw [modify, if_neg hk] at h
        rcases List.mem_cons.mp h with hentry | hrest
        · exact .inl (by rw [hentry]; exact List.mem_cons_self)
        · rcases ih hrest with hold | ⟨value, hvalue, hentry⟩
          · exact .inl (List.mem_cons_of_mem _ hold)
          · exact .inr ⟨value, by rw [find?, if_neg hk, hvalue], hentry⟩

/-- Two changes at one key are one change. -/
theorem modify_modify_self (key : α) (f g : β → β) (entries : List (α × β)) :
    modify key g (modify key f entries) = modify key (fun value => g (f value)) entries := by
  induction entries with
  | nil => rfl
  | cons entry rest ih =>
      obtain ⟨k, v⟩ := entry
      by_cases hk : key = k
      · simp [modify, hk]
      · simp [modify, hk, ih]

/-- Changes at two keys can be made in either order. -/
theorem modify_comm {key other : α} (hne : other ≠ key) (f g : β → β) (entries : List (α × β)) :
    modify other g (modify key f entries) = modify key f (modify other g entries) := by
  induction entries with
  | nil => rfl
  | cons entry rest ih =>
      obtain ⟨k, v⟩ := entry
      by_cases hk : key = k
      · have hok : other ≠ k := hk ▸ hne
        simp [modify, hk, hok]
      · by_cases hok : other = k
        · simp [modify, hk, hok]
        · simp [modify, hk, hok, ih]

/-! ## §3. Inserting or replacing. -/

theorem find?_putLast_self (key : α) (value : β) (entries : List (α × β)) :
    find? key (putLast key value entries) = some value := by
  induction entries with
  | nil => simp [putLast, find?]
  | cons entry rest ih =>
      obtain ⟨k, v⟩ := entry
      by_cases hk : key = k
      · simp [putLast, find?, hk]
      · simp [putLast, find?, hk, ih]

theorem find?_putLast_of_ne {key other : α} (hne : other ≠ key) (value : β)
    (entries : List (α × β)) : find? other (putLast key value entries) = find? other entries := by
  induction entries with
  | nil => simp [putLast, find?, hne]
  | cons entry rest ih =>
      obtain ⟨k, v⟩ := entry
      by_cases hk : key = k
      · have hok : other ≠ k := hk ▸ hne
        simp [putLast, find?, hk, hok]
      · simp [putLast, find?, hk, ih]

theorem putLast_of_find? {key : α} {old : β} {entries : List (α × β)}
    (h : find? key entries = some old) (value : β) :
    putLast key value entries = modify key (fun _ => value) entries := by
  induction entries with
  | nil => cases h
  | cons entry rest ih =>
      obtain ⟨k, v⟩ := entry
      by_cases hk : key = k
      · simp [putLast, modify, hk]
      · rw [find?, if_neg hk] at h
        simp [putLast, modify, hk, ih h]

/-- The last of two values for one key counts. -/
theorem putLast_putLast (key : α) (value value' : β) (entries : List (α × β)) :
    putLast key value' (putLast key value entries) = putLast key value' entries := by
  induction entries with
  | nil => simp [putLast]
  | cons entry rest ih =>
      obtain ⟨k, v⟩ := entry
      by_cases hk : key = k
      · simp [putLast, hk]
      · simp [putLast, hk, ih]

/-- A new key goes to the end. -/
theorem putLast_of_find?_eq_none {key : α} {entries : List (α × β)}
    (h : find? key entries = none) (value : β) :
    putLast key value entries = entries ++ [(key, value)] := by
  induction entries with
  | nil => rfl
  | cons entry rest ih =>
      obtain ⟨k, v⟩ := entry
      by_cases hk : key = k
      · rw [find?, if_pos hk] at h
        cases h
      · rw [find?, if_neg hk] at h
        rw [putLast, if_neg hk, ih h]
        rfl

/-- Keys that are distinct stay distinct: a new one joins them, a present one stays. -/
theorem nodup_putLast (key : α) (value : β) {entries : List (α × β)}
    (h : (entries.map (·.1)).Nodup) : ((putLast key value entries).map (·.1)).Nodup := by
  cases hfind : find? key entries with
  | some old =>
      rw [putLast_of_find? hfind, keys_modify]
      exact h
  | none =>
      have hkey : key ∉ entries.map (·.1) := not_mem_keys_of_find?_eq_none hfind
      rw [putLast_of_find?_eq_none hfind, List.map_append]
      show (entries.map (·.1) ++ [key]).Nodup
      rw [← List.concat_eq_append]
      exact h.concat hkey

/-! ## §4. Deleting. -/

theorem erase_sublist (key : α) (entries : List (α × β)) :
    (erase key entries).Sublist entries := by
  induction entries with
  | nil => exact .slnil
  | cons entry rest ih =>
      obtain ⟨k, v⟩ := entry
      rw [erase]
      split
      · exact List.sublist_cons_self _ _
      · exact ih.cons_cons _

/-- Behind entries of other keys, an entry is what is left out. -/
theorem erase_append {key : α} {before : List (α × β)} (h : key ∉ before.map (·.1)) (value : β)
    (after : List (α × β)) :
    erase key (before ++ (key, value) :: after) = before ++ after := by
  induction before with
  | nil => rw [List.nil_append, List.nil_append, erase, if_pos rfl]
  | cons entry rest ih =>
      obtain ⟨k, v⟩ := entry
      rw [List.map_cons, List.mem_cons, not_or] at h
      rw [List.cons_append, List.cons_append, erase, if_neg h.1, ih h.2]

/-- An entry that is found stands between others; they are what a deletion leaves. -/
theorem erase_of_find? {key : α} {value : β} {entries : List (α × β)}
    (h : find? key entries = some value) : ∃ before after,
      entries = before ++ (key, value) :: after ∧ erase key entries = before ++ after := by
  induction entries with
  | nil => cases h
  | cons entry rest ih =>
      obtain ⟨k, v⟩ := entry
      by_cases hk : key = k
      · subst hk
        rw [find?, if_pos rfl] at h
        injection h with h
        exact ⟨[], rest, by rw [h]; rfl, by rw [erase, if_pos rfl]; rfl⟩
      · rw [find?, if_neg hk] at h
        obtain ⟨before, after, hsplit, herase⟩ := ih h
        exact ⟨(k, v) :: before, after, by rw [hsplit]; rfl, by rw [erase, if_neg hk, herase]; rfl⟩

/-- A key that occurs once does not occur after its deletion. -/
theorem find?_erase_self {key : α} {entries : List (α × β)}
    (h : (entries.map (·.1)).Nodup) : find? key (erase key entries) = none := by
  induction entries with
  | nil => rfl
  | cons entry rest ih =>
      obtain ⟨k, v⟩ := entry
      rw [List.map_cons, List.nodup_cons] at h
      obtain ⟨hfirst, hrest⟩ := h
      by_cases hk : key = k
      · rw [erase, if_pos hk]
        cases hfind : find? key rest with
        | none => rfl
        | some value => exact absurd (List.mem_map_of_mem (mem_of_find? hfind)) (hk ▸ hfirst)
      · rw [erase, if_neg hk, find?, if_neg hk]
        exact ih hrest

/-- Taking out a member is erasing it. -/
theorem eraseMember_eq_erase (x : α) (xs : List α) : eraseMember x xs = xs.erase x := by
  induction xs with
  | nil => rfl
  | cons first rest ih =>
      rw [eraseMember]
      by_cases hx : x = first
      · rw [if_pos hx, hx, List.erase_cons_head]
      · rw [if_neg hx, List.erase_cons_tail (by simpa using Ne.symm hx), ih]

theorem eraseMember_sublist (x : α) (xs : List α) : (eraseMember x xs).Sublist xs := by
  rw [eraseMember_eq_erase]
  exact List.erase_sublist

/-! ## §5. What stays. -/

/-- The entries at other keys, in their order. -/
def without (key : α) (entries : List (α × β)) : List (α × β) :=
  entries.filter fun entry => entry.1 ≠ key

theorem without_cons_self (key : α) (value : β) (entries : List (α × β)) :
    without key ((key, value) :: entries) = without key entries := by
  simp [without]

theorem without_cons_of_ne {key k : α} (hk : key ≠ k) (value : β) (entries : List (α × β)) :
    without key ((k, value) :: entries) = (k, value) :: without key entries := by
  simp [without, Ne.symm hk]

/-- Looking up another key needs the other entries only. -/
theorem find?_without {key other : α} (hne : other ≠ key) (entries : List (α × β)) :
    find? other (without key entries) = find? other entries := by
  induction entries with
  | nil => rfl
  | cons entry rest ih =>
      obtain ⟨k, v⟩ := entry
      by_cases hk : key = k
      · subst hk
        rw [without_cons_self, ih, find?, if_neg hne]
      · rw [without_cons_of_ne hk, find?, find?, ih]

theorem without_modify (key : α) (f : β → β) (entries : List (α × β)) :
    without key (modify key f entries) = without key entries := by
  induction entries with
  | nil => rfl
  | cons entry rest ih =>
      obtain ⟨k, v⟩ := entry
      by_cases hk : key = k
      · subst hk
        rw [modify, if_pos rfl, without_cons_self, without_cons_self]
      · rw [modify, if_neg hk, without_cons_of_ne hk, without_cons_of_ne hk, ih]

theorem without_erase (key : α) (entries : List (α × β)) :
    without key (erase key entries) = without key entries := by
  induction entries with
  | nil => rfl
  | cons entry rest ih =>
      obtain ⟨k, v⟩ := entry
      by_cases hk : key = k
      · subst hk
        rw [erase, if_pos rfl, without_cons_self]
      · rw [erase, if_neg hk, without_cons_of_ne hk, without_cons_of_ne hk, ih]

variable [LT α] [DecidableLT α]

theorem without_putSorted (key : α) (value : β) (entries : List (α × β)) :
    without key (putSorted key value entries) = without key entries := by
  induction entries with
  | nil => exact without_cons_self key value []
  | cons entry rest ih =>
      obtain ⟨k, v⟩ := entry
      by_cases hk : key = k
      · subst hk
        rw [putSorted, if_pos rfl, without_cons_self, without_cons_self]
      · by_cases hlt : key < k
        · rw [putSorted, if_neg hk, if_pos hlt, without_cons_self]
        · rw [putSorted, if_neg hk, if_neg hlt, without_cons_of_ne hk, without_cons_of_ne hk, ih]

/-! ## §6. Members in order. -/

/-- The members are the old ones and the new one. -/
theorem mem_insertMember_iff {x y : α} {xs : List α} : y ∈ insertMember x xs ↔ y = x ∨ y ∈ xs := by
  induction xs with
  | nil => exact List.mem_singleton.trans (or_iff_left List.not_mem_nil).symm
  | cons first rest ih =>
      rw [insertMember]
      by_cases hx : x = first
      · -- Nothing is added, and `x` is the first member.
        rw [if_pos hx, hx]
        exact ⟨.inr, fun h => h.elim (fun h => h ▸ List.mem_cons_self) id⟩
      · rw [if_neg hx]
        by_cases hlt : x < first
        · rw [if_pos hlt, List.mem_cons]
        · rw [if_neg hlt, List.mem_cons, ih, List.mem_cons, or_left_comm]

/-- A new member goes between members that stay as they are. -/
theorem insertMember_of_not_mem {x : α} {xs : List α} (h : x ∉ xs) :
    ∃ before after, xs = before ++ after ∧ insertMember x xs = before ++ x :: after := by
  induction xs with
  | nil => exact ⟨[], [], rfl, rfl⟩
  | cons first rest ih =>
      rw [List.mem_cons, not_or] at h
      obtain ⟨hfirst, hrest⟩ := h
      rw [insertMember, if_neg hfirst]
      by_cases hlt : x < first
      · exact ⟨[], first :: rest, rfl, by rw [if_pos hlt]; rfl⟩
      · obtain ⟨before, after, hsplit, hinsert⟩ := ih hrest
        exact ⟨first :: before, after, by rw [hsplit]; rfl, by rw [if_neg hlt, hinsert]; rfl⟩

/-- A new member makes the list longer by one. -/
theorem length_insertMember {x : α} {xs : List α} (h : x ∉ xs) :
    (insertMember x xs).length = xs.length + 1 := by
  obtain ⟨before, after, hsplit, hinsert⟩ := insertMember_of_not_mem h
  rw [hinsert, hsplit, List.length_append, List.length_append, List.length_cons, Nat.add_assoc]

/-- In an ascending list no greater member stands in front of a present one, so the search
ends at the present one. -/
theorem insertMember_of_mem (asymm : ∀ a b : α, a < b → ¬ b < a) {x : α} {xs : List α}
    (ascending : xs.Pairwise (· < ·)) (h : x ∈ xs) : insertMember x xs = xs := by
  induction xs with
  | nil => cases h
  | cons first rest ih =>
      obtain ⟨hfirst, hrest⟩ := List.pairwise_cons.mp ascending
      rw [insertMember]
      by_cases hx : x = first
      · rw [if_pos hx]
      · have hmem : x ∈ rest := (List.mem_cons.mp h).resolve_left hx
        rw [if_neg hx, if_neg (asymm first x (hfirst x hmem)), ih hrest hmem]

/-- A new member can be taken out again. -/
theorem eraseMember_insertMember {x : α} {xs : List α} (h : x ∉ xs) :
    eraseMember x (insertMember x xs) = xs := by
  induction xs with
  | nil => rw [insertMember, eraseMember, if_pos rfl]
  | cons first rest ih =>
      rw [List.mem_cons, not_or] at h
      obtain ⟨hfirst, hrest⟩ := h
      rw [insertMember, if_neg hfirst]
      by_cases hlt : x < first
      · rw [if_pos hlt, eraseMember, if_pos rfl]
      · rw [if_neg hlt, eraseMember, if_neg hfirst, ih hrest]

/-- Members that ascend go on ascending. -/
theorem ascending_insertMember (trans : ∀ a b c : α, a < b → b < c → a < c)
    (total : ∀ a b : α, a ≠ b → ¬ a < b → b < a) (x : α) {xs : List α}
    (h : xs.Pairwise (· < ·)) : (insertMember x xs).Pairwise (· < ·) := by
  induction xs with
  | nil => exact List.pairwise_singleton _ _
  | cons first rest ih =>
      have hall := h
      rw [List.pairwise_cons] at h
      obtain ⟨hfirst, hrest⟩ := h
      rw [insertMember]
      by_cases hx : x = first
      · rw [if_pos hx]
        exact hall
      · rw [if_neg hx]
        by_cases hlt : x < first
        · rw [if_pos hlt, List.pairwise_cons]
          refine ⟨?_, hall⟩
          intro y hy
          rcases List.mem_cons.mp hy with heq | hmem
          · rw [heq]
            exact hlt
          · exact trans x first y hlt (hfirst y hmem)
        · rw [if_neg hlt, List.pairwise_cons]
          refine ⟨?_, ih hrest⟩
          intro y hy
          rcases mem_insertMember_iff.mp hy with heq | hmem
          · rw [heq]
            exact total x first hx hlt
          · exact hfirst y hmem

/-! ## §7. Inserting or replacing in order. -/

/-- A new key goes between entries that stay as they are. -/
theorem putSorted_of_find?_eq_none {key : α} {entries : List (α × β)}
    (h : find? key entries = none) (value : β) :
    ∃ before after, entries = before ++ after ∧
      putSorted key value entries = before ++ (key, value) :: after := by
  induction entries with
  | nil => exact ⟨[], [], rfl, rfl⟩
  | cons entry rest ih =>
      obtain ⟨k, v⟩ := entry
      by_cases hk : key = k
      · rw [find?, if_pos hk] at h
        cases h
      · rw [find?, if_neg hk] at h
        rw [putSorted, if_neg hk]
        by_cases hlt : key < k
        -- The new entry goes in here and the rest of the list is not looked at.
        · exact ⟨[], (k, v) :: rest, rfl, by rw [if_pos hlt]; rfl⟩
        · obtain ⟨before, after, hsplit, hput⟩ := ih h
          exact ⟨(k, v) :: before, after, by rw [hsplit]; rfl, by rw [if_neg hlt, hput]; rfl⟩

theorem find?_putSorted_self (key : α) (value : β) (entries : List (α × β)) :
    find? key (putSorted key value entries) = some value := by
  induction entries with
  | nil => simp [putSorted, find?]
  | cons entry rest ih =>
      obtain ⟨k, v⟩ := entry
      by_cases hk : key = k
      · simp [putSorted, find?, hk]
      · by_cases hlt : key < k
        · simp [putSorted, find?, hk, hlt]
        · simp [putSorted, find?, hk, hlt, ih]

theorem putSorted_putSorted (key : α) (value value' : β) (entries : List (α × β)) :
    putSorted key value' (putSorted key value entries) = putSorted key value' entries := by
  induction entries with
  | nil => simp [putSorted]
  | cons entry rest ih =>
      obtain ⟨k, v⟩ := entry
      by_cases hk : key = k
      · simp [putSorted, hk]
      · by_cases hlt : key < k
        · simp [putSorted, hk, hlt]
        · simp [putSorted, hk, hlt, ih]

/-- In an ascending list no greater key stands in front of a present one, so the search
for the place of `key` reaches the old entry. -/
theorem putSorted_of_find? {key : α} {old : β} {entries : List (α × β)}
    (asymm : ∀ a b : α, a < b → ¬ b < a)
    (ascending : (entries.map (·.1)).Pairwise (· < ·))
    (h : find? key entries = some old) (value : β) :
    putSorted key value entries = modify key (fun _ => value) entries := by
  induction entries with
  | nil => cases h
  | cons entry rest ih =>
      obtain ⟨k, v⟩ := entry
      rw [List.map_cons, List.pairwise_cons] at ascending
      obtain ⟨hfirst, hrest⟩ := ascending
      by_cases hk : key = k
      · simp [putSorted, modify, hk]
      · rw [find?, if_neg hk] at h
        -- The present key is among those behind `k`, so `k` is less and the search goes on.
        have hkey : key ∈ rest.map (·.1) := List.mem_map_of_mem (mem_of_find? h)
        have hlt : ¬ key < k := asymm k key (hfirst key hkey)
        simp [putSorted, modify, hk, hlt, ih hrest h]

/-- An entry of the longer list is an old one or the new one. -/
theorem mem_putSorted {key : α} {value : β} {entries : List (α × β)} {entry : α × β}
    (h : entry ∈ putSorted key value entries) : entry = (key, value) ∨ entry ∈ entries := by
  induction entries with
  | nil => exact .inl (List.mem_singleton.mp h)
  | cons first rest ih =>
      obtain ⟨k, v⟩ := first
      by_cases hk : key = k
      · rw [putSorted, if_pos hk, ← hk] at h
        exact (List.mem_cons.mp h).imp_right (List.mem_cons_of_mem _)
      · by_cases hlt : key < k
        · rw [putSorted, if_neg hk, if_pos hlt] at h
          exact List.mem_cons.mp h
        · rw [putSorted, if_neg hk, if_neg hlt] at h
          rcases List.mem_cons.mp h with hentry | hrest
          · exact .inr (by rw [hentry]; exact List.mem_cons_self)
          · exact (ih hrest).imp_right (List.mem_cons_of_mem _)

/-- To the keys, an entry that is put is a member that is inserted. -/
theorem keys_putSorted (key : α) (value : β) (entries : List (α × β)) :
    (putSorted key value entries).map (·.1) = insertMember key (entries.map (·.1)) := by
  induction entries with
  | nil => rfl
  | cons entry rest ih =>
      obtain ⟨k, v⟩ := entry
      rw [putSorted, List.map_cons, insertMember]
      by_cases hk : key = k
      · rw [if_pos hk, if_pos hk, List.map_cons]
      · rw [if_neg hk, if_neg hk]
        by_cases hlt : key < k
        · rw [if_pos hlt, if_pos hlt, List.map_cons, List.map_cons]
        · rw [if_neg hlt, if_neg hlt, List.map_cons, ih]

/-- Keys that ascend go on ascending. -/
theorem ascending_putSorted (trans : ∀ a b c : α, a < b → b < c → a < c)
    (total : ∀ a b : α, a ≠ b → ¬ a < b → b < a) (key : α) (value : β)
    {entries : List (α × β)} (h : (entries.map (·.1)).Pairwise (· < ·)) :
    ((putSorted key value entries).map (·.1)).Pairwise (· < ·) := by
  rw [keys_putSorted]
  exact ascending_insertMember trans total key h

end ConfigGraph.Ordered
