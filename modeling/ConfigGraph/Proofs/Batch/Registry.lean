/-
  ConfigGraph.Proofs.Batch.Registry
  ────────────────────────────────
  **ONE ROOT OF ONE COLLECTION.**

  A change of a batch puts one collection back into the registry, and that
  collection differs from the one before at one key.  What such a change
  leaves alone is `SameApart`: the names in their order, the other
  collections, and of this collection everything but the root at the key.

  The one fact about collections that deletion needs is that no key occurs
  twice.  Keys ascend in every collection that starts out so.

  Main results:
    * `Registry.find?_replace_self`, `Registry.replace_replace`
    * `Collection.Ascending.put`, `.modify`, `.erase`
    * `Registry.SameApart.replace`
-/
import ConfigGraph.Batch.Registry
import ConfigGraph.Proofs.Slot

namespace ConfigGraph

variable {σ : Type} {registry : Registry σ} {collection : Collection σ}
  {name key : String}

/-! ## §1. Putting a collection back. -/

namespace Registry

theorem find?_replace_self (found : registry.find? name = some collection)
    (collection' : Collection σ) :
    (registry.replace name collection').find? name = some collection' := by
  unfold Registry.find? at found ⊢
  rw [Registry.replace, Ordered.find?_modify_self, found]
  rfl

theorem find?_replace_of_ne {other : String} (hne : other ≠ name) (registry : Registry σ)
    (collection' : Collection σ) :
    (registry.replace name collection').find? other = registry.find? other :=
  Ordered.find?_modify_of_ne hne _ _

/-- Of two collections that are put back one after the other, the second stays. -/
theorem replace_replace (registry : Registry σ) (name : String)
    (collection' collection'' : Collection σ) :
    (registry.replace name collection').replace name collection''
      = registry.replace name collection'' :=
  congrArg Registry.mk (Ordered.modify_modify_self _ _ _ _)

theorem replace_self (found : registry.find? name = some collection) :
    registry.replace name collection = registry :=
  congrArg Registry.mk (Ordered.modify_eq_self found rfl)

theorem names_replace (registry : Registry σ) (name : String) (collection' : Collection σ) :
    (registry.replace name collection').names = registry.names :=
  Ordered.keys_modify _ _ _

end Registry

/-! ## §2. Keys in order. -/

/-- The keys of the collection ascend. -/
def Collection.Ascending (collection : Collection σ) : Prop :=
  (collection.entries.map (·.1)).Pairwise (· < ·)

instance (collection : Collection σ) : Decidable collection.Ascending :=
  inferInstanceAs (Decidable (List.Pairwise _ _))

/-- The keys of every collection ascend. -/
def Registry.Ascending (registry : Registry σ) : Prop :=
  ∀ entry ∈ registry.collections, entry.2.Ascending

instance (registry : Registry σ) : Decidable registry.Ascending :=
  inferInstanceAs (Decidable (∀ entry ∈ registry.collections, _))

theorem Registry.Ascending.find? (ascending : registry.Ascending)
    (found : registry.find? name = some collection) : collection.Ascending :=
  ascending (name, collection) (Ordered.mem_of_find? found)

namespace Collection.Ascending

variable (ascending : collection.Ascending)
include ascending

theorem put (key : String) (root : Value) : (collection.put key root).Ascending :=
  Ordered.ascending_putSorted (fun _ _ _ => String.lt_trans) Text.lt_of_ne_of_not_lt key root
    ascending

theorem modify (key : String) (f : Value → Value) : (collection.modify key f).Ascending := by
  unfold Collection.Ascending Collection.modify
  rw [Ordered.keys_modify]
  exact ascending

theorem erase (key : String) : (collection.erase key).Ascending :=
  List.Pairwise.sublist ((Ordered.erase_sublist key collection.entries).map (·.1)) ascending

/-- A deleted root is gone. -/
theorem find?_erase_self (key : String) : (collection.erase key).find? key = none := by
  -- Deletion takes out the first entry of the key, so a second one would remain.
  refine Ordered.find?_erase_self (ascending.imp ?_)
  intro k k' hlt heq
  exact String.lt_irrefl k (heq ▸ hlt)

end Collection.Ascending

theorem Registry.Ascending.replace (ascending : registry.Ascending) {collection' : Collection σ}
    (ascending' : collection'.Ascending) : (registry.replace name collection').Ascending := by
  intro entry hentry
  rcases Ordered.mem_modify hentry with hold | ⟨_, _, hnew⟩
  · exact ascending entry hold
  · rw [hnew]
    exact ascending'

/-! ## §3. Everything but one root. -/

/-- What a collection is apart from the root at a key. -/
structure Collection.SameApart (before after : Collection σ) (key : String) : Prop where
  /-- The name, the shape and the hooks. -/
  declared : after.name = before.name ∧ after.shape = before.shape ∧ after.hooks = before.hooks
  /-- The roots at other keys, in their order. -/
  roots : Ordered.without key after.entries = Ordered.without key before.entries

theorem Collection.sameApart_put (collection : Collection σ) (key : String) (root : Value) :
    collection.SameApart (collection.put key root) key :=
  ⟨⟨rfl, rfl, rfl⟩, Ordered.without_putSorted key root collection.entries⟩

theorem Collection.sameApart_modify (collection : Collection σ) (key : String)
    (f : Value → Value) : collection.SameApart (collection.modify key f) key :=
  ⟨⟨rfl, rfl, rfl⟩, Ordered.without_modify key f collection.entries⟩

theorem Collection.sameApart_erase (collection : Collection σ) (key : String) :
    collection.SameApart (collection.erase key) key :=
  ⟨⟨rfl, rfl, rfl⟩, Ordered.without_erase key collection.entries⟩

/-- The two registries differ at most in the root at one key of one collection. -/
structure Registry.SameApart (before after : Registry σ) (name key : String) : Prop where
  /-- The names, in the order of registration. -/
  names : after.names = before.names
  /-- The other collections. -/
  others : Ordered.without name after.collections = Ordered.without name before.collections
  /-- A collection that is missing is not made. -/
  missing : before.find? name = none → after.find? name = none
  /-- The collection itself, apart from the key. -/
  target : ∀ collection, before.find? name = some collection →
    ∃ collection', after.find? name = some collection' ∧ collection.SameApart collection' key

theorem Registry.SameApart.refl (registry : Registry σ) (name key : String) :
    registry.SameApart registry name key :=
  ⟨rfl, rfl, fun missing => missing,
    fun collection found => ⟨collection, found, ⟨rfl, rfl, rfl⟩, rfl⟩⟩

/-- **PUTTING BACK A COLLECTION THAT DIFFERS AT ONE KEY** touches nothing else. -/
theorem Registry.SameApart.replace (found : registry.find? name = some collection)
    {collection' : Collection σ} (same : collection.SameApart collection' key) :
    registry.SameApart (registry.replace name collection') name key where
  names := names_replace registry name collection'
  others := Ordered.without_modify _ _ _
  missing := by
    intro missing
    rw [found] at missing
    cases missing
  target := by
    intro target htarget
    rw [found] at htarget
    injection htarget with htarget
    exact ⟨collection', find?_replace_self found collection', htarget ▸ same⟩

/-! ## §4. What is seen of a registry at an address. -/

/-- The shape of the collection and the root at the key, as far as there are any. -/
def Registry.seen? (registry : Registry σ) (name key : String) : Option (Shape × Option Value) :=
  (registry.find? name).map fun collection => (collection.shape, collection.find? key)

theorem Registry.seen?_of_find? (found : registry.find? name = some collection) (key : String) :
    registry.seen? name key = some (collection.shape, collection.find? key) := by
  rw [seen?, found]
  rfl

theorem Registry.seen?_replace (found : registry.find? name = some collection)
    (collection' : Collection σ) (key : String) :
    (registry.replace name collection').seen? name key
      = some (collection'.shape, collection'.find? key) :=
  seen?_of_find? (find?_replace_self found collection') key

/-- Where the same is seen in two registries, both have the collection or both lack it. -/
theorem Registry.find?_of_seen?_eq {τ : Type} {registry' : Registry τ}
    (same : registry.seen? name key = registry'.seen? name key)
    (found : registry.find? name = some collection) :
    ∃ collection', registry'.find? name = some collection' ∧
      collection'.shape = collection.shape ∧ collection'.find? key = collection.find? key := by
  rw [seen?_of_find? found] at same
  obtain ⟨collection', found', heq⟩ := Option.map_eq_some_iff.mp same.symm
  injection heq with hshape hroot
  exact ⟨collection', found', hshape, hroot⟩

theorem Registry.find?_eq_none_of_seen?_eq {τ : Type} {registry' : Registry τ}
    (same : registry.seen? name key = registry'.seen? name key)
    (missing : registry.find? name = none) : registry'.find? name = none := by
  rw [seen?, seen?, missing] at same
  exact Option.map_eq_none_iff.mp same.symm

end ConfigGraph
