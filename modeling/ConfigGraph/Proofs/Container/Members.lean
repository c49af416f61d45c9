/-
  ConfigGraph.Proofs.Container.Members
  ────────────────────────────────
  **SETS OF TEXTS: ONE MEMBER MORE, ONE MEMBER LESS.**

  A field that is declared as a set, behind any number of nullable layers,
  has members; if it is empty, it has none.  A directive that leads to the
  field can do four things: it adds a member, takes one out, finds nothing to
  do, or is refused because it neither inserts nor removes.  `setOutcome`
  says which, and what graph it leaves.

  What is written is an ascending list behind all layers of the field.  Two
  ascending lists with the same members are the same list, so the graph that
  a run of insertions leaves is determined by which members it inserts: an
  insertion that finds nothing to do changes nothing, not even an empty field
  into one with an empty set.

  Main results:
    * `Targets.yields` — what one directive does to the set
    * `applyAll_inserts` — what a run of insertions leaves
    * `setEdits_of_field`
-/
import Mathlib.Data.List.Sort
import ConfigGraph.Proofs.Container.Growth
import ConfigGraph.Proofs.Preservation
import ConfigGraph.Proofs.Writing

namespace ConfigGraph

/-! ## §1. Values behind nullable layers. -/

namespace Value

/-- The value with `n` nullable layers around it. -/
def layered (value : Value) : Nat → Value
  | 0 => value
  | n + 1 => .filled (.optional n value.shape) (value.layered n)

theorem shape_layered (value : Value) (n : Nat) :
    (value.layered n).shape = .optional n value.shape := by
  cases n <;> rfl

theorem present?_layered {value : Value} (h : value.isBare = true) (n : Nat) :
    (value.layered n).present? = some value := by
  induction n with
  | zero => exact present?_of_isBare h
  | succ n ih => exact ih

/-- A slot with nullable layers puts all of them around a bare value. -/
theorem convert_layered {value : Value} (h : value.isBare = true) (n : Nat) :
    value.convert (.optional n value.shape) = .ok (value.layered n) := by
  induction n with
  | zero => exact convert_self rfl
  | succ n ih =>
      have hself : value.shape ≠ .nullable (.optional n value.shape) := by
        cases value with
        | vacant inner | filled inner value | dynamic value => cases h
        | _ => exact Shape.noConfusion
      rw [Shape.optional, convert, if_neg hself, ih]
      rfl

variable {schema : Schema} {value inside : Value}

theorem WellFormed.layered (wf : value.WellFormed schema) (n : Nat) :
    (value.layered n).WellFormed schema := by
  induction n with
  | zero => exact wf
  | succ n ih => exact .filled (shape_layered value n) ih

/-- A filled slot for a set is the set with the layers of the slot around it. -/
theorem WellFormed.eq_layered {n : Nat} (wf : value.WellFormed schema)
    (declared : value.shape = .optional n .textSet) (present : value.present? = some inside) :
    value = inside.layered n := by
  induction n generalizing value with
  | zero =>
      cases value with
      | textSet members => exact Option.some.inj present
      | _ => cases declared
  | succ n ih =>
      cases value with
      | filled inner value =>
          -- The shape that the layer carries is the one of its contents, since it is well formed.
          injection declared with declared
          cases wf with
          | filled hinner hvalue =>
              have hlayers := ih hvalue (hinner.trans declared) present
              have hinner' : inner = .optional n inside.shape := by
                rw [← hinner, hlayers, shape_layered]
              rw [Value.layered, ← hlayers, ← hinner']
      | vacant inner => cases present
      | _ => cases declared

/-! ## §2. Members. -/

theorem members_layered (members : List String) (n : Nat) :
    ((textSet members).layered n).members = members := by
  rw [Value.members, present?_layered rfl]

/-- The graph with a set of these members in the slot of `n` nullable layers at the address. -/
def withMembers (root : Value) (address : Address) (n : Nat) (members : List String) : Value :=
  root.update (fun _ => (textSet members).layered n) address

theorem withMembers_withMembers (root : Value) (address : Address) (n : Nat)
    (members members' : List String) :
    (root.withMembers address n members).withMembers address n members'
      = root.withMembers address n members' := by
  rw [withMembers, withMembers, update_update_self, withMembers]

section

variable {root node : Value} {address : Address} {n : Nat} {members : List String}

theorem get?_withMembers (held : root.get? address = some node) (n : Nat)
    (members : List String) :
    (root.withMembers address n members).get? address = some ((textSet members).layered n) := by
  rw [withMembers, get?_update_self, held]
  rfl

theorem WellFormed.withMembers (wf : root.WellFormed schema) (held : root.get? address = some node)
    (declared : node.shape = .optional n .textSet) (ascending : members.Pairwise (· < ·)) :
    (root.withMembers address n members).WellFormed schema := by
  have hset : (Value.textSet members).WellFormed schema := .textSet ascending
  refine (wf.update held ?_ (hset.layered n)).1
  rw [shape_layered, declared]
  rfl

/-- A set may be put where it is. -/
theorem withMembers_eq_self (wf : root.WellFormed schema) (held : root.get? address = some node)
    (declared : node.shape = .optional n .textSet) (filled : node.present?.isSome = true) :
    root.withMembers address n node.members = root := by
  obtain ⟨inside, present⟩ := Option.isSome_iff_exists.mp filled
  have hnode := (wf.get? held).eq_layered declared present
  have hshape : Shape.optional n inside.shape = .optional n .textSet := by
    rw [← shape_layered, ← hnode, declared]
  have hset : inside.shape = .textSet := Shape.optional_inj hshape
  refine update_eq_self held ?_
  cases inside with
  | textSet members => rw [hnode, members_layered]
  | _ => cases hset

end

end Value

namespace Ordered

/-- The ascending list with all of `added` at their places. -/
def insertMembers (added members : List String) : List String :=
  added.foldl (fun members member => insertMember member members) members

theorem mem_insertMembers_iff {added members : List String} {member : String} :
    member ∈ insertMembers added members ↔ member ∈ added ∨ member ∈ members := by
  induction added generalizing members with
  | nil => exact (or_iff_right List.not_mem_nil).symm
  | cons first rest ih =>
      rw [insertMembers, List.foldl_cons, ← insertMembers, ih, mem_insertMember_iff, List.mem_cons,
        or_left_comm, or_assoc]

theorem ascending_insertText (member : String) {members : List String}
    (ascending : members.Pairwise (· < ·)) : (insertMember member members).Pairwise (· < ·) :=
  ascending_insertMember (fun _ _ _ => String.lt_trans) Text.lt_of_ne_of_not_lt member ascending

theorem insertText_of_mem {member : String} {members : List String}
    (ascending : members.Pairwise (· < ·)) (h : member ∈ members) :
    insertMember member members = members :=
  insertMember_of_mem (fun _ _ => String.lt_asymm) ascending h

theorem ascending_insertMembers (added : List String) {members : List String}
    (ascending : members.Pairwise (· < ·)) : (insertMembers added members).Pairwise (· < ·) := by
  induction added generalizing members with
  | nil => exact ascending
  | cons first rest ih => exact ih (ascending_insertText first ascending)

/-- Texts that are members already are not added. -/
theorem insertMembers_of_subset {added members : List String}
    (ascending : members.Pairwise (· < ·)) (h : ∀ member ∈ added, member ∈ members) :
    insertMembers added members = members := by
  induction added with
  | nil => rfl
  | cons first rest ih =>
      obtain ⟨hfirst, hrest⟩ := List.forall_mem_cons.mp h
      rw [insertMembers, List.foldl_cons, insertText_of_mem ascending hfirst]
      exact ih hrest

theorem nodup_of_ascending {members : List String} (h : members.Pairwise (· < ·)) :
    members.Nodup := by
  have : Std.Irrefl fun a b : String => a < b := ⟨String.lt_irrefl⟩
  exact h.nodup

/-- **AN ASCENDING LIST IS DETERMINED BY ITS MEMBERS.** -/
theorem eq_of_ascending {members members' : List String} (h : members.Pairwise (· < ·))
    (h' : members'.Pairwise (· < ·)) (same : ∀ member, member ∈ members ↔ member ∈ members') :
    members = members' := by
  have : Std.Irrefl fun a b : String => a < b := ⟨String.lt_irrefl⟩
  have : Std.Antisymm fun a b : String => a < b :=
    ⟨fun _ _ hlt hgt => absurd hgt (String.lt_asymm hlt)⟩
  exact h.eq_of_mem_iff h' same

end Ordered

/-! ## §3. One directive. -/

/-- The path of the directive leads to the address, and this is what the directive asks for. -/
structure Targets (engine : Engine) (root : Value) (address : Address) (directive : Directive)
    (operation : Operation) (value : String) : Prop where
  /-- The path is a path. -/
  valid : FieldPath.validate directive.path = .ok ()
  /-- The operation, and the value without its token. -/
  wants : Wants engine directive.value operation value
  /-- The path leads to the address. -/
  located : ∃ node, root.locate? (FieldPath.parse directive.path) = some (address, node)

section

variable {engine : Engine} {root node : Value} {above : Address} {name : String} {n : Nat}
  {directive : Directive} {operation : Operation} {value : String}

/-- It leads there whatever has been put there. -/
theorem Targets.withMembers {address : Address}
    (h : Targets engine root address directive operation value) (n : Nat)
    (members : List String) :
    Targets engine (root.withMembers address n members) address directive operation value where
  valid := h.valid
  wants := h.wants
  located := by
    obtain ⟨node, located⟩ := h.located
    exact ⟨_, Value.locate?_update_self located _⟩

/-- **A PATH TO A FIELD ENDS AT THE SLOT OF THE FIELD**, whatever the operation. -/
theorem Targets.exists_slot
    (h : Targets engine root (above ++ [.field name]) directive operation value)
    (held : root.get? (above ++ [.field name]) = some node) :
    ∃ parent container slot, root.get? above = some parent ∧
      parent.present? = some container ∧ Slot.Binds container (.field name) slot ∧
      container.part? (.field name) = some node ∧ slot.declared = node.shape ∧
      engine.apply root directive
        = engine.settle operation value ⟨root, [], .ok (.slot above slot)⟩ := by
  obtain ⟨before, last, hsegments⟩ := exists_last_of_validate h.valid
  obtain ⟨node', located⟩ := h.located
  have hnode : node' = node :=
    Option.some.inj ((Value.get?_of_locate? located).symm.trans held)
  rw [hsegments, hnode] at located
  -- The last step goes to a field, so the node before it is a record, where no operation of the
  -- last segment adds or removes anything.
  obtain ⟨parent, hparent, leads⟩ := Value.exists_of_locate?_concat located
  obtain ⟨rfl, record, fields, present, hfind⟩ := Value.exists_record_of_step? leads
  have binds : Slot.Binds (.record record fields) (.field last)
      (.field record fields last node.shape) := .field hfind
  refine ⟨parent, _, _, Value.get?_of_locate? hparent, present, binds, hfind, rfl, ?_⟩
  have hcontains : Ordered.contains last fields = true := by
    rw [Ordered.contains, hfind]
    rfl
  have hresolve : Slot.resolve parent (.field last) = .ok (.field record fields last node.shape) :=
    binds.resolve present
  rw [apply_of_locate? ⟨h.wants.nonempty, h.valid, h.wants.split, hsegments⟩ hparent]
  simp only [finalStep, present, hcontains, if_true, Landing.of, hresolve, Except.map]

/-- What becomes of the graph, and how the directive ends, if it leads to a set with these
members. -/
def setOutcome (root : Value) (address : Address) (n : Nat) (members : List String) :
    Operation → String → Value × Except Fault Status
  | .insert, text =>
      if text ∈ members then (root, .ok .unchanged)
      else (root.withMembers address n (Ordered.insertMember text members), .ok .edited)
  | .remove, text =>
      if text ∈ members then
        (root.withMembers address n (Ordered.eraseMember text members), .ok .edited)
      else (root, .ok .unchanged)
  | operation, _ => (root, .error (.unsupported operation .textSet .membersOnly))

/-- The directive leaves this graph and ends like this; what it reports does not matter. -/
structure Yields (result : Value × Outcome) (outcome : Value × Except Fault Status) : Prop where
  /-- The graph. -/
  root : result.1 = outcome.1
  /-- The end. -/
  ends : result.2.result = outcome.2

/-- A set that is written to the slot is put behind all layers of the slot. -/
theorem settle_of_commits {schema : Schema} {parent container : Value} {slot : Slot} {step : Step}
    (registered : engine.updaters.find? .textSet = some LeafUpdate.textSet.updater)
    (wf : root.WellFormed schema) (hparent : root.get? above = some parent)
    (present : parent.present? = some container) (binds : Slot.Binds container step slot)
    (hpart : container.part? step = some node) (hslot : slot.declared = node.shape)
    (declared : node.shape = .optional n .textSet) {members : List String}
    (commits : UpdateRequest.Commits ⟨value, operation, slot, engine.config.operators⟩
      (.textSet members)
      (UpdateRequest.updateTextSet ⟨value, operation, slot, engine.config.operators⟩)) :
    ∃ note, engine.settle operation value ⟨root, [], .ok (.slot above slot)⟩
      = (root.withMembers (above ++ [step]) n members, ⟨.ok .edited, [note]⟩) := by
  obtain ⟨slot', message, hwrite, hrun⟩ := commits
  have hresolved : slot.declared.resolved = .textSet := by
    rw [hslot, declared, Shape.resolved_optional rfl]
  have hbare : (Value.textSet members).isBare = true := rfl
  have hconvert : (Value.textSet members).convert node.shape
      = .ok ((Value.textSet members).layered n) := by
    rw [declared]
    exact Value.convert_layered hbare n
  -- To commit the set is to convert it by the shape of the node, which is known, and to write it
  -- to the slot, which is what the update did.
  have hcommit := binds.commit_eq wf hparent present hpart (.textSet members)
  rw [hconvert, Slot.commit, show slot.write (.textSet members) = .ok slot' from hwrite] at hcommit
  injection hcommit with _ hroot
  refine ⟨⟨.edit, message⟩, ?_⟩
  have ends : engine.Ends slot operation value _ :=
    ends_of_leaf (by rw [hresolved]; exact registered)
  rw [settle_of_ends ends]
  simp only [LeafUpdate.run, hrun, Value.afterEffect, hroot, List.nil_append]
  rfl

variable (registered : engine.updaters.find? .textSet = some LeafUpdate.textSet.updater)
  (wf : root.WellFormed engine.schema) (held : root.get? (above ++ [.field name]) = some node)
  (declared : node.shape = .optional n .textSet)

include registered wf held declared

/-- **WHAT ONE DIRECTIVE DOES TO A SET** is decided by its operation, its value and the
members. -/
theorem Targets.yields
    (h : Targets engine root (above ++ [.field name]) directive operation value) :
    Yields (engine.apply root directive)
      (setOutcome root (above ++ [.field name]) n node.members operation value) := by
  obtain ⟨parent, container, slot, hparent, present, binds, hpart, hslot, happly⟩ :=
    h.exists_slot held
  have hresolved : slot.declared.resolved = .textSet := by
    rw [hslot, declared, Shape.resolved_optional rfl]
  let request : UpdateRequest := ⟨value, operation, slot, engine.config.operators⟩
  have ends : engine.Ends slot operation value (LeafUpdate.textSet.run request) :=
    ends_of_leaf (by rw [hresolved]; exact registered)
  have hcases := UpdateRequest.textSet_cases request binds hresolved
  rw [UpdateRequest.members_eq binds hpart] at hcases
  rw [happly]
  rcases hcases with
    ⟨rfl, absent, hcommits⟩ | ⟨rfl, present', hcommits⟩ | ⟨idle, message, hrun⟩ | ⟨hop, hrun⟩
  · obtain ⟨note, hsettle⟩ :=
      settle_of_commits registered wf hparent present binds hpart hslot declared hcommits
    rw [hsettle, setOutcome, if_neg absent]
    exact ⟨rfl, rfl⟩
  · obtain ⟨note, hsettle⟩ :=
      settle_of_commits registered wf hparent present binds hpart hslot declared hcommits
    rw [hsettle, setOutcome, if_pos present']
    exact ⟨rfl, rfl⟩
  · rw [settle_of_ends ends, LeafUpdate.run, hrun]
    rcases idle with ⟨rfl, present'⟩ | ⟨rfl, absent⟩
    · rw [setOutcome, if_pos present']
      exact ⟨rfl, rfl⟩
    · rw [setOutcome, if_neg absent]
      exact ⟨rfl, rfl⟩
  · rw [settle_of_ends ends, LeafUpdate.run, hrun, show request.shape = .textSet from hresolved]
    rcases hop with rfl | rfl <;> exact ⟨rfl, rfl⟩

/-- And so it is for the set that has come into the slot. -/
theorem Targets.yields_withMembers
    (h : Targets engine root (above ++ [.field name]) directive operation value)
    {members : List String} (ascending : members.Pairwise (· < ·)) :
    Yields (engine.apply (root.withMembers (above ++ [.field name]) n members) directive)
      (setOutcome (root.withMembers (above ++ [.field name]) n members) (above ++ [.field name]) n
        members operation value) := by
  have hwf := wf.withMembers held declared ascending
  have hyields := (h.withMembers n members).yields registered hwf
    (Value.get?_withMembers held n members) (Value.shape_layered _ n)
  rw [Value.members_layered] at hyields
  exact hyields

/-! ## §4. Many insertions. -/

/-- **WHAT A RUN OF INSERTIONS LEAVES**: the graph as it was if all texts are members, and
otherwise the set with all of them. -/
theorem applyAll_inserts {directives : List Directive} {texts : List String}
    (inserts : List.Forall₂ (fun directive text =>
      Targets engine root (above ++ [.field name]) directive .insert text) directives texts) :
    (engine.applyAll root directives).1 =
      if ∀ text ∈ texts, text ∈ node.members then root
      else root.withMembers (above ++ [.field name]) n
        (Ordered.insertMembers texts node.members) := by
  induction directives generalizing root node texts with
  | nil =>
      cases inserts
      rw [if_pos fun _ h => absurd h List.not_mem_nil]
      rfl
  | cons directive rest ih =>
      obtain _ | ⟨first, others⟩ := inserts
      rename_i text texts
      have ascending := (wf.get? held).members_ascending
      have hroot := (first.yields registered wf held declared).root
      show (engine.applyAll (engine.apply root directive).1 rest).1 = _
      rw [hroot, setOutcome]
      by_cases present : text ∈ node.members
      · -- The graph is the same, and the text makes no difference to the others.
        rw [if_pos present, ih wf held declared others, Ordered.insertMembers,
          Ordered.insertMembers, List.foldl_cons, Ordered.insertText_of_mem ascending present]
        simp only [List.forall_mem_cons, present, true_and]
      · -- From here on the text is a member, and the slot is filled.
        have hgrown : (Ordered.insertMember text node.members).Pairwise (· < ·) :=
          Ordered.ascending_insertText text ascending
        have hlater := ih (wf.withMembers held declared hgrown)
          (Value.get?_withMembers held n _) (Value.shape_layered _ n)
          (others.imp fun _ _ h => h.withMembers n _)
        rw [Value.members_layered] at hlater
        rw [if_neg present, if_neg fun h => present (h text List.mem_cons_self)]
        show (engine.applyAll _ rest).1 = root.withMembers _ n
          (Ordered.insertMembers texts (Ordered.insertMember text node.members))
        rw [hlater]
        by_cases hall : ∀ member ∈ texts, member ∈ Ordered.insertMember text node.members
        · rw [if_pos hall, Ordered.insertMembers_of_subset hgrown hall]
        · rw [if_neg hall, Value.withMembers_withMembers]

end

/-! ## §5. The statement. -/

/-- The graph was edited: the slot at the address now holds the set of these members, behind
the layers that the slot is declared with, and nothing else is different. -/
structure HoldsMembers (root : Value) (result : Value × Outcome) (address : Address) (n : Nat)
    (members : List String) : Prop where
  /-- The outcome says so. -/
  edited : result.2.result = .ok .edited
  /-- The set is the only difference. -/
  replaced : Value.ReplacedAt root result.1 address ((Value.textSet members).layered n)
  /-- Its members ascend, so none of them is there twice. -/
  ascending : members.Pairwise (· < ·)

/-- There was nothing to do, and the graph is what it was. -/
structure Idles (root : Value) (result : Value × Outcome) : Prop where
  /-- The outcome says so. -/
  unchanged : result.2.result = .ok .unchanged
  /-- No empty slot is filled, either. -/
  same : result.1 = root

/-- What directives do to the set in the slot at an address, which `node` is now. -/
structure SetEdits (engine : Engine) (root : Value) (address : Address) (n : Nat) (node : Value) :
    Prop where
  /-- A text that is no member becomes one. -/
  inserted : ∀ directive text, Targets engine root address directive .insert text →
    text ∉ node.members → ∃ members,
      HoldsMembers root (engine.apply root directive) address n members ∧
      (∀ member, member ∈ members ↔ member = text ∨ member ∈ node.members) ∧
      members.length = node.members.length + 1
  /-- A member need not be inserted. -/
  held : ∀ directive text, Targets engine root address directive .insert text →
    text ∈ node.members → Idles root (engine.apply root directive)
  /-- A member can be removed. -/
  removed : ∀ directive text, Targets engine root address directive .remove text →
    text ∈ node.members → ∃ members,
      HoldsMembers root (engine.apply root directive) address n members ∧
      (∀ member, member ∈ members ↔ member ≠ text ∧ member ∈ node.members) ∧
      members.length + 1 = node.members.length
  /-- A text that is no member need not be. -/
  missing : ∀ directive text, Targets engine root address directive .remove text →
    text ∉ node.members → Idles root (engine.apply root directive)
  /-- The set is neither overwritten nor reset. -/
  refused : ∀ directive operation text, Targets engine root address directive operation text →
    operation = .overwrite ∨ operation = .defaultValue →
    Fails root (engine.apply root directive).1 (engine.apply root directive).2
      (.unsupported operation .textSet .membersOnly)
  /-- To insert a text again is to do nothing. -/
  idempotent : ∀ directive directive' text,
    Targets engine root address directive .insert text →
    Targets engine root address directive' .insert text →
    Idles (engine.apply root directive).1
      (engine.apply (engine.apply root directive).1 directive')
  /-- A new member can be taken out again. Only a slot that was empty is different then: it holds
  the empty set. -/
  restored : ∀ directive directive' text,
    Targets engine root address directive .insert text →
    Targets engine root address directive' .remove text → text ∉ node.members →
    HoldsMembers root (engine.apply (engine.apply root directive).1 directive') address n
        node.members ∧
      (node.present?.isSome = true →
        (engine.apply (engine.apply root directive).1 directive').1 = root)
  /-- Insertions of the same texts leave the same graph, in whatever order they come and however
  often. -/
  order : ∀ directives directives' texts texts',
    List.Forall₂ (fun directive text => Targets engine root address directive .insert text)
      directives texts →
    List.Forall₂ (fun directive text => Targets engine root address directive .insert text)
      directives' texts' →
    (∀ text, text ∈ texts ↔ text ∈ texts') →
    (engine.applyAll root directives).1 = (engine.applyAll root directives').1

section

variable {root node : Value} {address : Address} {n : Nat} {members : List String}
  {result : Value × Outcome}

/-- An end without an edit or a fault is idle if it leaves the graph as it was. -/
theorem Yields.idles (h : Yields result (root, .ok .unchanged)) : Idles root result :=
  ⟨h.ends, h.root⟩

/-- A set that was written is all that is different. -/
theorem Yields.holdsMembers {root' : Value}
    (h : Yields result (root'.withMembers address n members, .ok .edited))
    (same : root'.withMembers address n members = root.withMembers address n members)
    (held : root.get? address = some node) (ascending : members.Pairwise (· < ·)) :
    HoldsMembers root result address n members := by
  refine ⟨h.ends, ?_, ascending⟩
  rw [h.root, same]
  exact Value.replacedAt_update held fun _ => (Value.textSet members).layered n

end

/-- **A FIELD OF TEXTS IS A SET**: its members are inserted and removed one by one, nothing is
done twice, and the order of insertions leaves no trace. -/
theorem setEdits_of_field {engine : Engine}
    (registered : engine.updaters.find? .textSet = some LeafUpdate.textSet.updater)
    {root node : Value} (wf : root.WellFormed engine.schema) {above : Address} {name : String}
    (held : root.get? (above ++ [.field name]) = some node) {n : Nat}
    (declared : engine.schema.declared? root (above ++ [.field name])
      = some (.optional n .textSet)) :
    SetEdits engine root (above ++ [.field name]) n node := by
  have hshape : node.shape = .optional n .textSet := by
    rw [wf.declared?_eq_shape (by simp) held] at declared
    exact Option.some.inj declared
  have ascending := (wf.get? held).members_ascending
  have hyields {directive : Directive} {operation : Operation} {text : String}
      (h : Targets engine root (above ++ [.field name]) directive operation text) :=
    h.yields registered wf held hshape
  have hagain (text : String) {directive : Directive} {operation : Operation} {text' : String}
      (h : Targets engine root (above ++ [.field name]) directive operation text') :=
    h.yields_withMembers registered wf held hshape (Ordered.ascending_insertText text ascending)
  constructor
  case inserted =>
    intro directive text targets absent
    have hinsert := hyields targets
    rw [setOutcome, if_neg absent] at hinsert
    exact ⟨_, hinsert.holdsMembers rfl held (Ordered.ascending_insertText text ascending),
      fun _ => Ordered.mem_insertMember_iff, Ordered.length_insertMember absent⟩
  case held =>
    intro directive text targets present
    have hinsert := hyields targets
    rw [setOutcome, if_pos present] at hinsert
    exact hinsert.idles
  case removed =>
    intro directive text targets present
    have hremove := hyields targets
    rw [setOutcome, if_pos present, Ordered.eraseMember_eq_erase] at hremove
    exact ⟨_, hremove.holdsMembers rfl held (ascending.sublist List.erase_sublist),
      fun _ => (Ordered.nodup_of_ascending ascending).mem_erase_iff,
      List.length_erase_add_one present⟩
  case missing =>
    intro directive text targets absent
    have hremove := hyields targets
    rw [setOutcome, if_neg absent] at hremove
    exact hremove.idles
  case refused =>
    rintro directive operation text targets (rfl | rfl)
    · exact ⟨(hyields targets).ends, (hyields targets).root⟩
    · exact ⟨(hyields targets).ends, (hyields targets).root⟩
  case idempotent =>
    intro directive directive' text targets targets'
    have hinsert := (hyields targets).root
    -- Either the first insertion finds nothing to do, or the text is a member behind it.
    by_cases present : text ∈ node.members
    · have hidle := hyields targets'
      rw [setOutcome, if_pos present] at hinsert hidle
      rw [hinsert]
      exact hidle.idles
    · have hidle := hagain text targets'
      rw [setOutcome, if_neg present] at hinsert
      rw [setOutcome, if_pos (Ordered.mem_insertMember_iff.mpr (.inl rfl))] at hidle
      rw [hinsert]
      exact hidle.idles
  case restored =>
    intro directive directive' text targets targets' absent
    have hinsert := (hyields targets).root
    have hremove := hagain text targets'
    rw [setOutcome, if_neg absent] at hinsert
    rw [setOutcome, if_pos (Ordered.mem_insertMember_iff.mpr (.inl rfl)),
      Ordered.eraseMember_insertMember absent] at hremove
    -- Two writes to one slot are the second one, which is of the members as they were.
    have hroot := Value.withMembers_withMembers root (above ++ [.field name]) n
      (Ordered.insertMember text node.members) node.members
    rw [hinsert]
    refine ⟨hremove.holdsMembers hroot held ascending, fun filled => ?_⟩
    rw [hremove.root, hroot, Value.withMembers_eq_self wf held hshape filled]
  case order =>
    intro directives directives' texts texts' inserts inserts' same
    -- Both runs come to an ascending list of the same members.
    have hmembers : Ordered.insertMembers texts node.members
        = Ordered.insertMembers texts' node.members := by
      refine Ordered.eq_of_ascending (Ordered.ascending_insertMembers texts ascending)
        (Ordered.ascending_insertMembers texts' ascending) fun member => ?_
      rw [Ordered.mem_insertMembers_iff, Ordered.mem_insertMembers_iff, same]
    rw [applyAll_inserts registered wf held hshape inserts,
      applyAll_inserts registered wf held hshape inserts', hmembers]
    simp only [same]

/-- A nullable set that is empty. -/
theorem setEdits_of_field_rig :
    Catalog.sampleRig.WellFormed (Engine.new Catalog.schema .standard).schema ∧
      Targets (Engine.new Catalog.schema .standard) Catalog.sampleRig [.field "m_tags"]
        ⟨"m_tags", "x!+"⟩ .insert "x" ∧
      SetEdits (Engine.new Catalog.schema .standard) Catalog.sampleRig ([] ++ [.field "m_tags"]) 1
        (.vacant .textSet) :=
  ⟨by decide, ⟨rfl, ⟨rfl, by rfl⟩, _, by rfl⟩,
    setEdits_of_field (by rfl) (by decide) (by rfl) (by rfl)⟩

end ConfigGraph
