/-
  ConfigGraph.Proofs.Blame
  ────────────────────────────────
  **THE FIRST SEGMENT THAT CANNOT BE READ IS TO BLAME.**

  A segment that cannot be read is found out by one of two programs: by the
  descent, if there are segments behind it, or by the last step, if there are
  none.  Whichever it is, what comes behind the segment has no say in the
  fault, and neither has the operation.

  The two programs report the same fault in every case but one.  A field that
  does not exist is reported with the type it was looked for on.  If there
  are layers around the contents of the node, the descent names the type of
  the layers and the last step the type of the contents.

  Main results:
    * `descendAll_append` — descending in two stages
    * `finalStep_overwrite_cases` — the two programs, segment by segment
    * `first_unread_segment_decides`
-/
import ConfigGraph.Catalog.Samples
import ConfigGraph.Proofs.Landing

namespace ConfigGraph

/-! ## §1. Descending in two stages. -/

/-- **DESCENDING IS DESCENDING ALONG A BEGINNING AND GOING ON FROM THERE.** -/
theorem descendAll_append (target : Value) (depth : Nat) (before after : List String) :
    descendAll target depth (before ++ after) =
      match descendAll target depth before with
      | .error fault => .error fault
      | .ok (address, node) => (descendAll node (depth + before.length) after).map
          fun (below, part) => (address ++ below, part) := by
  induction before generalizing target depth with
  | nil =>
      show descendAll target depth after = (descendAll target depth after).map _
      cases descendAll target depth after <;> rfl
  | cons segment rest ih =>
      rw [List.cons_append, descendAll, descendAll]
      cases descend target depth segment with
      | error fault => rfl
      | ok found =>
          obtain ⟨step, part⟩ := found
          have hdepth : depth + (segment :: rest).length = depth + 1 + rest.length := by
            rw [List.length_cons]
            omega
          simp only [ih, hdepth]
          cases descendAll part (depth + 1) rest with
          | error fault => rfl
          | ok found =>
              obtain ⟨address, node⟩ := found
              simp only [Except.map]
              cases descendAll node (depth + 1 + rest.length) after <;> rfl

/-! ## §2. One segment, two programs. -/

/-- The faults that the last step and the descent report about a segment of a node. -/
inductive Reports (node : Value) (depth : Nat) (segment : String) : Fault → Fault → Prop where
  /-- They are the same. -/
  | alike (fault : Fault) : Reports node depth segment fault fault
  /-- There are layers around the contents, and the two faults name different types. -/
  | apart {inside : Value} (present : node.present? = some inside)
      (layered : node.isBare = false) :
      Reports node depth segment (.fieldNotFound depth segment inside.shape)
        (.fieldNotFound depth segment node.shape)

theorem Reports.of_fieldNotFound {node inside : Value} (depth : Nat) (segment : String)
    (present : node.present? = some inside) :
    Reports node depth segment (.fieldNotFound depth segment inside.shape)
      (.fieldNotFound depth segment node.shape) := by
  cases hbare : node.isBare with
  | false => exact .apart present hbare
  | true =>
      rw [Value.present?_of_isBare hbare] at present
      injection present with present
      rw [present]
      exact .alike _

/-- The last step of an overwrite selects a slot that is there, or both programs report a fault
about the segment. -/
theorem finalStep_overwrite_cases (schema : Schema) (node : Value) (depth : Nat)
    (segment raw : String) :
    (∃ selector slot, finalStep schema node depth segment .overwrite raw
        = .ok ⟨none, [], .update selector⟩ ∧ Slot.resolve node selector = .ok slot) ∨
      ∃ fault fault', finalStep schema node depth segment .overwrite raw = .error fault ∧
        descend node depth segment = .error fault' ∧ Reports node depth segment fault fault' := by
  unfold finalStep descend
  cases hpresent : node.present? with
  | none => exact .inr ⟨_, _, rfl, rfl, .alike _⟩
  | some inside =>
      have missing := Reports.of_fieldNotFound depth segment hpresent
      cases inside with
      | record name fields =>
          cases hfind : Ordered.find? segment fields with
          | some part =>
              refine .inl ⟨.field segment, .field name fields segment part.shape, ?_, ?_⟩
              · simp [Ordered.contains, hfind]
              · simp only [Slot.resolve, hpresent, hfind]
          | none =>
              refine .inr ⟨_, _, ?_, by simp only [hfind], missing⟩
              simp [Ordered.contains, hfind, Value.shape]
      | list element items =>
          by_cases hdepth : depth = 0
          · simp only [if_pos hdepth]
            exact .inr ⟨_, _, rfl, rfl, missing⟩
          · simp only [if_neg hdepth, finalStepList]
            cases hindex : Text.index? segment with
            | none => exact .inr ⟨_, _, rfl, rfl, .alike _⟩
            | some i =>
                by_cases hlt : i < items.length
                · refine .inl ⟨.index i, .element element items i, by simp only [if_pos hlt], ?_⟩
                  simp only [Slot.resolve, hpresent, if_pos hlt]
                · refine .inr ⟨_, _, by simp only [if_neg hlt]; rfl, ?_, .alike _⟩
                  simp only [List.getElem?_eq_none (Nat.le_of_not_lt hlt)]
      | map order kind shape entries =>
          by_cases hdepth : depth = 0
          · simp only [if_pos hdepth]
            exact .inr ⟨_, _, rfl, rfl, missing⟩
          · simp only [if_neg hdepth, finalStepMap]
            cases hfind : Entries.find? kind entries segment with
            | some part =>
                refine .inl ⟨.key segment, .entry order kind shape entries segment, by simp, ?_⟩
                simp [Slot.resolve, hpresent, hfind]
            | none =>
                refine .inr ⟨_, _, by simp; rfl, ?_, .alike _⟩
                rw [Entries.find?] at hfind
                cases hkey : kind.read? segment with
                | none => rfl
                | some key =>
                    rw [hkey, Option.bind_some] at hfind
                    simp only [hfind]
      | _ => exact .inr ⟨_, _, rfl, rfl, missing⟩

/-! ## §3. Longer paths. -/

/-- The two faults are about the last segment of the path, which is looked for as a field in a
node with layers around its contents, and they name the two types. -/
inductive NamesLayers (root : Value) (segments : List String) : Fault → Fault → Prop where
  | intro {before : List String} {last : String} {address : Address} {node inside : Value}
      (path : segments = before ++ [last]) (located : root.locate? before = some (address, node))
      (present : node.present? = some inside) (layered : node.isBare = false) :
      NamesLayers root segments (.fieldNotFound before.length last inside.shape)
        (.fieldNotFound before.length last node.shape)

/-- A layer has no shape that its contents could have. -/
theorem Value.shape_ne_of_layered {node inside : Value} (present : node.present? = some inside)
    (layered : node.isBare = false) : node.shape ≠ inside.shape := by
  have hbare := isBare_of_present? present
  cases node with
  | vacant inner => cases present
  | filled inner value | dynamic value =>
      cases inside with
      | vacant inner | filled inner value | dynamic value => cases hbare
      | _ => exact Shape.noConfusion
  | _ => cases layered

theorem NamesLayers.ne {root : Value} {segments : List String} {fault fault' : Fault}
    (h : NamesLayers root segments fault fault') : fault' ≠ fault := by
  cases h with
  | intro _ _ present layered =>
      intro heq
      injection heq with _ _ hshape
      exact Value.shape_ne_of_layered present layered hshape

/-- What stops the descent on a path stops every longer path with the same fault. -/
theorem land_append_of_descendAll {root : Value} {segments : List String} {fault : Fault}
    (h : descendAll root 0 segments = .error fault) (schema : Schema) {more : List String}
    (hmore : more ≠ []) (operation : Operation) (raw : String) :
    land schema root (segments ++ more) operation raw = ⟨root, [], .error fault⟩ := by
  obtain ⟨between, last, rfl⟩ : ∃ between last, more = between ++ [last] :=
    ⟨_, _, (List.dropLast_concat_getLast hmore).symm⟩
  rw [← List.append_assoc, land_concat, descendAll_append, h]

/-- **THE FIRST SEGMENT THAT CANNOT BE READ DECIDES.** If an overwrite cannot follow a path, no
operation can follow a longer one, and all longer ones end with one and the same fault.  It is
the fault of the path itself, except for the type in it if the last segment of the path is
looked for as a field behind layers. -/
theorem first_unread_segment_decides (schema : Schema) (root : Value) {segments : List String}
    (hpath : segments ≠ []) (raw : String) {fault : Fault}
    (fails : (land schema root segments .overwrite raw).result = .error fault) :
    ∃ fault', (∀ more, more ≠ [] → ∀ operation raw',
        land schema root (segments ++ more) operation raw' = ⟨root, [], .error fault'⟩) ∧
      (fault' ≠ fault ↔ NamesLayers root segments fault fault') := by
  obtain ⟨before, last, rfl⟩ : ∃ before last, segments = before ++ [last] :=
    ⟨_, _, (List.dropLast_concat_getLast hpath).symm⟩
  rcases descendAll_cases root 0 before with ⟨⟨address, node⟩, located, hdescend⟩ |
    ⟨fault', stops, hdescend⟩
  · rw [land_of_locate? located] at fails
    rcases finalStep_overwrite_cases schema node before.length last raw with
      ⟨selector, slot, hstep, hresolve⟩ | ⟨fault₁, fault', hstep, hmiss, reports⟩
    · -- A slot that is selected is there, so this path does not fail.
      simp only [hstep, Landing.of, hresolve] at fails
      cases fails
    · rw [hstep] at fails
      injection fails with hfault
      subst hfault
      have hdown : descendAll root 0 (before ++ [last]) = .error fault' := by
        rw [descendAll_append, hdescend]
        simp only [Nat.zero_add, descendAll, hmiss]
        rfl
      refine ⟨fault', fun more hmore operation raw' =>
        land_append_of_descendAll hdown schema hmore operation raw', ?_⟩
      refine ⟨fun hne => ?_, NamesLayers.ne⟩
      cases reports with
      | alike => exact absurd rfl hne
      | apart present layered => exact .intro rfl located present layered
  · -- The path stops before its last segment, so it is a longer path itself.
    rw [land_append_of_descendAll hdescend schema (List.cons_ne_nil _ _)] at fails
    injection fails with hfault
    subst hfault
    have hdown : descendAll root 0 (before ++ [last]) = .error fault' := by
      rw [descendAll_append, hdescend]
    exact ⟨fault', fun more hmore operation raw' =>
      land_append_of_descendAll hdown schema hmore operation raw',
      iff_of_false (fun hne => hne rfl) fun h => h.ne rfl⟩

/-- A key that a map does not have. -/
theorem first_unread_segment_decides_rig :
    ["order", "z"] ≠ [] ∧
      (land Catalog.schema Catalog.sampleRig ["order", "z"] .overwrite "").result
        = .error (.keyNotFound 1 "z") ∧
      ∃ fault', (∀ more, more ≠ [] → ∀ operation raw',
          land Catalog.schema Catalog.sampleRig (["order", "z"] ++ more) operation raw'
            = ⟨Catalog.sampleRig, [], .error fault'⟩) ∧
        (fault' ≠ .keyNotFound 1 "z" ↔
          NamesLayers Catalog.sampleRig ["order", "z"] (.keyNotFound 1 "z") fault') :=
  ⟨List.cons_ne_nil _ _, by rfl,
    first_unread_segment_decides Catalog.schema Catalog.sampleRig (List.cons_ne_nil _ _) ""
      (by rfl)⟩

/-- Behind a nullable layer the type in the fault depends on what comes next: it is `int` at the
end of a path and `Option<int>` before another segment. -/
theorem longer_path_names_layer :
    ¬ ∀ (root : Value) (segments more : List String) (fault : Fault),
      root.WellFormed Catalog.schema → segments ≠ [] → more ≠ [] →
      (land Catalog.schema root segments .overwrite "").result = .error fault →
      (land Catalog.schema root (segments ++ more) .overwrite "").result = .error fault := by
  intro h
  have hlonger := h Catalog.sampleRig ["m_int", "x"] ["y"] (.fieldNotFound 1 "x" .int)
    (by decide) (List.cons_ne_nil _ _) (List.cons_ne_nil _ _) (by rfl)
  have hlayer : (land Catalog.schema Catalog.sampleRig (["m_int", "x"] ++ ["y"]) .overwrite
      "").result = .error (.fieldNotFound 1 "x" (.nullable .int)) := by rfl
  rw [hlayer] at hlonger
  injection hlonger with hfault
  injection hfault with _ _ hshape
  cases hshape

end ConfigGraph
