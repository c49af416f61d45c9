/-
  ConfigGraph.Proofs.Conversion
  ────────────────────────────────
  **WHICH VALUES A SLOT TAKES.**

  `accepts` decides from two shapes alone whether a slot takes a value.
  Conversion succeeds exactly on the accepted shapes; what it stores has the
  shape of the slot and shows the reader the same value; and a refusal names
  the slot's shape without its nullable layers and the shape of the value.

  A default instance has the shape it was asked for, so a slot takes its own
  default instance, and only a slot of any type has none.

  Main results:
    * `accepts_optional_iff` — acceptance, counted in layers
    * `convert_self`, `convert_of_accepts`, `convert_of_not_accepts`
    * `shape_of_instantiate`, `present?_of_instantiate`
-/
import ConfigGraph.Graph.Assign
import ConfigGraph.Graph.Schema

namespace ConfigGraph

/-! ## §1. Acceptance. -/

namespace Shape

/-- A slot of the first shape takes values of the second: its own shape, the shape inside
each of its nullable layers, and everything if there is a dynamic layer at the bottom. -/
def accepts : Shape → Shape → Bool
  | .nullable inner, found => found = .nullable inner || inner.accepts found
  | .dynamic, _ => true
  | shape, found => found = shape

/-- `n` nullable layers around a shape. -/
def optional : Nat → Shape → Shape
  | 0, base => base
  | n + 1, base => .nullable (optional n base)

theorem accepts_resolved (shape : Shape) : shape.accepts shape.resolved = true := by
  induction shape with
  | nullable inner ih => simp [accepts, resolved, ih]
  | _ => simp [accepts, resolved]

/-- A nullable slot takes an empty slot of its innermost shape, however many layers it has. -/
theorem accepts_nullable_resolved {shape : Shape} (h : shape.isNullable = true) :
    shape.accepts (.nullable shape.resolved) = true := by
  induction shape with
  | nullable inner ih =>
      by_cases hinner : inner.isNullable = true
      · simp [accepts, resolved, ih hinner]
      · have hres : inner.resolved = inner := by
          cases inner <;> first | rfl | exact absurd rfl hinner
        simp [accepts, resolved, hres]
  | _ => cases h

theorem resolved_optional {base : Shape} (h : base.isNullable = false) (n : Nat) :
    (optional n base).resolved = base := by
  induction n with
  | zero => cases base <;> first | rfl | cases h
  | succ n ih => exact ih

theorem isNullable_optional {base : Shape} (h : base.isNullable = false) (n : Nat) :
    (optional n base).isNullable = true ↔ 0 < n := by
  cases n with
  | zero => simp [optional, h]
  | succ n => simp [optional, isNullable]

theorem optional_inj {n : Nat} {base base' : Shape} (h : optional n base = optional n base') :
    base = base' := by
  induction n with
  | zero => exact h
  | succ n ih =>
      injection h with h
      exact ih h

/-- A slot with `n` nullable layers around a base takes the base with at most that many layers;
around the shape of any type, it takes everything. -/
def Fits (n : Nat) (base found : Shape) : Prop :=
  base = .dynamic ∨ ∃ k, k ≤ n ∧ found = .optional k base

theorem accepts_optional_iff {base found : Shape} (plain : base.isNullable = false) {n : Nat} :
    (optional n base).accepts found = true ↔ Fits n base found := by
  induction n with
  | zero =>
      have hbase : base.accepts found = true ↔ base = .dynamic ∨ found = base := by
        cases base with
        | nullable inner => cases plain
        | dynamic => exact iff_of_true rfl (.inl rfl)
        | _ => exact decide_eq_true_iff.trans (or_iff_right Shape.noConfusion).symm
      rw [optional, hbase, Fits]
      refine or_congr_right ⟨fun h => ⟨0, Nat.le_refl 0, h⟩, ?_⟩
      rintro ⟨k, hk, hfound⟩
      rw [hfound, Nat.le_zero.mp hk]
      rfl
  | succ n ih =>
      rw [optional, accepts, Bool.or_eq_true, decide_eq_true_iff, ih]
      constructor
      · rintro (hfound | hdynamic | ⟨k, hk, hfound⟩)
        · exact .inr ⟨n + 1, Nat.le_refl _, hfound⟩
        · exact .inl hdynamic
        · exact .inr ⟨k, Nat.le_succ_of_le hk, hfound⟩
      · rintro (hdynamic | ⟨k, hk, hfound⟩)
        · exact .inr (.inl hdynamic)
        · rcases Nat.le_succ_iff.mp hk with hle | rfl
          · exact .inr (.inr ⟨k, hle, hfound⟩)
          · exact .inl hfound

end Shape

/-! ## §2. Conversion. -/

namespace Value

/-- A value of exactly the slot's shape is taken as it is. -/
theorem convert_self {shape : Shape} {value : Value} (h : value.shape = shape) :
    value.convert shape = .ok value := by
  cases shape <;> simp [convert, h]

/-- **AN ACCEPTED VALUE IS STORED**: under the shape of the slot, and a reader sees the value
that was put in. -/
theorem convert_of_accepts {shape : Shape} {value : Value}
    (h : shape.accepts value.shape = true) :
    ∃ stored, value.convert shape = .ok stored ∧ stored.shape = shape ∧
      stored.present? = value.present? := by
  induction shape with
  | nullable inner ih =>
      by_cases hself : value.shape = .nullable inner
      -- A value of the slot's own shape is not wrapped again, even if the inner shape takes it.
      · exact ⟨value, by rw [convert, if_pos hself], hself, rfl⟩
      · rw [Shape.accepts, decide_eq_false hself, Bool.false_or] at h
        obtain ⟨stored, hok, _, hpresent⟩ := ih h
        refine ⟨.filled inner stored, ?_, rfl, hpresent⟩
        rw [convert, if_neg hself, hok]
        rfl
  | dynamic =>
      by_cases hself : value.shape = .dynamic
      · exact ⟨value, by rw [convert, if_pos hself], hself, rfl⟩
      · exact ⟨.dynamic value, by rw [convert, if_neg hself], rfl, rfl⟩
  | _ =>
      have hself := of_decide_eq_true h
      exact ⟨value, by simp [convert, hself], hself, rfl⟩

/-- **EVERY OTHER VALUE IS REFUSED**, and the refusal names both shapes. -/
theorem convert_of_not_accepts {shape : Shape} {value : Value}
    (h : shape.accepts value.shape = false) :
    value.convert shape = .error (.typeMismatch shape.resolved value.shape) := by
  induction shape with
  | nullable inner ih =>
      rw [Shape.accepts, Bool.or_eq_false_iff] at h
      obtain ⟨hself, hinner⟩ := h
      rw [convert, if_neg (of_decide_eq_false hself), ih hinner]
      rfl
  | dynamic => cases h
  | _ =>
      have hself := of_decide_eq_false h
      simp [convert, hself, Shape.resolved]

/-- What a conversion stores has the shape that was asked for. -/
theorem shape_of_convert {shape : Shape} {value stored : Value}
    (h : value.convert shape = .ok stored) : stored.shape = shape := by
  cases haccepts : shape.accepts value.shape with
  | false =>
      rw [convert_of_not_accepts haccepts] at h
      cases h
  | true =>
      obtain ⟨stored', hok, hshape, _⟩ := convert_of_accepts haccepts
      rw [hok] at h
      injection h with h
      rw [← h, hshape]

end Value

/-! ## §3. Default instances. -/

namespace Schema

variable {schema : Schema}

theorem instantiate_eq_none_iff {shape : Shape} :
    schema.instantiate shape = none ↔ shape = .dynamic := by
  cases shape with
  | nullable inner =>
      rw [instantiate]
      cases schema.instantiate inner <;> simp
  | _ => simp [instantiate]

theorem exists_instantiate {shape : Shape} (h : shape ≠ .dynamic) :
    ∃ value, schema.instantiate shape = some value :=
  Option.ne_none_iff_exists'.mp fun hnone => h (instantiate_eq_none_iff.mp hnone)

theorem shape_of_instantiate {shape : Shape} {value : Value}
    (h : schema.instantiate shape = some value) : value.shape = shape := by
  cases shape with
  | nullable inner =>
      rw [instantiate] at h
      cases hinner : schema.instantiate inner with
      | none =>
          rw [hinner] at h
          injection h with h
          rw [← h, Value.shape]
      | some inside =>
          rw [hinner] at h
          injection h with h
          rw [← h, Value.shape]
  | dynamic => cases h
  | _ =>
      injection h with h
      rw [← h, Value.shape]

/-- What a reader sees in a default instance is the default instance behind the nullable
layers; a nullable slot of any type starts out empty. -/
theorem present?_of_instantiate {shape : Shape} {value : Value}
    (h : schema.instantiate shape = some value) :
    value.present? = schema.instantiate shape.resolved := by
  induction shape generalizing value with
  | nullable inner ih =>
      rw [instantiate] at h
      cases hinner : schema.instantiate inner with
      | none =>
          -- Nothing is inside because the inner shape is the one without default instances.
          rw [hinner] at h
          injection h with h
          have hdynamic : inner = .dynamic := instantiate_eq_none_iff.mp hinner
          rw [← h, hdynamic]
          rfl
      | some inside =>
          rw [hinner] at h
          injection h with h
          rw [← h]
          show inside.present? = schema.instantiate inner.resolved
          exact ih hinner
  | dynamic => cases h
  | _ =>
      injection h with h
      rw [← h]
      rfl

end Schema

end ConfigGraph
