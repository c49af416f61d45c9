/-
  ConfigGraph.Proofs.Reset
  ────────────────────────────────
  **RESETS: WHICH INSTANCE GOES INTO THE SLOT, AND WHETHER IT FITS.**

  A slot of records, lists, maps or values of any type has no literals; a
  reset puts a default instance into it.  The value of the directive selects
  the shape of the instance: a tag reference selects the registered shape,
  which need not be a shape that the slot takes and may have nullable layers
  of its own, and any other value selects the shape of the slot without its
  nullable layers.

  Three things can go wrong, in this order: the tag is not registered, the
  shape has no default instance, the slot does not take the shape.  Which one
  does is decided by the tags and the shapes alone.  A slot without a tag
  has nothing to fear unless it is a slot of any type.

  Main results:
    * `TagTable.reference?_eq_some_iff`
    * `apply_reset` — everything that a reset can do
    * `resets_of_located`
-/
import ConfigGraph.Proofs.Exactness

namespace ConfigGraph

/-! ## §1. The shape that a value selects. -/

namespace TagTable

variable {table : TagTable} {value tag : String} {own shape shape' : Shape}

/-- A tag reference is the marker with the tag behind it, and the other way round. -/
theorem reference?_eq_some_iff :
    table.reference? value = some tag ↔ value = table.marker ++ tag := by
  refine ⟨eq_of_reference?, ?_⟩
  rintro rfl
  have hrest : table.marker.toList.isPrefixOf? (table.marker ++ tag).toList = some tag.toList := by
    rw [String.toList_append]
    exact List.isPrefixOf?_eq_some_iff_append_eq.mpr rfl
  rw [reference?, hrest, Option.map_some, String.ofList_toList]

/-- The shape whose default instance a reset with this value asks for, in a slot that has the
shape `own` behind its nullable layers. -/
inductive Selects (table : TagTable) (value : String) (own : Shape) : Shape → Prop where
  /-- The value refers to a registered tag. -/
  | tagged {tag : String} {shape : Shape} (reference : value = table.marker ++ tag)
      (registered : table.find? tag = some shape) : Selects table value own shape
  /-- The value does not begin with the marker. -/
  | plain (unmarked : ∀ tag, value ≠ table.marker ++ tag) : Selects table value own own

theorem Resolves.selects {tagged : Option Shape} (h : table.Resolves value tagged) (own : Shape) :
    table.Selects value own (tagged.getD own) := by
  cases h with
  | plain noReference =>
      refine .plain fun tag hvalue => ?_
      rw [reference?_eq_some_iff.mpr hvalue] at noReference
      cases noReference
  | tagged reference registered => exact .tagged (reference?_eq_some_iff.mp reference) registered

theorem Selects.find?_eq (h : table.Selects value own shape)
    (reference : value = table.marker ++ tag) : table.find? tag = some shape := by
  cases h with
  | @tagged tag' _ reference' registered =>
      rw [← Option.some.inj ((reference?_eq_some_iff.mpr reference').symm.trans
        (reference?_eq_some_iff.mpr reference)), registered]
  | plain unmarked => exact absurd reference (unmarked tag)

/-- A value selects one shape at most. -/
theorem Selects.unique (h : table.Selects value own shape) (h' : table.Selects value own shape') :
    shape = shape' := by
  cases h with
  | tagged reference registered =>
      exact Option.some.inj (registered.symm.trans (h'.find?_eq reference))
  | plain unmarked =>
      cases h' with
      | tagged reference _ => exact absurd reference (unmarked _)
      | plain _ => rfl

end TagTable

/-! ## §2. Everything that a reset can do. -/

/-- What a reset makes of the graph if its path leads to a slot that is declared as `n` nullable
layers around `base`. -/
inductive ResetStep (engine : Engine) (root : Value) (address : Address) (n : Nat) (base : Shape)
    (value : String) : Value × Outcome → Prop where
  /-- The tag is not registered. -/
  | unknown {tag : String} (reference : value = engine.tags.marker ++ tag)
      (unregistered : engine.tags.find? tag = none) :
      ResetStep engine root address n base value (root, ⟨.error (.unknownTag value), []⟩)
  /-- The selected shape has no default instance. -/
  | barren (selects : engine.tags.Selects value base .dynamic) :
      ResetStep engine root address n base value (root, ⟨.error (.noDefault .dynamic), []⟩)
  /-- The slot does not take it. -/
  | refused {shape : Shape} (selects : engine.tags.Selects value base shape)
      (fertile : shape ≠ .dynamic) (misfit : ¬ Shape.Fits n base shape) :
      ResetStep engine root address n base value
        (root, ⟨.error (.write (.typeMismatch base shape)), []⟩)
  /-- Its default instance replaces what is in the slot. -/
  | reset {shape : Shape} {fresh stored : Value} {note : Note}
      (selects : engine.tags.Selects value base shape) (fits : Shape.Fits n base shape)
      (instantiates : engine.schema.instantiate shape = some fresh)
      (keeps : stored.shape = .optional n base) (seen : stored.present? = fresh.present?) :
      ResetStep engine root address n base value
        (root.update (fun _ => stored) address, ⟨.ok .edited, [note]⟩)

section

variable {engine : Engine} {root node : Value} {directive : Directive} {value : String}
  {address : Address} {n : Nat} {base : Shape}

/-- **EVERYTHING THAT A RESET CAN DO** to a slot whose kind has no update. -/
theorem apply_reset (standard : engine.updaters = .standard)
    (wf : root.WellFormed engine.schema) (nonempty : directive.value.isEmpty = false)
    (valid : FieldPath.validate directive.path = .ok ())
    (split : engine.config.operators.split directive.value = (.defaultValue, value))
    (located : root.locate? (FieldPath.parse directive.path) = some (address, node))
    (declared : node.shape = .optional n base) (plain : base.isNullable = false)
    (bare : UpdaterTable.standard.find? base.kind = none) :
    ResetStep engine root address n base value (engine.apply root directive) := by
  obtain ⟨above, step, parent, container, slot, rfl, hparent, present, binds, hpart, happly⟩ :=
    exists_slot_of_selecting nonempty valid split (.inr rfl) located
  have hdeclared : slot.declared = .optional n base :=
    (binds.declared_eq_shape ((wf.get? hparent).present present) hpart).trans declared
  have hresolved : slot.declared.resolved = base := by
    rw [hdeclared, Shape.resolved_optional plain]
  have hfind : engine.updaters.find? slot.declared.resolved.kind = none := by
    rw [standard, hresolved, bare]
  rw [happly, settle_of_ends (ends_of_bare hfind)]
  simp only [Engine.fillSlot, hresolved, ne_eq, not_true, if_false, Slot.reset]
  rcases engine.tags.resolve_cases value with
    ⟨tagged, resolves, hresolve⟩ | ⟨tag, reference, unregistered, hresolve⟩
  · have selects := resolves.selects base
    simp only [hresolve]
    -- From here on it does not matter how the shape was selected.
    generalize tagged.getD base = shape at selects ⊢
    cases hfresh : engine.schema.instantiate shape with
    | none =>
        obtain rfl := Schema.instantiate_eq_none_iff.mp hfresh
        exact .barren selects
    | some fresh =>
        -- The instance has exactly the selected shape, so shapes decide whether the slot takes it.
        have hshape := Schema.shape_of_instantiate hfresh
        have hfits : slot.declared.accepts fresh.shape = true ↔ Shape.Fits n base shape := by
          rw [hdeclared, hshape, Shape.accepts_optional_iff plain]
        cases haccepts : slot.declared.accepts fresh.shape with
        | true =>
            obtain ⟨slot', hwrite⟩ := binds.write_of_accepts haccepts
            obtain ⟨stored, hupdate, hstored, hseen⟩ :=
              write_eq_update wf hparent present binds hwrite
            simp only [hwrite, Value.afterEffect, hupdate]
            exact .reset selects (hfits.mp haccepts) hfresh (hstored.trans hdeclared) hseen
        | false =>
            have misfit : ¬ Shape.Fits n base shape := by
              rw [← hfits, haccepts]
              exact Bool.false_ne_true
            have fertile : shape ≠ .dynamic := by
              rintro rfl
              cases hfresh
            simp only [binds.write_of_not_accepts haccepts, hresolved, hshape]
            exact .refused selects fertile misfit
  · simp only [hresolve]
    exact .unknown (TagTable.eq_of_reference? reference) unregistered

end

/-! ## §3. The statement. -/

/-- How a reset ends that puts a default instance of a shape into a slot declared as `n` nullable
layers around `base`. -/
structure ResetsTo (engine : Engine) (root : Value) (result : Value × Outcome) (address : Address)
    (n : Nat) (base shape : Shape) : Prop where
  /-- The shape of any type has no default instance. -/
  barren : result.2.result = .error (.noDefault shape) ↔ shape = .dynamic
  /-- An instance must be one that the slot takes. -/
  refused : result.2.result = .error (.write (.typeMismatch base shape)) ↔
    shape ≠ .dynamic ∧ ¬ Shape.Fits n base shape
  /-- If it is, the slot is reset. -/
  edited : result.2.result = .ok .edited ↔ shape ≠ .dynamic ∧ Shape.Fits n base shape
  /-- The slot then has its declared shape and shows what the default instance shows, and nothing
  else is different. -/
  shows : result.2.result = .ok .edited → ∃ fresh stored,
    engine.schema.instantiate shape = some fresh ∧
    Value.ReplacedAt root result.1 address stored ∧ stored.shape = .optional n base ∧
    stored.present? = fresh.present?

/-- How a reset with this value ends at a slot that is declared as `n` nullable layers around
`base`: the tags and the shapes decide. -/
structure Resets (engine : Engine) (root : Value) (result : Value × Outcome) (address : Address)
    (n : Nat) (base : Shape) (value : String) : Prop where
  /-- A tag reference whose tag is not registered is a fault. -/
  unknown : result.2.result = .error (.unknownTag value) ↔
    ∃ tag, value = engine.tags.marker ++ tag ∧ engine.tags.find? tag = none
  /-- Every other value selects a shape. -/
  known : result.2.result ≠ .error (.unknownTag value) →
    ∃ shape, engine.tags.Selects value base shape
  /-- The shape that is selected decides. -/
  selected : ∀ shape, engine.tags.Selects value base shape →
    ResetsTo engine root result address n base shape
  /-- Without an edit, nothing is different. -/
  otherwise : result.2.result ≠ .ok .edited → result.1 = root
  /-- Without a tag, a slot of records, lists or maps is always reset. -/
  untagged : (∀ tag, value ≠ engine.tags.marker ++ tag) → base ≠ .dynamic →
    result.2.result = .ok .edited

section

variable {engine : Engine} {root node : Value} {address : Address} {n : Nat} {base : Shape}
  {value : String} {result : Value × Outcome}

theorem Shape.fits_self (n : Nat) (base : Shape) : Shape.Fits n base base :=
  .inr ⟨0, Nat.zero_le n, rfl⟩

theorem Resets.of_unknown {tag : String} (reference : value = engine.tags.marker ++ tag)
    (unregistered : engine.tags.find? tag = none) :
    Resets engine root (root, ⟨.error (.unknownTag value), []⟩) address n base value where
  unknown := ⟨fun _ => ⟨tag, reference, unregistered⟩, fun _ => rfl⟩
  known := fun h => absurd rfl h
  selected := fun _ selects => nomatch unregistered.symm.trans (selects.find?_eq reference)
  otherwise := fun _ => rfl
  untagged := fun unmarked => absurd reference (unmarked tag)

/-- Only one shape is selected, so it is enough to know how its reset ends. -/
theorem Resets.of_selects {shape : Shape} (selects : engine.tags.Selects value base shape)
    (known : result.2.result ≠ .error (.unknownTag value))
    (ends : ResetsTo engine root result address n base shape)
    (otherwise : result.2.result ≠ .ok .edited → result.1 = root) :
    Resets engine root result address n base value where
  unknown := by
    refine iff_of_false known ?_
    rintro ⟨tag, reference, unregistered⟩
    cases unregistered.symm.trans (selects.find?_eq reference)
  known := fun _ => ⟨shape, selects⟩
  selected := by
    intro shape' selects'
    rw [selects'.unique selects]
    exact ends
  otherwise := otherwise
  untagged := by
    intro unmarked fertile
    -- The shape of the slot itself is selected, which the slot takes.
    have hown : shape = base := selects.unique (.plain unmarked)
    rw [ends.edited, hown]
    exact ⟨fertile, Shape.fits_self n base⟩

theorem ResetStep.resets (h : ResetStep engine root address n base value result)
    (held : root.get? address = some node) :
    Resets engine root result address n base value := by
  cases h with
  | unknown reference unregistered => exact .of_unknown reference unregistered
  | barren selects =>
      refine .of_selects selects nofun ⟨iff_of_true rfl rfl, ?_, ?_, nofun⟩ fun _ => rfl
      · exact iff_of_false nofun fun h => h.1 rfl
      · exact iff_of_false nofun fun h => h.1 rfl
  | refused selects fertile misfit =>
      refine .of_selects selects nofun ⟨?_, ?_, ?_, nofun⟩ fun _ => rfl
      · exact iff_of_false nofun fertile
      · exact iff_of_true rfl ⟨fertile, misfit⟩
      · exact iff_of_false nofun fun h => misfit h.2
  | @reset shape fresh stored note selects fits instantiates keeps seen =>
      have fertile : shape ≠ .dynamic := by
        rintro rfl
        cases instantiates
      refine .of_selects selects nofun ⟨?_, ?_, ?_, ?_⟩ fun h => absurd rfl h
      · exact iff_of_false nofun fertile
      · exact iff_of_false nofun fun h => h.2 fits
      · exact iff_of_true rfl ⟨fertile, fits⟩
      · exact fun _ => ⟨fresh, stored, instantiates,
          Value.replacedAt_update held fun _ => stored, keeps, seen⟩

end

/-- **A RESET IS DECIDED BY TAGS AND SHAPES.** -/
theorem resets_of_located {engine : Engine} (standard : engine.updaters = .standard)
    {root node : Value} (wf : root.WellFormed engine.schema) {directive : Directive}
    (nonempty : directive.value.isEmpty = false)
    (valid : FieldPath.validate directive.path = .ok ()) {value : String}
    (split : engine.config.operators.split directive.value = (.defaultValue, value))
    {address : Address}
    (located : root.locate? (FieldPath.parse directive.path) = some (address, node))
    {n : Nat} {base : Shape} (container : base.kind ∈ [Kind.record, .list, .map, .dynamic])
    (declared : engine.schema.declared? root address = some (.optional n base)) :
    Resets engine root (engine.apply root directive) address n base value := by
  have hbase : base.isNullable = false ∧ UpdaterTable.standard.find? base.kind = none := by
    cases base with
    | record | list | map | dynamic => exact ⟨rfl, rfl⟩
    | _ => simp [Shape.kind] at container
  have held := Value.get?_of_locate? located
  have hne : address ≠ [] := by
    rintro rfl
    cases declared
  have hshape : node.shape = .optional n base := by
    rw [wf.declared?_eq_shape hne held] at declared
    exact Option.some.inj declared
  exact (apply_reset standard wf nonempty valid split located hshape hbase.1 hbase.2).resets held

/-- An empty item of a list, and a tag that names a shape with a nullable layer. -/
theorem resets_of_located_rig :
    Catalog.sampleRig.WellFormed Catalog.schema ∧
      ((Engine.new Catalog.schema .standard).withTag "part"
        (.nullable (.record "Slot"))).tags.Selects "!part" (.record "Slot")
        (.nullable (.record "Slot")) ∧
      Resets ((Engine.new Catalog.schema .standard).withTag "part" (.nullable (.record "Slot")))
        Catalog.sampleRig
        (((Engine.new Catalog.schema .standard).withTag "part" (.nullable (.record "Slot"))).apply
          Catalog.sampleRig ⟨"parts.1", "!part!d"⟩)
        [.field "parts", .index 1] 1 (.record "Slot") "!part" :=
  ⟨by decide, @TagTable.Selects.tagged _ _ _ "part" _ (by decide) (by decide),
    resets_of_located (by rfl) (by decide) (by rfl) (by rfl) (by rfl) (by rfl) (by decide)
      (by rfl)⟩

end ConfigGraph
