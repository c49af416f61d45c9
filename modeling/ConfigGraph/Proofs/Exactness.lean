/-
  ConfigGraph.Proofs.Exactness
  ────────────────────────────────
  **AN OVERWRITE OR A RESET CHANGES THE ADDRESSED SLOT.**

  On a well-formed graph, a directive that adds and removes nothing replaces
  one value or none.  The value is the one at the address that the path
  writes; everything that is neither above nor below it is what it was, and
  what is above keeps its names, its keys in their order and its length.

  What the slot shows a reader afterwards depends on the declared shape
  without its nullable layers, of which there may be any number: a text, a
  truth value or a number as the raw value says, a fault if the raw value is
  no literal, and nothing at all in a nullable text that is reset.

  Main results:
    * `exists_slot_of_selecting` — where such a directive is decided
    * `apply_selecting` — the two things that it can do
    * `overwrite_exact`
-/
import ConfigGraph.Proofs.Application
import ConfigGraph.Proofs.Traversal

namespace ConfigGraph

/-! ## §1. One slot, or nothing. -/

section

variable {engine : Engine} {root node : Value} {directive : Directive} {operation : Operation}
  {value : String} {address : Address}

/-- Writing to a slot of a well-formed graph is an update at the address of the slot, and the
slot shows the value that was written. -/
theorem write_eq_update {schema : Schema} {parent container new : Value} {step : Step}
    {slot slot' : Slot} (wf : root.WellFormed schema) (hparent : root.get? address = some parent)
    (present : parent.present? = some container) (binds : Slot.Binds container step slot)
    (writes : slot.write new = .ok slot') :
    ∃ stored, root.replaceAt address slot'.container
        = root.update (fun _ => stored) (address ++ [step]) ∧
      stored.shape = slot.declared ∧ stored.present? = new.present? := by
  -- The one place where well-formedness is used: an entry of a map stays where it is.
  have hwrite := binds.write_eq_replace ((wf.get? hparent).present present) new
  rw [writes] at hwrite
  cases haccepts : slot.declared.accepts new.shape with
  | false =>
      rw [Value.convert_of_not_accepts haccepts] at hwrite
      cases hwrite
  | true =>
      obtain ⟨stored, hconvert, hshape, hpresent⟩ := Value.convert_of_accepts haccepts
      rw [hconvert] at hwrite
      injection hwrite with hslot
      refine ⟨stored, ?_, hshape, hpresent⟩
      rw [hslot, binds.container_replace]
      exact Value.replaceAt_mapPart hparent present step stored

/-- **A DIRECTIVE THAT ADDS AND REMOVES NOTHING COMES TO THE SLOT OF ITS NODE**, and what
becomes of it is decided there. -/
theorem exists_slot_of_selecting (nonempty : directive.value.isEmpty = false)
    (valid : FieldPath.validate directive.path = .ok ())
    (split : engine.config.operators.split directive.value = (operation, value))
    (selecting : operation = .overwrite ∨ operation = .defaultValue)
    (located : root.locate? (FieldPath.parse directive.path) = some (address, node)) :
    ∃ above step parent container slot, address = above ++ [step] ∧
      root.get? above = some parent ∧ parent.present? = some container ∧
      Slot.Binds container step slot ∧ container.part? step = some node ∧
      engine.apply root directive
        = engine.settle operation value ⟨root, [], .ok (.slot above slot)⟩ := by
  obtain ⟨before, last, hsegments⟩ := exists_last_of_validate valid
  rw [hsegments] at located
  have lands := land_lands engine.schema root before last operation value
  rcases lands.of_selecting selecting with
    ⟨fault, stops, _⟩ | ⟨above, parent, container, part, step, slot, hlocate, present, leads,
      binds, hland⟩
  · rw [Value.locate?, stops.locateFrom?_eq_none] at located
    cases located
  · rw [Value.locate?_concat hlocate leads] at located
    injection located with located
    injection located with haddress hpart
    refine ⟨above, step, parent, container, slot, haddress.symm, Value.get?_of_locate? hlocate,
      present, binds, ?_, ?_⟩
    · rw [← hpart]
      exact Value.part?_of_step? present leads
    · rw [apply_eq_settle ⟨nonempty, valid, split, hsegments⟩ root, hland]

/-- **THE TWO THINGS THAT AN OVERWRITE OR A RESET CAN DO**: fail and leave the graph as it was,
or replace the value at the address of the path. -/
theorem apply_selecting (standard : engine.updaters = .standard)
    (wf : root.WellFormed engine.schema) (nonempty : directive.value.isEmpty = false)
    (valid : FieldPath.validate directive.path = .ok ())
    (split : engine.config.operators.split directive.value = (operation, value))
    (selecting : operation = .overwrite ∨ operation = .defaultValue)
    (located : root.locate? (FieldPath.parse directive.path) = some (address, node)) :
    ∃ slot, engine.schema.declared? root address = some slot.declared ∧
      ((∃ fault, Updates engine slot operation value (.error fault) ∧
          engine.apply root directive = (root, ⟨.error fault, []⟩)) ∨
        ∃ new stored note, Written engine slot operation value new ∧
          stored.shape = slot.declared ∧ stored.present? = new.present? ∧
          engine.apply root directive
            = (root.update (fun _ => stored) address, ⟨.ok .edited, [note]⟩)) := by
  obtain ⟨above, step, parent, container, slot, rfl, hparent, present, binds, _, happly⟩ :=
    exists_slot_of_selecting nonempty valid split selecting located
  have hdeclared : engine.schema.declared? root (above ++ [step]) = some slot.declared := by
    rw [Schema.declared?_concat hparent, present]
    exact binds.declared_eq ((wf.get? hparent).present present)
  refine ⟨slot, hdeclared, ?_⟩
  obtain ⟨done, ends, updates⟩ := updateSlot_updates standard binds operation value
  rw [happly, settle_of_ends ends]
  -- From here on only the effect of the update matters, and a set is never kept.
  rcases done with fault | done
  · exact .inl ⟨fault, updates, rfl⟩
  · cases updates with
    | @wrote new slot' message written writes =>
        obtain ⟨stored, hupdate, hshape, hpresent⟩ :=
          write_eq_update wf hparent present binds writes
        refine .inr ⟨new, stored, ⟨.edit, message⟩, written, hshape, hpresent, ?_⟩
        simp only [Value.afterEffect, hupdate, List.nil_append]
    | kept _ idle =>
        rcases idle with ⟨h, _⟩ | ⟨h, _⟩ <;> rw [h] at selecting <;>
          rcases selecting with h | h <;> cases h

end

/-! ## §2. Leaves. -/

section

variable {engine : Engine} {slot : Slot} {operation : Operation} {value : String}

theorem find?_ne_none_of_isLeaf {shape : Shape} (leaf : shape.isLeaf = true) :
    UpdaterTable.standard.find? shape.kind ≠ none := by
  cases shape with
  | vector dim => cases dim <;> exact nofun
  | text | bool | int | float => exact nofun
  | _ => cases leaf

theorem Value.present?_of_isLeaf {value : Value} (leaf : value.shape.isLeaf = true) :
    value.present? = some value := by
  cases value <;> first | rfl | cases leaf

/-- The update of a leaf fails only on a literal that cannot be read. -/
theorem Updates.of_leaf {fault : Fault} (h : Updates engine slot operation value (.error fault))
    (leaf : slot.declared.resolved.isLeaf = true) :
    operation ≠ .defaultValue ∧ ∃ issue,
      Literal.read slot.declared.resolved value = .error issue ∧
      fault = .unreadable value slot.declared.resolved issue := by
  cases h with
  | unreadable _ setting reads => exact ⟨setting, _, reads, rfl⟩
  | membersOnly set _ =>
      rw [set] at leaf
      cases leaf
  | noLiterals bare _ | unknownTag bare _ _ _ | noDefault bare _ _ _ | mismatch bare _ _ _ _ =>
      exact absurd bare (find?_ne_none_of_isLeaf leaf)

/-- The update of a leaf writes a literal, the default of the leaf, or nothing into a nullable
text. -/
theorem Written.of_leaf {new : Value} (h : Written engine slot operation value new)
    (leaf : slot.declared.resolved.isLeaf = true) :
    (operation ≠ .defaultValue ∧ Literal.read slot.declared.resolved value = .ok new) ∨
      (operation = .defaultValue ∧
        ((slot.declared.resolved = .text ∧ slot.declared.isNullable = true ∧
            new = .vacant .text) ∨
          ((slot.declared.resolved = .text → slot.declared.isNullable = false) ∧
            engine.schema.instantiate slot.declared.resolved = some new))) := by
  cases h with
  | read _ setting reads => exact .inl ⟨setting, reads⟩
  | emptied text nullable resetting => exact .inr ⟨resetting, .inl ⟨text, nullable, rfl⟩⟩
  | zeroed _ filled resetting fresh => exact .inr ⟨resetting, .inr ⟨filled, fresh⟩⟩
  | inserted set _ _ | erased set _ _ =>
      rw [set] at leaf
      cases leaf
  | instance' bare _ _ _ => exact absurd bare (find?_ne_none_of_isLeaf leaf)

/-- What a text shows after it has been written. -/
theorem Written.present?_text {new : Value} {n : Nat} (h : Written engine slot operation value new)
    (declared : slot.declared = .optional n .text)
    (selecting : operation = .overwrite ∨ operation = .defaultValue) :
    new.present? = if operation = .overwrite then some (.text value)
      else if n = 0 then some (.text "") else none := by
  have resolved : slot.declared.resolved = .text := by
    rw [declared]
    exact Shape.resolved_optional rfl n
  have hnullable : slot.declared.isNullable = true ↔ 0 < n := by
    rw [declared]
    exact Shape.isNullable_optional rfl n
  have hleaf := h.of_leaf (by rw [resolved]; rfl)
  rw [resolved] at hleaf
  rcases hleaf with ⟨hop, hread⟩ | ⟨hop, ⟨_, hn, hnew⟩ | ⟨hfilled, hfresh⟩⟩
  · injection hread with hnew
    rw [if_pos (selecting.resolve_right hop), ← hnew]
    rfl
  · have hn0 : n ≠ 0 := Nat.pos_iff_ne_zero.mp (hnullable.mp hn)
    rw [hop, if_neg nofun, if_neg hn0, hnew]
    rfl
  · have hn0 : n = 0 := by
      have hfalse := hfilled rfl
      rw [Bool.eq_false_iff, ne_eq, hnullable] at hfalse
      omega
    injection hfresh with hnew
    rw [hop, if_neg nofun, if_pos hn0, ← hnew]
    rfl

/-- Apart from texts, a reset writes the default instance of the leaf, whether the slot may be
empty or not. -/
theorem Written.of_number {new : Value} (h : Written engine slot operation value new)
    (leaf : slot.declared.resolved.isLeaf = true) (hno : slot.declared.resolved ≠ .text) :
    (operation ≠ .defaultValue ∧ Literal.read slot.declared.resolved value = .ok new) ∨
      (operation = .defaultValue ∧
        engine.schema.instantiate slot.declared.resolved = some new) := by
  rcases h.of_leaf leaf with hread | ⟨hop, ⟨htext, _⟩ | ⟨_, hfresh⟩⟩
  · exact .inl hread
  · exact absurd htext hno
  · exact .inr ⟨hop, hfresh⟩

/-- A leaf has no layers, so what was written is what is seen. -/
theorem Written.present?_number {new : Value} (h : Written engine slot operation value new)
    (leaf : slot.declared.resolved.isLeaf = true) (hno : slot.declared.resolved ≠ .text) :
    new.present? = some new := by
  have hnew : new.shape = slot.declared.resolved := by
    rcases h.of_number leaf hno with ⟨_, hread⟩ | ⟨_, hfresh⟩
    · exact Literal.shape_of_read hread
    · exact Schema.shape_of_instantiate hfresh
  exact Value.present?_of_isLeaf (by rw [hnew, leaf])

/-- Sets are written by insertions and removals. -/
theorem Written.ne_textSet {new : Value} (h : Written engine slot operation value new)
    (selecting : operation = .overwrite ∨ operation = .defaultValue) :
    slot.declared.resolved ≠ .textSet := by
  intro set
  cases h with
  | read leaf _ _ | zeroed leaf _ _ _ =>
      rw [set] at leaf
      cases leaf
  | emptied text _ _ =>
      rw [set] at text
      cases text
  | inserted _ hop _ | erased _ hop _ =>
      rw [hop] at selecting
      rcases selecting with h | h <;> cases h
  | instance' bare _ _ _ =>
      rw [set] at bare
      cases bare

/-- A shape without an update is written by resets, and the value is a default instance. -/
theorem Written.of_bare {new : Value} (h : Written engine slot operation value new)
    (bare : UpdaterTable.standard.find? slot.declared.resolved.kind = none) :
    operation = .defaultValue ∧ ∃ tagged, engine.tags.Resolves value tagged ∧
      engine.schema.instantiate (tagged.getD slot.declared.resolved) = some new := by
  cases h with
  | read leaf _ _ | zeroed leaf _ _ _ => exact absurd bare (find?_ne_none_of_isLeaf leaf)
  | emptied text _ _ =>
      rw [text] at bare
      cases bare
  | inserted set _ _ | erased set _ _ =>
      rw [set] at bare
      cases bare
  | instance' _ resetting tags fresh => exact ⟨resetting, _, tags, fresh⟩

end

/-! ## §3. The statement. -/

/-- The value that a reader sees at an address. -/
def Value.seen? (root : Value) (address : Address) : Option Value :=
  (root.get? address).bind present?

/-- The directive edited the graph, and this is what a reader sees at the address. -/
def Shows (after : Value) (outcome : Outcome) (address : Address) (seen : Option Value) : Prop :=
  outcome.result = .ok .edited ∧ after.seen? address = seen

/-- The directive failed with this fault and left the graph as it was. -/
def Fails (root after : Value) (outcome : Outcome) (fault : Fault) : Prop :=
  outcome.result = .error fault ∧ after = root

/-- A slot of numbers shows the number that the literal writes, and zero after a reset; if the
literal cannot be read, the directive fails. -/
structure ShowsNumber (root after : Value) (outcome : Outcome) (address : Address) (base : Shape)
    (operation : Operation) (value : String) (zero : Value) : Prop where
  /-- A reset writes zero. -/
  reset : operation = .defaultValue → Shows after outcome address (some zero)
  /-- A literal is written as it is read. -/
  read : ∀ new, operation = .overwrite → Literal.read base value = .ok new →
    Shows after outcome address (some new)
  /-- Any other text is a fault. -/
  unread : ∀ issue, operation = .overwrite → Literal.read base value = .error issue →
    Fails root after outcome (.unreadable value base issue)

/-- What an overwrite or a reset does to a slot that was declared as `n` nullable layers around
`base`. -/
structure Exact (engine : Engine) (root after : Value) (outcome : Outcome) (address : Address)
    (n : Nat) (base : Shape) (operation : Operation) (value : String) : Prop where
  /-- An edit replaces the value in the slot by one of the declared shape, and nothing else. -/
  edited : outcome.result = .ok .edited → ∃ stored,
    Value.ReplacedAt root after address stored ∧ stored.shape = .optional n base
  /-- Without an edit, nothing changes. -/
  otherwise : outcome.result ≠ .ok .edited → after = root
  /-- A text is written as it is; a reset empties it, or the slot if it may be empty. -/
  text : base = .text → Shows after outcome address
    (if operation = .overwrite then some (.text value)
      else if n = 0 then some (.text "") else none)
  /-- A truth value is true if it is overwritten with `true` in any mixture of cases. -/
  bool : base = .bool → Shows after outcome address
    (some (.bool (operation = .overwrite && value.toList.map Char.toLower = "true".toList)))
  /-- An integer. -/
  int : base = .int → ShowsNumber root after outcome address .int operation value (.int 0)
  /-- A floating-point number. -/
  float : base = .float →
    ShowsNumber root after outcome address .float operation value (.float .zero)
  /-- A vector. -/
  vector : ∀ dim, base = .vector dim → ShowsNumber root after outcome address (.vector dim)
    operation value (.vector dim (List.replicate dim.size .zero))
  /-- A set is neither overwritten nor reset. -/
  textSet : base = .textSet →
    Fails root after outcome (.unsupported operation .textSet .membersOnly)
  /-- Anything else is not overwritten; a reset shows the default instance of its shape, or of
  the shape that the value refers to by a tag. -/
  bare : UpdaterTable.standard.find? base.kind = none →
    (operation = .overwrite → Fails root after outcome (.unsupported .overwrite base
      (.noLiterals (engine.config.operators.token .defaultValue)))) ∧
    (outcome.result = .ok .edited → ∃ tagged new, engine.tags.Resolves value tagged ∧
      engine.schema.instantiate (tagged.getD base) = some new ∧
      after.seen? address = new.present?)

/-! ## §4. Both things are exact. -/

section

variable {engine : Engine} {root after stored new : Value} {slot : Slot} {operation : Operation}
  {value : String} {address : Address} {n : Nat} {base : Shape} {fault : Fault} {note : Note}

theorem ShowsNumber.of_error (zero : Value) (hread : operation ≠ .defaultValue ∧ ∃ issue,
    Literal.read base value = .error issue ∧ fault = .unreadable value base issue) :
    ShowsNumber root root ⟨.error fault, []⟩ address base operation value zero := by
  obtain ⟨hop, issue, hissue, hfault⟩ := hread
  refine ⟨fun h => absurd h hop, fun new _ h => ?_, fun issue' _ h => ?_⟩
  · rw [hissue] at h
    cases h
  · rw [hissue] at h
    injection h with h
    rw [hfault, h]
    exact ⟨rfl, rfl⟩

theorem ShowsNumber.of_written {zero : Value} (hseen : after.seen? address = some new)
    (hnew : (operation ≠ .defaultValue ∧ Literal.read base value = .ok new) ∨
      (operation = .defaultValue ∧ new = zero)) :
    ShowsNumber root after ⟨.ok .edited, [note]⟩ address base operation value zero := by
  rcases hnew with ⟨hop, hread⟩ | ⟨hop, hzero⟩
  · refine ⟨fun h => absurd h hop, fun new' _ h => ?_, fun issue _ h => ?_⟩
    · rw [hread] at h
      injection h with h
      rw [← h]
      exact ⟨rfl, hseen⟩
    · rw [hread] at h
      cases h
  · refine ⟨fun _ => ⟨rfl, by rw [hseen, hzero]⟩, fun _ h _ => ?_, fun _ h _ => ?_⟩ <;>
      rw [hop] at h <;> cases h

theorem Exact.of_error (resolved : slot.declared.resolved = base)
    (updates : Updates engine slot operation value (.error fault)) :
    Exact engine root root ⟨.error fault, []⟩ address n base operation value := by
  have hleaf (h : base.isLeaf = true) : operation ≠ .defaultValue ∧ ∃ issue,
      Literal.read base value = .error issue ∧ fault = .unreadable value base issue := by
    rw [← resolved] at h ⊢
    exact updates.of_leaf h
  refine ⟨nofun, fun _ => rfl, ?_, ?_, ?_, ?_, ?_, ?_, ?_⟩
  · rintro rfl
    obtain ⟨_, _, hread, _⟩ := hleaf rfl
    cases hread
  · rintro rfl
    obtain ⟨_, _, hread, _⟩ := hleaf rfl
    cases hread
  · rintro rfl
    exact .of_error _ (hleaf rfl)
  · rintro rfl
    exact .of_error _ (hleaf rfl)
  · rintro dim rfl
    exact .of_error _ (hleaf rfl)
  · rintro rfl
    cases updates with
    | membersOnly _ _ => exact ⟨by rw [resolved], rfl⟩
    | unreadable leaf _ _ =>
        rw [resolved] at leaf
        cases leaf
    | noLiterals bare _ | unknownTag bare _ _ _ | noDefault bare _ _ _ | mismatch bare _ _ _ _ =>
        rw [resolved] at bare
        cases bare
  · intro bare
    refine ⟨fun hop => ?_, nofun⟩
    cases updates with
    | noLiterals _ _ => exact ⟨by rw [hop, resolved], rfl⟩
    | unreadable leaf _ _ =>
        rw [resolved] at leaf
        exact absurd bare (find?_ne_none_of_isLeaf leaf)
    | membersOnly set _ =>
        rw [← resolved, set] at bare
        cases bare
    | unknownTag _ resetting _ _ | noDefault _ resetting _ _ | mismatch _ resetting _ _ _ =>
        rw [hop] at resetting
        cases resetting

theorem Exact.of_written (declared : slot.declared = .optional n base)
    (plain : base.isNullable = false)
    (selecting : operation = .overwrite ∨ operation = .defaultValue)
    (written : Written engine slot operation value new)
    (replaced : Value.ReplacedAt root after address stored) (hshape : stored.shape = slot.declared)
    (hpresent : stored.present? = new.present?) :
    Exact engine root after ⟨.ok .edited, [note]⟩ address n base operation value := by
  have resolved : slot.declared.resolved = base := by
    rw [declared, Shape.resolved_optional plain]
  have hseen : after.seen? address = new.present? := by
    rw [Value.seen?, replaced.reachable.2]
    exact hpresent
  -- Integers, floating-point numbers and vectors differ in their zero only.
  have hnumber {zero : Value} (leaf : base.isLeaf = true) (hno : base ≠ .text)
      (hzero : engine.schema.instantiate base = some zero) :
      ShowsNumber root after ⟨.ok .edited, [note]⟩ address base operation value zero := by
    subst resolved
    refine .of_written (hseen.trans (written.present?_number leaf hno)) ?_
    refine (written.of_number leaf hno).imp_right (.imp_right fun hfresh => ?_)
    rw [hzero] at hfresh
    exact (Option.some.inj hfresh).symm
  refine ⟨fun _ => ⟨stored, replaced, hshape.trans declared⟩, fun h => absurd rfl h,
    ?_, ?_, ?_, ?_, ?_, ?_, ?_⟩
  · rintro rfl
    exact ⟨rfl, hseen.trans (written.present?_text declared selecting)⟩
  · rintro rfl
    refine ⟨rfl, ?_⟩
    have hbool := written.of_number (by rw [resolved]; rfl) (by rw [resolved]; exact nofun)
    rw [resolved] at hbool
    rw [hseen]
    rcases hbool with ⟨hop, hread⟩ | ⟨hop, hfresh⟩
    · injection hread with hnew
      rw [← hnew, decide_eq_true (selecting.resolve_right hop), Bool.true_and]
      rfl
    · injection hfresh with hnew
      rw [← hnew, hop]
      rfl
  · rintro rfl
    exact hnumber rfl nofun rfl
  · rintro rfl
    exact hnumber rfl nofun rfl
  · rintro dim rfl
    exact hnumber rfl nofun rfl
  · rintro rfl
    exact absurd resolved (written.ne_textSet selecting)
  · intro bare
    rw [← resolved] at bare
    obtain ⟨hop, tagged, tags, fresh⟩ := written.of_bare bare
    rw [resolved] at fresh
    refine ⟨fun hover => ?_, fun _ => ⟨tagged, new, tags, fresh, hseen⟩⟩
    rw [hop] at hover
    cases hover

end

/-! ## §5. Every overwrite and every reset is exact. -/

/-- **AN OVERWRITE OR A RESET CHANGES EXACTLY THE ADDRESSED SLOT**, and the slot then shows what
its declared shape makes of the raw value. -/
theorem overwrite_exact {engine : Engine} (standard : engine.updaters = .standard)
    {root node : Value} (wf : root.WellFormed engine.schema) {directive : Directive}
    (nonempty : directive.value.isEmpty = false)
    (valid : FieldPath.validate directive.path = .ok ()) {operation : Operation} {value : String}
    (split : engine.config.operators.split directive.value = (operation, value))
    (selecting : operation = .overwrite ∨ operation = .defaultValue) {address : Address}
    (located : root.locate? (FieldPath.parse directive.path) = some (address, node))
    {n : Nat} {base : Shape} (plain : base.isNullable = false)
    (declared : engine.schema.declared? root address = some (.optional n base)) :
    Exact engine root (engine.apply root directive).1 (engine.apply root directive).2 address n
      base operation value := by
  obtain ⟨slot, hdeclared, hresult⟩ :=
    apply_selecting standard wf nonempty valid split selecting located
  have hslot : slot.declared = .optional n base := by
    rw [declared] at hdeclared
    exact (Option.some.inj hdeclared).symm
  rcases hresult with
    ⟨fault, updates, happly⟩ | ⟨new, stored, note, written, hshape, hpresent, happly⟩
  · rw [happly]
    refine .of_error ?_ updates
    rw [hslot, Shape.resolved_optional plain]
  · rw [happly]
    have replaced := Value.replacedAt_update (Value.get?_of_locate? located) fun _ => stored
    exact .of_written hslot plain selecting written replaced hshape hpresent

/-- A nullable text of a list, at an index that is written with a sign, is reset. -/
theorem overwrite_exact_rig :
    Catalog.sampleRig.WellFormed (Engine.new Catalog.schema .standard).schema ∧
      Exact (Engine.new Catalog.schema .standard) Catalog.sampleRig
        ((Engine.new Catalog.schema .standard).apply Catalog.sampleRig ⟨"opt_names.+0", "!d"⟩).1
        ((Engine.new Catalog.schema .standard).apply Catalog.sampleRig ⟨"opt_names.+0", "!d"⟩).2
        [.field "opt_names", .index 0] 1 .text .defaultValue "" :=
  ⟨by decide, overwrite_exact rfl (by decide) rfl rfl rfl (.inr rfl) (by rfl) rfl (by rfl)⟩

end ConfigGraph
