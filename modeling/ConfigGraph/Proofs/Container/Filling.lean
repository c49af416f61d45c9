/-
  ConfigGraph.Proofs.Container.Filling
  ────────────────────────────────
  **INSERTING A VALUE IS INSERTING AND THEN OVERWRITING.**

  An insertion with a value makes room with a default instance and updates
  the new slot in the same run.  A bare insertion followed by an overwrite
  at the place that it made does the same in two runs: the two meet at the
  slot, and from there on they differ in the operation only.

  At the slot, both ask the updater of its kind, and what they come to is what
  it answers.  The updates of texts, truth values, numbers and vectors make no
  difference between the two operations, also where they fail to read the
  value, and neither does an updater of a host that is impartial.  Where the
  kind has no updater, or the one of sets, both runs fail at the slot and leave
  the default instance in it, but the fault names the operation.  Of a host's
  updater that looks at the operation, nothing can be said.

  Main results:
    * `updateSlot_impartial` — the two operations at one slot
    * `fills_of_settle` — both ways meet there
    * `insert_fills`
    * `insert_fault_names_operation`
-/
import ConfigGraph.Proofs.Container.Growth
import ConfigGraph.Proofs.Operator

namespace ConfigGraph

/-! ## §1. Two operations at one slot. -/

section

variable {engine : Engine} {container : Value} {step : Step} {slot : Slot} {value : String}

/-- Where the kind has an impartial updater, inserting behind notes is overwriting behind them. -/
theorem updateSlot_impartial {updater : Updater} (impartial : updater.Impartial)
    (hfind : engine.updaters.find? slot.declared.resolved.kind = some updater)
    (notes : List Note) :
    engine.updateSlot slot .insert value notes
      = (engine.updateSlot slot .overwrite value []).behind notes := by
  simp only [Engine.updateSlot, hfind]
  exact impartial value slot engine.config.operators notes

/-- Where the kind has no updater, only default requests are met. -/
theorem fillSlot_bare {operation : Operation} (hop : operation ≠ .defaultValue) :
    engine.fillSlot slot operation value = .error (.unsupported operation slot.declared.resolved
      (.noLiterals (engine.config.operators.token .defaultValue))) := by
  simp only [Engine.fillSlot, if_pos hop]

/-- A leaf that is no set takes no set, with however many layers around it. -/
theorem Shape.not_accepts_textSet {shape : Shape} (leaf : shape.resolved.isLeaf = true) :
    shape.accepts .textSet = false := by
  induction shape with
  | nullable inner ih =>
      rw [accepts, ih leaf]
      rfl
  | dynamic | textSet => cases leaf
  | _ => rfl

/-- The update of sets fails at a leaf when it writes a set. -/
theorem run_textSet_misfit (binds : Slot.Binds container step slot)
    (leaf : slot.declared.resolved.isLeaf = true) (empty : slot.members = [])
    (tokens : OperatorTokens) :
    LeafUpdate.textSet.run ⟨value, .insert, slot, tokens⟩
      = .error (.write (.typeMismatch slot.declared.resolved .textSet)) := by
  have hwrite : slot.write (.textSet (Ordered.insertMember value []))
      = .error (.typeMismatch slot.declared.resolved .textSet) :=
    binds.write_of_not_accepts (Shape.not_accepts_textSet leaf)
  have hmembers : UpdateRequest.members ⟨value, .insert, slot, tokens⟩ = [] := empty
  simp only [LeafUpdate.run, UpdateRequest.updateTextSet, hmembers, List.not_mem_nil, if_false,
    UpdateRequest.write, hwrite]

/-- With the updaters that an engine starts with, a leaf is written or the value is no literal. -/
theorem ends_of_standard_leaf (standard : engine.updaters = .standard)
    (binds : Slot.Binds container step slot) (leaf : slot.declared.resolved.isLeaf = true)
    (operation : Operation) :
    ∃ done, engine.Ends slot operation value done ∧
      ((∃ slot' message, done = .ok (.wrote slot' message)) ∨
        ∃ issue, Literal.read slot.declared.resolved value = .error issue ∧
          done = .error (.unreadable value slot.declared.resolved issue)) := by
  obtain ⟨done, ends, updates⟩ := updateSlot_updates standard binds operation value
  refine ⟨done, ends, ?_⟩
  rcases done with fault | done
  · obtain ⟨_, issue, reads, rfl⟩ := updates.of_leaf leaf
    exact .inr ⟨issue, reads, rfl⟩
  · cases updates with
    | wrote _ _ => exact .inl ⟨_, _, rfl⟩
    | kept set _ =>
        rw [set] at leaf
        cases leaf

/-! ## §2. Two ways to the slot. -/

/-- One directive has left what two in a row leave, the graph and the notes. -/
structure Alike (once first second : Value × Outcome) : Prop where
  /-- Both ways end with the same graph, also where they fail. -/
  root : once.1 = second.1
  /-- They report the same. -/
  notes : once.2.notes = first.2.notes ++ second.2.notes

/-- The path leads to the slot, which is one of what is at the address. -/
def Slot.At (root : Value) (path : String) (parent : Address) (slot : Slot) : Prop :=
  ∃ node container step part, root.get? parent = some node ∧ node.present? = some container ∧
    Slot.Binds container step slot ∧
    root.locate? (FieldPath.parse path) = some (parent ++ [step], part)

/-- A directive that inserts a value, and the two that insert and overwrite, the second of them at
the path. -/
structure Fills (engine : Engine) (base : Shape) (path value : String) (once first second :
    Value × Outcome) : Prop where
  /-- The bare insertion succeeds. -/
  added : first.2.result = .ok .edited
  /-- Both ways ask the updater of the kind about the slot at the path, and end with what it
  answers: as to an insertion behind the notes of the bare one, and as to an overwrite. -/
  asks : ∀ updater, engine.updaters.find? base.kind = some updater →
    ∃ slot parent, Slot.At first.1 path parent slot ∧ slot.declared.resolved = base ∧
      once = first.1.afterUpdate parent
        (updater.run ⟨⟨value, .insert, slot, engine.config.operators⟩, first.2.notes⟩) ∧
      second = first.1.afterUpdate parent
        (updater.run ⟨⟨value, .overwrite, slot, engine.config.operators⟩, []⟩)
  /-- If the updater is impartial, both ways are one. -/
  impartial : ∀ updater, engine.updaters.find? base.kind = some updater → updater.Impartial →
    Alike once first second ∧ once.2.result = second.2.result
  /-- With the updaters that an engine starts with, both ways are one, and they end with an edit or
  with the fault of a value that is no literal. -/
  standard : engine.updaters = .standard →
    Alike once first second ∧ once.2.result = second.2.result ∧
      (second.2.result = .ok .edited ∨ ∃ issue, Literal.read base value = .error issue ∧
        second.2.result = .error (.unreadable value base issue))
  /-- If the kind has no updater, the faults differ in the operation. -/
  bare : engine.updaters.find? base.kind = none → Alike once first second ∧
    once.2.result = .error (.unsupported .insert base
      (.noLiterals (engine.config.operators.token .defaultValue))) ∧
    second.2.result = .error (.unsupported .overwrite base
      (.noLiterals (engine.config.operators.token .defaultValue)))
  /-- If it has the update of sets, the insertion fails when it writes the set and the overwrite
  before that. -/
  textSet : engine.updaters.find? base.kind = some LeafUpdate.textSet.updater →
    Alike once first second ∧
      once.2.result = .error (.write (.typeMismatch base .textSet)) ∧
      second.2.result = .error (.unsupported .overwrite base .membersOnly)

variable {root : Value} {parent : Address} {notes : List Note}

/-- **BOTH WAYS MEET AT THE SLOT** of a leaf, if it holds no members. -/
theorem fills_of_settle {base : Shape} {path : String} (there : Slot.At root path parent slot)
    (declared : slot.declared.resolved = base) (leaf : base.isLeaf = true)
    (empty : slot.members = []) :
    Fills engine base path value
      (engine.settle .insert value ⟨root, notes, .ok (.slot parent slot)⟩)
      (root, ⟨.ok .edited, notes⟩)
      (engine.settle .overwrite value ⟨root, [], .ok (.slot parent slot)⟩) := by
  subst declared
  have ⟨_, _, _, _, _, _, binds, _⟩ := there
  have himpartial : ∀ updater, engine.updaters.find? slot.declared.resolved.kind = some updater →
      updater.Impartial →
      Alike (engine.settle .insert value ⟨root, notes, .ok (.slot parent slot)⟩)
          (root, ⟨.ok .edited, notes⟩)
          (engine.settle .overwrite value ⟨root, [], .ok (.slot parent slot)⟩) ∧
        (engine.settle .insert value ⟨root, notes, .ok (.slot parent slot)⟩).2.result
          = (engine.settle .overwrite value ⟨root, [], .ok (.slot parent slot)⟩).2.result := by
    intro updater hfind impartial
    unfold Engine.settle
    simp only []
    rw [updateSlot_impartial impartial hfind notes]
    exact ⟨⟨rfl, rfl⟩, rfl⟩
  constructor
  case added => rfl
  case asks =>
    intro updater hfind
    refine ⟨slot, parent, there, rfl, ?_, ?_⟩
    · simp only [Engine.settle, Engine.updateSlot, hfind]
    · simp only [Engine.settle, Engine.updateSlot, hfind]
  case impartial => exact himpartial
  case standard =>
    intro standard
    obtain ⟨update, hupdate, scalar⟩ := UpdaterTable.leaf?_of_isLeaf leaf
    have hfind : engine.updaters.find? slot.declared.resolved.kind = some update.updater := by
      rw [standard, UpdaterTable.find?_standard, hupdate]
      rfl
    obtain ⟨alike, hresult⟩ := himpartial update.updater hfind (LeafUpdate.impartial scalar)
    obtain ⟨done, ends, hdone⟩ := ends_of_standard_leaf standard binds leaf .overwrite
    refine ⟨alike, hresult, ?_⟩
    rw [settle_of_ends ends]
    rcases hdone with ⟨slot', message, rfl⟩ | ⟨issue, reads, rfl⟩
    · exact .inl rfl
    · exact .inr ⟨issue, reads, rfl⟩
  case bare =>
    intro hfind
    rw [settle_of_ends (ends_of_bare hfind), settle_of_ends (ends_of_bare hfind),
      fillSlot_bare (by decide), fillSlot_bare (by decide)]
    exact ⟨⟨rfl, (List.append_nil notes).symm⟩, rfl, rfl⟩
  case textSet =>
    intro hfind
    rw [settle_of_ends (ends_of_leaf hfind), settle_of_ends (ends_of_leaf hfind),
      run_textSet_misfit binds leaf empty]
    exact ⟨⟨rfl, (List.append_nil notes).symm⟩, rfl, rfl⟩

end

/-! ## §3. The statement. -/

section

variable {engine : Engine} {root node container fresh : Value} {path segment value : String}
  {address : Address} {growth : Growth} {base : Shape} {n : Nat}

/-- The default instance of a leaf has no members. -/
theorem Grows.members_eq_nil (grows : Grows segment container growth)
    (shape : growth.shape.resolved = base) (leaf : base.isLeaf = true)
    (instantiates : engine.schema.instantiate growth.shape = some fresh) :
    (growth.slot fresh).members = [] := by
  have hpresent := Schema.present?_of_instantiate instantiates
  rw [shape] at hpresent
  rw [Slot.members, (grows.binds fresh).target?_eq, grows.part? fresh, Option.bind_some, hpresent]
  cases base with
  | text | bool | int | float | vector => rfl
  | _ => cases leaf

/-- **INSERTING A VALUE IS INSERTING AND THEN OVERWRITING**: into a list at the index, or behind
the last item, and into a map at a new key. -/
theorem insert_fills (apart : engine.config.operators.Apart)
    (unmarked : engine.config.operators.Plain value)
    (valid : FieldPath.validate (FieldPath.extend path segment) = .ok ())
    (plain : FieldPath.Plain segment)
    (located : root.locate? (FieldPath.parse path) = some (address, node))
    (present : node.present? = some container) (grows : Grows segment container growth)
    (shape : growth.shape = .optional n base) (leaf : base.isLeaf = true) :
    Fills engine base (FieldPath.extend path growth.again) value
      (engine.apply root
        ⟨FieldPath.extend path segment, value ++ engine.config.operators.insert⟩)
      (engine.apply root ⟨FieldPath.extend path segment, engine.config.operators.insert⟩)
      (engine.apply
        (engine.apply root ⟨FieldPath.extend path segment, engine.config.operators.insert⟩).1
        ⟨FieldPath.extend path growth.again, value⟩) := by
  have leads : Leads root path segment address node container := ⟨valid, plain, located, present⟩
  have hresolved : growth.shape.resolved = base := by
    rw [shape]
    refine Shape.resolved_optional ?_ n
    cases base <;> first | rfl | cases leaf
  have hdynamic : growth.shape ≠ .dynamic := by
    intro h
    rw [h] at hresolved
    rw [← hresolved] at leaf
    cases leaf
  obtain ⟨fresh, instantiates⟩ : ∃ fresh, engine.schema.instantiate growth.shape = some fresh :=
    Schema.exists_instantiate hdynamic
  -- Both insertions put the default instance into the place.
  obtain ⟨message, hinsert⟩ := grows.apply_insert leads instantiates
  have wants : Wants engine (value ++ engine.config.operators.insert) .insert value :=
    ⟨unmarked.append_nonempty _, OperatorTokens.split_insert _ unmarked.unblank⟩
  have wantsBare : Wants engine engine.config.operators.insert .insert "" :=
    ⟨apart.insert_nonempty, OperatorTokens.split_bare _⟩
  rw [hinsert _ value wants, if_neg (Bool.eq_false_iff.mp unmarked.not_blank),
    hinsert _ "" wantsBare, if_pos (by rfl)]
  -- From there, the overwrite selects the slot that the first insertion has gone on to.
  have wantsValue : Wants engine value .overwrite value := ⟨unmarked.nonempty, unmarked.split_eq⟩
  obtain ⟨node', leads'⟩ := grows.leads_again leads fresh
  have hland : Landing.of (root.replaceAt address (growth.slot fresh).container) address node'
      (finalStep engine.schema node' (FieldPath.parse path).length growth.again .overwrite value)
      = ⟨root.replaceAt address (growth.slot fresh).container, [],
          .ok (.slot address (growth.slot fresh))⟩ := by
    rw [grows.finalStep_select leads'.present leads'.depth_ne_zero]
    simp only [Landing.of, (grows.binds fresh).resolve leads'.present, Except.map]
  have there : Slot.At (root.replaceAt address (growth.slot fresh).container)
      (FieldPath.extend path growth.again) address (growth.slot fresh) := by
    refine ⟨node', _, growth.step, fresh, Value.get?_of_locate? leads'.located, leads'.present,
      grows.binds fresh, ?_⟩
    rw [FieldPath.parse_of_validate_extend leads'.valid leads'.plain]
    exact Value.locate?_concat leads'.located
      (grows.step?_again leads'.present leads'.depth_ne_zero)
  rw [leads'.apply_eq wantsValue, hland]
  exact fills_of_settle there (by rw [grows.declared, hresolved]) leaf
    (grows.members_eq_nil hresolved leaf instantiates)

end

/-- Into an empty list of integers, a text that is none comes neither way: both leave a zero, and
have the same fault. A number comes both ways. -/
theorem insert_fills_rig :
    OperatorTokens.standard.Apart ∧ OperatorTokens.standard.Plain "x 9" ∧
      OperatorTokens.standard.Plain "9" ∧
      FieldPath.validate (FieldPath.extend "matrix.1" "4") = .ok () ∧ FieldPath.Plain "4" ∧
      Grows "4" (.list .int []) (.item .int [] 0) ∧
      Fills (.new Catalog.schema .standard) .int (FieldPath.extend "matrix.1" "0") "x 9"
        ((Engine.new Catalog.schema .standard).apply Catalog.sampleRig
          ⟨FieldPath.extend "matrix.1" "4", "x 9" ++ "!+"⟩)
        ((Engine.new Catalog.schema .standard).apply Catalog.sampleRig
          ⟨FieldPath.extend "matrix.1" "4", "!+"⟩)
        ((Engine.new Catalog.schema .standard).apply
          ((Engine.new Catalog.schema .standard).apply Catalog.sampleRig
            ⟨FieldPath.extend "matrix.1" "4", "!+"⟩).1
          ⟨FieldPath.extend "matrix.1" "0", "x 9"⟩) ∧
      Alike
        ((Engine.new Catalog.schema .standard).apply Catalog.sampleRig
          ⟨FieldPath.extend "matrix.1" "4", "9" ++ "!+"⟩)
        ((Engine.new Catalog.schema .standard).apply Catalog.sampleRig
          ⟨FieldPath.extend "matrix.1" "4", "!+"⟩)
        ((Engine.new Catalog.schema .standard).apply
          ((Engine.new Catalog.schema .standard).apply Catalog.sampleRig
            ⟨FieldPath.extend "matrix.1" "4", "!+"⟩).1
          ⟨FieldPath.extend "matrix.1" "0", "9"⟩) ∧
      ((Engine.new Catalog.schema .standard).apply Catalog.sampleRig
        ⟨FieldPath.extend "matrix.1" "4", "9" ++ "!+"⟩).2.result = .ok .edited := by
  have apart : OperatorTokens.standard.Apart := by decide
  have misread : OperatorTokens.standard.Plain "x 9" := by decide
  have unmarked : OperatorTokens.standard.Plain "9" := by decide
  have grows : Grows "4" (.list .int []) (.item .int [] 0) := .item (i := 4) (by rfl)
  have again : (Growth.item .int [] 0).again = "0" := by decide
  have fills : Fills (.new Catalog.schema .standard) .int _ "x 9"
      ((Engine.new Catalog.schema .standard).apply Catalog.sampleRig
        ⟨FieldPath.extend "matrix.1" "4", _⟩) _ _ :=
    insert_fills apart misread (by decide) (by decide) (by rfl) (by rfl) grows (n := 0) rfl rfl
  have fills' : Fills (.new Catalog.schema .standard) .int _ "9"
      ((Engine.new Catalog.schema .standard).apply Catalog.sampleRig
        ⟨FieldPath.extend "matrix.1" "4", _⟩) _ _ :=
    insert_fills apart unmarked (by decide) (by decide) (by rfl) (by rfl) grows (n := 0) rfl rfl
  rw [again] at fills fills'
  obtain ⟨alike, hresult, hend⟩ := fills'.standard rfl
  refine ⟨apart, misread, unmarked, by decide, by decide, grows, fills, alike, ?_⟩
  rcases hend with hedited | ⟨issue, hread, _⟩
  · exact hresult.trans hedited
  · -- The text is a number.
    have hnine : Literal.read .int "9" = .ok (.int 9) := by rfl
    rw [hnine] at hread
    cases hread

/-- An updater of a host that writes down what it was asked to do. -/
def notingOperation : Updater where
  run context :=
    match context.slot.write (.text context.operation.name) with
    | .ok slot => ⟨some slot, context.notes ++ [⟨.edit, "Operation is noted"⟩], .ok .edited⟩
    | .error cause => ⟨none, context.notes, .error (.write cause)⟩

/-- Wherever a list or map has room for a leaf, what comes of an insertion with a value is related
to what comes of the overwrite behind a bare one. -/
def Engine.RelatesWays (engine : Engine) (relation : Value × Outcome → Value × Outcome → Prop) :
    Prop :=
  ∀ (root node container : Value) (path segment value : String) (address : Address)
    (growth : Growth) (base : Shape) (n : Nat),
    engine.config.operators.Plain value → root.WellFormed engine.schema →
    FieldPath.validate (FieldPath.extend path segment) = .ok () → FieldPath.Plain segment →
    root.locate? (FieldPath.parse path) = some (address, node) →
    node.present? = some container → Grows segment container growth →
    growth.shape = .optional n base → base.isLeaf = true →
    relation
      (engine.apply root ⟨FieldPath.extend path segment, value ++ engine.config.operators.insert⟩)
      (engine.apply
        (engine.apply root ⟨FieldPath.extend path segment, engine.config.operators.insert⟩).1
        ⟨FieldPath.extend path growth.again, value⟩)

/-- Without updates, a refused insertion names another operation than a refused overwrite. With the
updater of a host, the graphs can be different ones. -/
theorem insert_fault_names_operation :
    (¬ ∀ engine : Engine, engine.config.operators.Apart →
      engine.RelatesWays fun once second => once.2.result = second.2.result) ∧
    ¬ ∀ engine : Engine, engine.config.operators.Apart →
      engine.RelatesWays fun once second => once.1 = second.1 := by
  constructor
  · intro h
    have hresult := h { Engine.new Catalog.schema .standard with updaters := .empty } (by decide)
      Catalog.sampleRig _ _ "names" "0" "x" _ _ .text 0 (by decide) (by decide) (by decide)
      (by decide) (by rfl) (by rfl) (.item (by rfl)) (by rfl) (by rfl)
    cases hresult
  · intro h
    have hroot := h
      { Engine.new Catalog.schema .standard with
        updaters := .register .standard .text notingOperation } (by decide)
      Catalog.sampleRig _ _ "names" "0" "x" _ _ .text 0 (by decide) (by decide) (by decide)
      (by decide) (by rfl) (by rfl) (.item (by rfl)) (by rfl) (by rfl)
    have hnoted : some (Value.text "insert") = some (Value.text "overwrite") :=
      congrArg (fun root => root.lookup? ["names", "0"]) hroot
    exact absurd (Value.text.inj (Option.some.inj hnoted)) (by decide)

end ConfigGraph
