/-
  ConfigGraph.Proofs.Independence
  ────────────────────────────────
  **SLOTS ARE INDEPENDENT CELLS.**

  An overwrite or a reset reads nothing of the graph but the shape of its
  slot.  So the value that it writes, or the fault that it ends in, is a
  reply that is fixed before the graph is known, once the shape and the kind
  of slot are (`updateSlot_uniform`), and the directive as a whole puts this
  reply at the address of its path (`exists_effect`).

  Two such directives meet in a graph in three ways.  At one address the
  second write covers the first.  At addresses of which neither is above the
  other the writes commute, because a write changes neither what steps a
  segment writes elsewhere nor the shape of another slot.  (Where one address
  is above the other they need not commute, and nothing is claimed.)

  Well-formedness is what makes a write the exchange of one part; it has to
  hold in front of the second directive too, which is `apply_preserves`.

  Main results:
    * `locate?_update` — a write leaves other paths at their addresses
    * `exists_effect`
    * `selecting_independent`
-/
import ConfigGraph.Proofs.Exactness
import ConfigGraph.Proofs.Preservation

namespace ConfigGraph

/-! ## §1. A write does not redirect other paths. -/

namespace Value

/-- The step that a segment writes at a node, whether it leads to a part or not. -/
def written? (value : Value) (depth : Nat) (segment : String) : Option Step :=
  match value.present? with
  | some (.record ..) => some (.field segment)
  | some (.list ..) => if depth = 0 then none else (Text.index? segment).map .index
  | some (.map _ kind _ _) => if depth = 0 then none else (kind.read? segment).map .key
  | _ => none

variable {value : Value} {depth : Nat} {segment : String}

/-- A segment leads to the part that its step leads to. -/
theorem step?_eq_written? (value : Value) (depth : Nat) (segment : String) :
    value.step? depth segment = (value.written? depth segment).bind fun step =>
      (value.child? step).map fun part => (step, part) := by
  unfold step? written? child?
  cases value.present? with
  | none => rfl
  | some inside =>
      cases inside with
      | record name fields => rfl
      | list element items =>
          simp only []
          split
          · rfl
          · cases Text.index? segment <;> rfl
      | map order kind shape entries =>
          simp only []
          split
          · rfl
          · cases kind.read? segment <;> rfl
      | _ => rfl

/-- What steps a segment writes at a node does not depend on the node's parts. -/
theorem written?_mapPresent_mapPart (step : Step) (f : Value → Value) :
    (value.mapPresent (mapPart step f)).written? depth segment
      = value.written? depth segment := by
  unfold written?
  rw [present?_mapPresent]
  cases hpresent : value.present? with
  | none => rfl
  | some inside =>
      have hbare : (mapPart step f inside).isBare = true := by
        rw [isBare_mapPart]
        exact isBare_of_present? hpresent
      rw [Option.bind_some, present?_of_isBare hbare]
      cases inside <;> cases step <;> rfl

/-- After a change of one part, a segment leads where it led before. -/
theorem step?_mapPresent_mapPart (step : Step) {other : Step} {part : Value}
    (f : Value → Value) (h : value.step? depth segment = some (other, part)) :
    (value.mapPresent (mapPart step f)).step? depth segment
      = some (other, if other = step then f part else part) := by
  rw [step?_eq_written?] at h
  obtain ⟨step', hwritten, hmap⟩ := Option.bind_eq_some_iff.mp h
  obtain ⟨heq, hchild⟩ := map_step_eq_some hmap
  subst heq
  rw [step?_eq_written?, written?_mapPresent_mapPart, hwritten, Option.bind_some,
    child?_mapPresent_mapPart]
  by_cases hsame : step' = step
  · rw [if_pos hsame, if_pos hsame, ← hsame, hchild]
    rfl
  · rw [if_neg hsame, if_neg hsame, hchild]
    rfl

/-- A change at an address leaves every path at its address that does not lead below it. -/
theorem locateFrom?_update {node : Value} {segments : List String} {address other : Address}
    (f : Value → Value) (h : value.locateFrom? depth segments = some (other, node))
    (habove : address <+: other → address = other) :
    ∃ node', (value.update f address).locateFrom? depth segments = some (other, node') := by
  -- Along the segments; the way to the change is followed as long as the two agree.
  induction segments generalizing value depth address other with
  | nil =>
      injection h with h
      injection h with hother _
      exact ⟨_, by rw [locateFrom?, hother]⟩
  | cons segment rest ih =>
      obtain ⟨step, part, below, hstep, hlocate, rfl⟩ := locateFrom?_cons_eq_some_iff.mp h
      cases address with
      | nil => exact absurd (habove List.nil_prefix) (List.cons_ne_nil _ _).symm
      | cons step' rest' =>
          rw [update]
          have hstep' := step?_mapPresent_mapPart step' (update f rest') hstep
          by_cases hsame : step = step'
          · rw [if_pos hsame] at hstep'
            have hrest : rest' <+: below → rest' = below := by
              intro hprefix
              have hcons := habove (List.cons_prefix_cons.mpr ⟨hsame.symm, hprefix⟩)
              injection hcons
            obtain ⟨node', hnode'⟩ := ih hlocate hrest
            exact ⟨node', locateFrom?_cons_eq_some_iff.mpr ⟨_, _, _, hstep', hnode', rfl⟩⟩
          · rw [if_neg hsame] at hstep'
            exact ⟨node, locateFrom?_cons_eq_some_iff.mpr ⟨_, _, _, hstep', hlocate, rfl⟩⟩

variable {root node : Value} {segments : List String} {address other : Address}

/-- **A CHANGED NODE IS FOUND AT ITS PATH.** -/
theorem locate?_update_self (h : root.locate? segments = some (address, node))
    (f : Value → Value) :
    (root.update f address).locate? segments = some (address, f node) := by
  obtain ⟨node', hnode'⟩ := locateFrom?_update f h fun _ => rfl
  have hget := get?_of_locateFrom? hnode'
  rw [get?_update_self, get?_of_locate? h] at hget
  injection hget with hget
  rw [hget]
  exact hnode'

/-- **OTHER NODES ARE FOUND AT THEIRS**, if they are neither above nor below. -/
theorem locate?_update_apart (h : root.locate? segments = some (other, node))
    (hbelow : ¬ address <+: other) (habove : ¬ other <+: address) (f : Value → Value) :
    (root.update f address).locate? segments = some (other, node) := by
  obtain ⟨node', hnode'⟩ := locateFrom?_update f h fun hprefix => absurd hprefix hbelow
  have hget := get?_of_locateFrom? hnode'
  rw [get?_update_apart hbelow habove, get?_of_locate? h] at hget
  injection hget with hget
  rw [hget]
  exact hnode'

end Value

/-! ## §2. The reply of an update. -/

variable {operation : Operation} {value : String}

/-- The update of a leaf type settles what it writes, and the line about it, on the declared
shape alone. -/
theorem LeafUpdate.exists_plan (leaf : LeafUpdate) (tokens : OperatorTokens) (declared : Shape)
    (selecting : operation = .overwrite ∨ operation = .defaultValue) (value : String) :
    ∃ plan : Except Fault (Value × String), ∀ slot : Slot, slot.declared = declared →
      leaf.run ⟨value, operation, slot, tokens⟩ = plan.bind fun (new, message) =>
        UpdateRequest.write ⟨value, operation, slot, tokens⟩ new message := by
  have unread (issue : ParseIssue) (slot : Slot) (hslot : slot.declared = declared) :
      UpdateRequest.unreadable ⟨value, operation, slot, tokens⟩ issue
        = .unreadable value declared.resolved issue := by
    rw [UpdateRequest.unreadable, UpdateRequest.shape, hslot]
  match leaf with
  | .text =>
      rcases selecting with rfl | rfl
      · exact ⟨.ok (.text value, "String field modified with value " ++ value), fun _ _ => rfl⟩
      · refine ⟨.ok (if declared.isNullable then (.vacant .text, "String field reset to null")
          else (.text "", "String field reset to empty")), ?_⟩
        intro slot hslot
        show UpdateRequest.updateText _ = _
        rw [UpdateRequest.updateText, if_neg (by simp), hslot]
        split <;> rfl
  | .bool =>
      let b := operation ≠ .defaultValue && Literal.bool value
      exact ⟨.ok (.bool b, "Bool field modified with value " ++ Literal.boolText b), fun _ _ => rfl⟩
  | .int =>
      cases hread : if operation = .defaultValue then some 0 else Text.int? value with
      | none =>
          refine ⟨.error (.unreadable value declared.resolved .malformed), ?_⟩
          intro slot hslot
          show UpdateRequest.updateInt _ = _
          simp only [UpdateRequest.updateInt, hread, unread _ slot hslot]
          rfl
      | some n =>
          refine ⟨.ok (.int n, "Integer field modified with value " ++ Text.ofInt n.toInt), ?_⟩
          intro slot _
          show UpdateRequest.updateInt _ = _
          simp only [UpdateRequest.updateInt, hread]
          rfl
  | .float =>
      cases hread : if operation = .defaultValue then some .zero else Literal.float? value with
      | none =>
          refine ⟨.error (.unreadable value declared.resolved .malformed), ?_⟩
          intro slot hslot
          show UpdateRequest.updateFloat _ = _
          simp only [UpdateRequest.updateFloat, hread, unread _ slot hslot]
          rfl
      | some x =>
          refine ⟨.ok (.float x, "Float field modified with value " ++ x.text), ?_⟩
          intro slot _
          show UpdateRequest.updateFloat _ = _
          simp only [UpdateRequest.updateFloat, hread]
          rfl
  | .vector dim =>
      cases hread : if operation = .defaultValue then .ok (List.replicate dim.size .zero)
          else Literal.vector dim value with
      | error issue =>
          refine ⟨.error (.unreadable value declared.resolved issue), ?_⟩
          intro slot hslot
          show UpdateRequest.updateVector dim _ = _
          simp only [UpdateRequest.updateVector, hread, unread _ slot hslot]
          rfl
      | ok components =>
          refine ⟨.ok (.vector dim components, "Vector" ++ Text.ofNat dim.size ++
            " field modified with value " ++ Literal.vectorText components), ?_⟩
          intro slot _
          show UpdateRequest.updateVector dim _ = _
          simp only [UpdateRequest.updateVector, hread]
          rfl
  | .textSet =>
      -- Sets are neither overwritten nor reset.
      refine ⟨.error (.unsupported operation declared.resolved .membersOnly), ?_⟩
      intro slot hslot
      show UpdateRequest.updateTextSet _ = _
      rw [← hslot]
      rcases selecting with rfl | rfl <;> rfl

/-- What kind of slot a step leads to, in reports. -/
def Step.describe : Step → String
  | .index _ => "list element"
  | .key _ => "dictionary entry"
  | .field _ => "field"

theorem Slot.Binds.describe_eq {container : Value} {step : Step} {slot : Slot}
    (binds : Slot.Binds container step slot) : slot.describe = step.describe := by
  cases binds <;> rfl

/-- What a slot of the declared shape answers when a value is written: the value that it then
holds, with the line about it, or the fault. -/
def Value.reply (declared : Shape) (new : Value) (message : String) :
    Except Fault (Value × String) :=
  match new.convert declared with
  | .error cause => .error (.write cause)
  | .ok stored => .ok (stored, message)

theorem Value.shape_of_reply {declared : Shape} {new stored : Value} {message message' : String}
    (h : new.reply declared message = .ok (stored, message')) : stored.shape = declared := by
  unfold Value.reply at h
  split at h
  · cases h
  · rename_i hconvert
    injection h with h
    injection h with hstored _
    rw [← hstored]
    exact Value.shape_of_convert hconvert

/-- The effect of the last stage, from the reply of the stage. -/
def Slot.answer (slot : Slot) (reply : Except Fault (Value × String)) :
    Except Fault UpdateEffect :=
  reply.map fun (stored, message) => .wrote (slot.replace stored) message

/-- The reply of a reset: a tag, if there is one, says of which shape the default instance is. -/
theorem fillSlot_uniform (engine : Engine)
    (selecting : operation = .overwrite ∨ operation = .defaultValue) (value : String)
    (declared : Shape) (place : String) :
    ∃ reply : Except Fault (Value × String),
      (∀ stored message, reply = .ok (stored, message) → stored.shape = declared) ∧
      ∀ {container : Value} {step : Step} {slot : Slot}, Slot.Binds container step slot →
        container.WellFormed engine.schema → slot.declared = declared → step.describe = place →
        engine.fillSlot slot operation value = slot.answer reply := by
  have hfault (fault : Fault) (stored : Value) (message : String)
      (h : (.error fault : Except Fault (Value × String)) = .ok (stored, message)) :
      stored.shape = declared := by cases h
  rcases selecting with rfl | rfl
  · refine ⟨.error (.unsupported .overwrite declared.resolved
      (.noLiterals (engine.config.operators.token .defaultValue))), hfault _, ?_⟩
    intro container step slot _ _ hdeclared _
    unfold Engine.fillSlot
    rw [hdeclared]
    rfl
  · cases htags : engine.tags.resolve value with
    | error fault =>
        refine ⟨.error fault, hfault _, ?_⟩
        intro container step slot _ _ _ _
        simp only [Engine.fillSlot, Slot.reset, htags]
        rfl
    | ok tagged =>
        cases hinstance : engine.schema.instantiate (tagged.getD declared.resolved) with
        | none =>
            refine ⟨.error (.noDefault (tagged.getD declared.resolved)), hfault _, ?_⟩
            intro container step slot _ _ hdeclared _
            simp only [Engine.fillSlot, Slot.reset, hdeclared, htags, hinstance]
            rfl
        | some fresh =>
            refine ⟨fresh.reply declared ("Assigning new default object of type " ++
              (tagged.getD declared.resolved).name ++ " to target " ++ place),
              fun _ _ => Value.shape_of_reply, ?_⟩
            intro container step slot binds wf hdeclared hplace
            simp only [Engine.fillSlot, Slot.reset, hdeclared, htags, hinstance,
              binds.write_eq_replace wf, Value.reply, Slot.answer, binds.describe_eq, hplace]
            cases fresh.convert declared <;> rfl

/-- **AN OVERWRITE OR A RESET READS ONLY THE SHAPE OF ITS SLOT**: the stored value and the
line, or the fault, are the same for every slot of one declared shape and of one kind. -/
theorem updateSlot_uniform {engine : Engine} (builtIn : engine.updaters.BuiltIn)
    (selecting : operation = .overwrite ∨ operation = .defaultValue) (value : String)
    (declared : Shape) (place : String) :
    ∃ reply : Except Fault (Value × String),
      (∀ stored message, reply = .ok (stored, message) → stored.shape = declared) ∧
      ∀ {container : Value} {step : Step} {slot : Slot}, Slot.Binds container step slot →
        container.WellFormed engine.schema → slot.declared = declared → step.describe = place →
        engine.Ends slot operation value (slot.answer reply) := by
  cases hfind : engine.updaters.find? declared.resolved.kind with
  | some updater =>
      obtain ⟨leaf, rfl⟩ := builtIn _ updater hfind
      obtain ⟨plan, hplan⟩ := leaf.exists_plan engine.config.operators declared selecting value
      cases plan with
      | error fault =>
          refine ⟨.error fault, nofun, ?_⟩
          intro container step slot _ _ hdeclared _
          have ends : engine.Ends slot operation value _ := ends_of_leaf (hdeclared ▸ hfind)
          rw [hplan slot hdeclared] at ends
          exact ends
      | ok planned =>
          obtain ⟨new, message⟩ := planned
          refine ⟨new.reply declared message, fun _ _ => Value.shape_of_reply, ?_⟩
          intro container step slot binds wf hdeclared _
          have ends : engine.Ends slot operation value _ := ends_of_leaf (hdeclared ▸ hfind)
          have hrun : UpdateRequest.write ⟨value, operation, slot, engine.config.operators⟩ new
              message = slot.answer (new.reply declared message) := by
            simp only [UpdateRequest.write, binds.write_eq_replace wf, hdeclared, Value.reply,
              Slot.answer]
            cases new.convert declared <;> rfl
          rw [hplan slot hdeclared] at ends
          exact hrun ▸ ends
  | none =>
      obtain ⟨reply, hshape, hreply⟩ := fillSlot_uniform engine selecting value declared place
      refine ⟨reply, hshape, ?_⟩
      intro container step slot binds wf hdeclared hplace
      rw [← hreply binds wf hdeclared hplace]
      exact ends_of_bare (hdeclared ▸ hfind)

/-! ## §3. The effect of a directive. -/

/-- The operation of the directive adds and removes nothing. -/
def Selecting (engine : Engine) (directive : Directive) : Prop :=
  (engine.config.operators.split directive.value).1 = .overwrite ∨
    (engine.config.operators.split directive.value).1 = .defaultValue

/-- The graph with a new value at an address, if there is one. -/
def Value.putAt (root : Value) (address : Address) (new : Option Value) : Value :=
  match new with
  | none => root
  | some new => root.update (fun _ => new) address

/-- The graph and the outcome once the slot at an address has replied. -/
def Value.afterReply (root : Value) (address : Address) :
    Except Fault (Value × String) → Value × Outcome
  | .error fault => (root, ⟨.error fault, []⟩)
  | .ok (stored, message) =>
      (root.putAt address (some stored), ⟨.ok .edited, [⟨.edit, message⟩]⟩)

/-- In whatever graph the path of the directive leads to this address and to a node of this
shape, this is what the directive puts there and how it ends. -/
structure HasEffect (engine : Engine) (directive : Directive) (address : Address)
    (declared : Shape) (new : Option Value) (outcome : Outcome) : Prop where
  /-- What is put there has the shape of what was there. -/
  fits : ∀ stored, new = some stored → stored.shape = declared
  /-- An edit puts something there. -/
  writes : outcome.result = .ok .edited → new.isSome = true
  /-- The graph afterwards, and the outcome. -/
  applies : ∀ root node : Value, root.WellFormed engine.schema →
    root.locate? (FieldPath.parse directive.path) = some (address, node) →
    node.shape = declared → engine.apply root directive = (root.putAt address new, outcome)

/-- **AN OVERWRITE OR A RESET HAS ONE EFFECT** in all graphs where its path leads to one
address and one shape. -/
theorem exists_effect {engine : Engine} (builtIn : engine.updaters.BuiltIn) {directive : Directive}
    (selecting : Selecting engine directive) (address : Address) (declared : Shape) :
    ∃ new outcome, HasEffect engine directive address declared new outcome := by
  rcases apply_cases engine directive with
    ⟨result, dismissed, happly⟩ | ⟨before, last, operation, value, asks⟩
  · -- A dismissed directive ends the same way in every graph.
    refine ⟨none, ⟨result, []⟩, (fun _ h => by cases h), ?_, fun root _ _ _ _ => happly root⟩
    intro hedited
    cases dismissed <;> cases hedited
  · unfold Selecting at selecting
    rw [asks.split] at selecting
    obtain ⟨reply, hshape, hreply⟩ := updateSlot_uniform builtIn selecting value declared
      ((address.getLast?.map Step.describe).getD "")
    -- What is known of a graph does not depend on the reply, so it is said for all replies.
    have happly (root node : Value) (wf : root.WellFormed engine.schema)
        (located : root.locate? (FieldPath.parse directive.path) = some (address, node))
        (hnode : node.shape = declared) :
        engine.apply root directive = root.afterReply address reply := by
      rw [asks.segments] at located
      have lands := land_lands engine.schema root before last operation value
      rcases lands.of_selecting selecting with
        ⟨fault, stops, _⟩ | ⟨above, parent, container, part, step, slot, hlocate, present,
          leads, binds, hland⟩
      · rw [Value.locate?, stops.locateFrom?_eq_none] at located
        cases located
      · rw [Value.locate?_concat hlocate leads] at located
        injection located with located
        injection located with haddress hpart
        subst haddress hpart
        have hparent := Value.get?_of_locate? hlocate
        have wfContainer := (wf.get? hparent).present present
        have hpart := Value.part?_of_step? present leads
        have hplace : step.describe
            = ((above ++ [step]).getLast?.map Step.describe).getD "" := by
          rw [List.getLast?_concat]
          rfl
        have hdeclared : slot.declared = declared :=
          (binds.declared_eq_shape wfContainer hpart).trans hnode
        have ends := hreply binds wfContainer hdeclared hplace
        rw [apply_eq_settle asks root, hland, settle_of_ends ends]
        cases reply with
        | error fault => rfl
        | ok answered =>
            obtain ⟨stored, message⟩ := answered
            simp only [Slot.answer, Except.map, Value.afterEffect, binds.container_replace,
              Value.replaceAt_mapPart hparent present, List.nil_append]
            rfl
    cases reply with
    | error fault =>
        exact ⟨none, ⟨.error fault, []⟩, (fun _ h => by cases h), (fun h => by cases h), happly⟩
    | ok answered =>
        obtain ⟨stored, message⟩ := answered
        refine ⟨some stored, ⟨.ok .edited, [⟨.edit, message⟩]⟩, ?_, fun _ => rfl, happly⟩
        intro stored' hstored
        injection hstored with hstored
        rw [← hstored]
        exact hshape stored message rfl

/-- An overwrite or a reset that edits has a path that leads somewhere. -/
theorem exists_located_of_edited {engine : Engine} {directive : Directive} {root : Value}
    (selecting : Selecting engine directive)
    (edited : (engine.apply root directive).2.result = .ok .edited) :
    ∃ address node, root.locate? (FieldPath.parse directive.path) = some (address, node) := by
  rcases apply_cases engine directive with
    ⟨result, dismissed, happly⟩ | ⟨before, last, operation, value, asks⟩
  · rw [happly root] at edited
    cases dismissed <;> cases edited
  · unfold Selecting at selecting
    rw [asks.split] at selecting
    have lands := land_lands engine.schema root before last operation value
    rcases lands.of_selecting selecting with
      ⟨fault, _, hland⟩ | ⟨above, parent, container, part, step, slot, hlocate, _, leads, _, _⟩
    · rw [apply_eq_settle asks root, hland] at edited
      cases edited
    · rw [asks.segments]
      exact ⟨_, _, Value.locate?_concat hlocate leads⟩

/-! ## §4. Two directives. -/

section

variable {root node : Value} {segments : List String} {address other : Address}

theorem Value.locate?_putAt_self (h : root.locate? segments = some (address, node))
    (new : Option Value) :
    (root.putAt address new).locate? segments = some (address, new.getD node) := by
  cases new with
  | none => exact h
  | some stored => exact locate?_update_self h _

theorem Value.locate?_putAt_apart (h : root.locate? segments = some (other, node))
    (hbelow : ¬ address <+: other) (habove : ¬ other <+: address) (new : Option Value) :
    (root.putAt address new).locate? segments = some (other, node) := by
  cases new with
  | none => exact h
  | some stored => exact locate?_update_apart h hbelow habove _

/-- The second of two writes at one address covers the first. -/
theorem Value.putAt_putAt_self (root : Value) (address : Address) (old : Option Value)
    {new : Option Value} (hnew : new.isSome = true) :
    (root.putAt address old).putAt address new = root.putAt address new := by
  obtain ⟨stored, rfl⟩ := Option.isSome_iff_exists.mp hnew
  cases old with
  | none => rfl
  | some first => exact update_update_self _ _ address root

theorem Value.putAt_comm (hbelow : ¬ address <+: other) (habove : ¬ other <+: address)
    (root : Value) (first second : Option Value) :
    (root.putAt address first).putAt other second
      = (root.putAt other second).putAt address first := by
  cases first with
  | none => rfl
  | some first =>
      cases second with
      | none => rfl
      | some second => exact update_comm hbelow habove _ _ root

end

section

variable {engine : Engine} {root : Value} {first second : Directive}

/-- **THE LAST WRITE WINS**: in front of an edit of the same slot, another overwrite or reset
of it makes no difference. -/
theorem apply_apply_self (builtIn : engine.updaters.BuiltIn)
    (sound : engine.schema.WellFormed) (wf : root.WellFormed engine.schema)
    (hfirst : Selecting engine first) (hsecond : Selecting engine second)
    (same : first.path = second.path)
    (edited : (engine.apply root second).2.result = .ok .edited) :
    engine.apply (engine.apply root first).1 second = engine.apply root second := by
  obtain ⟨address, node, located⟩ := exists_located_of_edited hsecond edited
  obtain ⟨old, outcome, effect⟩ := exists_effect builtIn hfirst address node.shape
  obtain ⟨new, outcome', effect'⟩ := exists_effect builtIn hsecond address node.shape
  have hroot := effect.applies root node wf (by rw [same, located]) rfl
  have hroot' := effect'.applies root node wf located rfl
  have wf' := (apply_preserves engine builtIn.typed sound wf first).1
  rw [hroot] at wf' ⊢
  rw [hroot'] at edited ⊢
  -- The slot still has its shape, so the second directive has its effect there.
  have hshape : (old.getD node).shape = node.shape := by
    cases old with
    | none => rfl
    | some stored => exact effect.fits stored rfl
  rw [effect'.applies _ _ wf' (Value.locate?_putAt_self located old) hshape]
  rw [Value.putAt_putAt_self root address old (effect'.writes edited)]

/-- **WRITES TO SLOTS OF WHICH NEITHER CONTAINS THE OTHER COMMUTE**, and neither directive
notices the other. -/
theorem apply_apply_comm (builtIn : engine.updaters.BuiltIn)
    (sound : engine.schema.WellFormed) (wf : root.WellFormed engine.schema)
    (hfirst : Selecting engine first) (hsecond : Selecting engine second)
    {address other : Address} {node node' : Value}
    (located : root.locate? (FieldPath.parse first.path) = some (address, node))
    (located' : root.locate? (FieldPath.parse second.path) = some (other, node'))
    (hbelow : ¬ address <+: other) (habove : ¬ other <+: address) :
    (engine.apply (engine.apply root first).1 second).1
        = (engine.apply (engine.apply root second).1 first).1 ∧
      (engine.apply (engine.apply root first).1 second).2 = (engine.apply root second).2 ∧
      (engine.apply (engine.apply root second).1 first).2 = (engine.apply root first).2 := by
  obtain ⟨new, outcome, effect⟩ := exists_effect builtIn hfirst address node.shape
  obtain ⟨new', outcome', effect'⟩ := exists_effect builtIn hsecond other node'.shape
  have wfFirst := (apply_preserves engine builtIn.typed sound wf first).1
  have wfSecond := (apply_preserves engine builtIn.typed sound wf second).1
  rw [effect.applies root node wf located rfl] at wfFirst ⊢
  rw [effect'.applies root node' wf located' rfl] at wfSecond ⊢
  rw [effect'.applies _ node' wfFirst (Value.locate?_putAt_apart located' hbelow habove new) rfl,
    effect.applies _ node wfSecond (Value.locate?_putAt_apart located habove hbelow new') rfl]
  exact ⟨Value.putAt_comm hbelow habove root new new', rfl, rfl⟩

end

/-- **OVERWRITES AND RESETS ACT ON INDEPENDENT CELLS.** Of two at one path the last one wins,
and two at addresses of which neither is a prefix of the other can be applied in either order. -/
theorem selecting_independent (engine : Engine) (builtIn : engine.updaters.BuiltIn)
    (sound : engine.schema.WellFormed) {root : Value}
    (wf : root.WellFormed engine.schema) (first second : Directive)
    (hfirst : Selecting engine first) (hsecond : Selecting engine second) :
    (first.path = second.path → (engine.apply root second).2.result = .ok .edited →
      engine.apply (engine.apply root first).1 second = engine.apply root second) ∧
    ∀ (address other : Address) (node node' : Value),
      root.locate? (FieldPath.parse first.path) = some (address, node) →
      root.locate? (FieldPath.parse second.path) = some (other, node') →
      ¬ address <+: other → ¬ other <+: address →
      (engine.apply (engine.apply root first).1 second).1
          = (engine.apply (engine.apply root second).1 first).1 ∧
        (engine.apply (engine.apply root first).1 second).2 = (engine.apply root second).2 ∧
        (engine.apply (engine.apply root second).1 first).2 = (engine.apply root first).2 := by
  refine ⟨?_, ?_⟩
  · intro same edited
    exact apply_apply_self builtIn sound wf hfirst hsecond same edited
  · intro address other node node' located located' hbelow habove
    exact apply_apply_comm builtIn sound wf hfirst hsecond located located' hbelow habove

/-- A map entry that is reset and then overwritten, and its reset beside an overwrite of a field
behind a nullable list item. -/
theorem selecting_independent_rig :
    let engine := Engine.new Catalog.schema .standard
    let reset : Directive := ⟨"order.c", "!d"⟩
    let count : Directive := ⟨"order.c", "5"⟩
    let ammo : Directive := ⟨"parts.+0.ammo", "7"⟩
    engine.apply (engine.apply Catalog.sampleRig reset).1 count
        = engine.apply Catalog.sampleRig count ∧
      (engine.apply (engine.apply Catalog.sampleRig reset).1 ammo).1
        = (engine.apply (engine.apply Catalog.sampleRig ammo).1 reset).1 := by
  have builtIn : (Engine.new Catalog.schema .standard).updaters.BuiltIn :=
    UpdaterTable.builtIn_standard
  have sound : Catalog.schema.WellFormed := by decide
  have wf : Catalog.sampleRig.WellFormed Catalog.schema := by decide
  have hreset : Selecting (.new Catalog.schema .standard) ⟨"order.c", "!d"⟩ := .inr (by rfl)
  have hcount : Selecting (.new Catalog.schema .standard) ⟨"order.c", "5"⟩ := .inl (by rfl)
  have hammo : Selecting (.new Catalog.schema .standard) ⟨"parts.+0.ammo", "7"⟩ := .inl (by rfl)
  have wins := (selecting_independent _ builtIn sound wf _ _ hreset hcount).1 rfl (by rfl)
  have apart := (selecting_independent _ builtIn sound wf _ _ hreset hammo).2
    [.field "order", .key (.text "c")] [.field "parts", .index 0, .field "ammo"] _ _
    (by rfl) (by rfl) (by decide) (by decide)
  exact ⟨wins, apart.1⟩

end ConfigGraph
