/-
  ConfigGraph.Proofs.Lookup
  ────────────────────────────────
  **READING A PATH: ONE LOOK-UP, THREE PROGRAMS.**

  A path is read by `locate?` (to look at a node), by `place?` (to exchange
  it) and by `descendAll` (to report what is wrong with it).  Each is a case
  analysis of its own over records, lists and maps.  They agree step by step,
  and by induction along the segments they agree on paths.

  Where a look-up fails, there is a first segment that it cannot read: the
  segments before it lead to a node, and this node has no part of that name.
  `Stops` says so, and says which fault is reported for it.

  Main results:
    * `get?_of_locate?`, `locateFrom?_append`
    * `place?_eq` — the place is the located node, and putting is updating
    * `Stops.stopsAt` — the first segment that is not read
    * `descendAll_cases`
-/
import ConfigGraph.Directive.Landing
import ConfigGraph.Proofs.Address

namespace ConfigGraph

/-! ## §1. One step. -/

namespace Value

section

variable {value : Value} {depth : Nat} {segment : String}

theorem step?_record {name : String} {fields : List (String × Value)}
    (h : value.present? = some (.record name fields)) :
    value.step? depth segment
      = (Ordered.find? segment fields).map fun part => (.field segment, part) := by
  rw [step?, h]

theorem step?_list {element : Shape} {items : List Value}
    (h : value.present? = some (.list element items)) (hdepth : depth ≠ 0) :
    value.step? depth segment
      = (Text.index? segment).bind fun i => items[i]?.map fun part => (.index i, part) := by
  rw [step?, h]
  exact if_neg hdepth

theorem step?_map {order : MapOrder} {kind : KeyKind} {shape : Shape}
    {entries : List (Key × Value)} (h : value.present? = some (.map order kind shape entries))
    (hdepth : depth ≠ 0) :
    value.step? depth segment = (kind.read? segment).bind fun key =>
      (Ordered.find? key entries).map fun part => (.key key, part) := by
  rw [step?, h]
  exact if_neg hdepth

/-- The first segment is a field name, whatever the contents. -/
theorem step?_zero {inside : Value} (h : value.present? = some inside)
    (hrecord : ∀ name fields, inside ≠ .record name fields) : value.step? 0 segment = none := by
  rw [step?, h]
  cases inside <;> first | rfl | exact absurd rfl (hrecord _ _)

end

theorem map_step_eq_some {parts : Option Value} {step step' : Step} {part : Value}
    (h : (parts.map fun part => (step', part)) = some (step, part)) :
    step' = step ∧ parts = some part := by
  obtain ⟨part', hparts, heq⟩ := Option.map_eq_some_iff.mp h
  injection heq with hstep hpart
  exact ⟨hstep, hpart ▸ hparts⟩

/-- The step that a segment writes leads to the part that was found. -/
theorem child?_of_step? {value part : Value} {depth : Nat} {segment : String} {step : Step}
    (h : value.step? depth segment = some (step, part)) : value.child? step = some part := by
  refine child?_eq_some_iff.mpr ?_
  unfold step? at h
  split at h
  · rename_i fields hpresent
    obtain ⟨rfl, hpart⟩ := map_step_eq_some h
    exact ⟨_, hpresent, hpart⟩
  · rename_i items hpresent
    by_cases hdepth : depth = 0
    · rw [if_pos hdepth] at h
      cases h
    · rw [if_neg hdepth] at h
      obtain ⟨i, _, hi⟩ := Option.bind_eq_some_iff.mp h
      obtain ⟨rfl, hpart⟩ := map_step_eq_some hi
      exact ⟨_, hpresent, hpart⟩
  · rename_i entries hpresent
    by_cases hdepth : depth = 0
    · rw [if_pos hdepth] at h
      cases h
    · rw [if_neg hdepth] at h
      obtain ⟨key, _, hkey⟩ := Option.bind_eq_some_iff.mp h
      obtain ⟨rfl, hpart⟩ := map_step_eq_some hkey
      exact ⟨_, hpresent, hpart⟩
  · cases h

/-- Behind the layers, the same part is found without looking through them. -/
theorem part?_of_step? {value container part : Value} {depth : Nat} {segment : String}
    {step : Step} (present : value.present? = some container)
    (h : value.step? depth segment = some (step, part)) : container.part? step = some part := by
  obtain ⟨inside, hinside, hpart⟩ := child?_eq_some_iff.mp (child?_of_step? h)
  rw [present] at hinside
  injection hinside with hinside
  rw [hinside, hpart]

/-- A step to a field is written by the name of the field, at a record. -/
theorem exists_record_of_step? {value part : Value} {depth : Nat} {segment name : String}
    (h : value.step? depth segment = some (.field name, part)) :
    segment = name ∧ ∃ record fields, value.present? = some (.record record fields) ∧
      Ordered.find? name fields = some part := by
  obtain ⟨inside, hinside, hpart⟩ := child?_eq_some_iff.mp (child?_of_step? h)
  -- Of the bare values, only a record has a part at a field.
  cases inside with
  | record record fields =>
      rw [step?_record hinside] at h
      obtain ⟨hname, _⟩ := map_step_eq_some h
      injection hname with hname
      exact ⟨hname, record, fields, hinside, hpart⟩
  | _ => cases hpart

/-! ## §2. Along a path. -/

theorem locateFrom?_cons_eq_some_iff {value node : Value} {depth : Nat} {segment : String}
    {rest : List String} {address : Address} :
    value.locateFrom? depth (segment :: rest) = some (address, node) ↔
      ∃ step part below, value.step? depth segment = some (step, part) ∧
        part.locateFrom? (depth + 1) rest = some (below, node) ∧ address = step :: below := by
  rw [locateFrom?]
  constructor
  · intro h
    obtain ⟨⟨step, part⟩, hstep, hrest⟩ := Option.bind_eq_some_iff.mp h
    obtain ⟨⟨below, node'⟩, hlocate, heq⟩ := Option.bind_eq_some_iff.mp hrest
    injection heq with heq
    injection heq with haddress hnode
    rw [← hnode]
    exact ⟨step, part, below, hstep, hlocate, haddress.symm⟩
  · rintro ⟨step, part, below, hstep, hlocate, rfl⟩
    rw [hstep]
    show (part.locateFrom? (depth + 1) rest).bind _ = _
    rw [hlocate]
    rfl

theorem get?_of_locateFrom? {value node : Value} {depth : Nat} {segments : List String}
    {address : Address} (h : value.locateFrom? depth segments = some (address, node)) :
    value.get? address = some node := by
  induction segments generalizing value depth address with
  | nil =>
      injection h with h
      injection h with haddress hnode
      rw [← haddress, ← hnode]
      rfl
  | cons segment rest ih =>
      obtain ⟨step, part, below, hstep, hlocate, rfl⟩ := locateFrom?_cons_eq_some_iff.mp h
      rw [get?, child?_of_step? hstep]
      exact ih hlocate

theorem get?_of_locate? {root node : Value} {segments : List String} {address : Address}
    (h : root.locate? segments = some (address, node)) : root.get? address = some node :=
  get?_of_locateFrom? h

/-- Reading a path is reading its beginning and going on from there. -/
theorem locateFrom?_append (value : Value) (depth : Nat) (before after : List String) :
    value.locateFrom? depth (before ++ after) =
      (value.locateFrom? depth before).bind fun found =>
        (found.2.locateFrom? (depth + before.length) after).map fun rest =>
          (found.1 ++ rest.1, rest.2) := by
  induction before generalizing value depth with
  | nil =>
      rw [List.nil_append, locateFrom?, Option.bind_some, List.length_nil, Nat.add_zero]
      cases value.locateFrom? depth after <;> rfl
  | cons segment rest ih =>
      rw [List.cons_append, locateFrom?, locateFrom?]
      cases value.step? depth segment with
      | none => rfl
      | some found =>
          obtain ⟨step, part⟩ := found
          show (part.locateFrom? (depth + 1) (rest ++ after)).bind _
            = ((part.locateFrom? (depth + 1) rest).bind _).bind _
          -- Both sides have taken the step; what is left is associativity of two binds.
          rw [ih, List.length_cons, Nat.add_assoc, Nat.add_comm 1]
          cases part.locateFrom? (depth + 1) rest with
          | none => rfl
          | some found =>
              obtain ⟨above, node⟩ := found
              show ((node.locateFrom? (depth + (rest.length + 1)) after).map _).bind _
                = (node.locateFrom? (depth + (rest.length + 1)) after).map _
              cases node.locateFrom? (depth + (rest.length + 1)) after <;> rfl

/-! ## §3. Places. -/

/-- Exchanging the contents of a node for ones with another part is exchanging that part. -/
theorem map_place_eq {value inside : Value} (h : value.present? = some inside)
    (parts : Option Value) {step : Step} {changed : Value → Value}
    (hchanged : ∀ new, changed new = mapPart step (fun _ => new) inside) :
    (parts.map fun part => Place.mk part fun new => value.mapPresent fun _ => changed new)
      = (parts.map fun part => (step, part)).map fun found =>
        Place.mk found.2 fun new => value.mapPresent (mapPart found.1 fun _ => new) := by
  cases parts with
  | none => rfl
  | some part =>
      show some (Place.mk part _) = some (Place.mk part _)
      congr 2
      funext new
      exact mapPresent_congr_of_present? h (hchanged new)

/-- Entering a node to write finds the part that reading finds. -/
theorem enter?_eq (value : Value) (depth : Nat) (segment : String) :
    value.enter? depth segment = (value.step? depth segment).map fun found =>
      ⟨found.2, fun new => value.mapPresent (mapPart found.1 fun _ => new)⟩ := by
  unfold enter? step?
  cases hpresent : value.present? with
  | none => rfl
  | some inside =>
      cases inside with
      | record name fields => exact map_place_eq hpresent _ fun _ => rfl
      | list element items =>
          by_cases hdepth : depth = 0
          · simp [hdepth]
          · simp only [hdepth, if_false]
            cases Text.index? segment with
            | none => rfl
            | some i =>
                exact map_place_eq hpresent _ fun new =>
                  (mapPart_index_const i new element items).symm
      | map order kind shape entries =>
          by_cases hdepth : depth = 0
          · simp [hdepth]
          · simp only [hdepth, if_false]
            cases kind.read? segment with
            | none => rfl
            | some key => exact map_place_eq hpresent _ fun _ => rfl
      | _ => rfl

theorem placeFrom?_eq (value : Value) (depth : Nat) (segments : List String) :
    value.placeFrom? depth segments = (value.locateFrom? depth segments).map fun found =>
      ⟨found.2, fun new => value.update (fun _ => new) found.1⟩ := by
  induction segments generalizing value depth with
  | nil => rfl
  | cons segment rest ih =>
      rw [placeFrom?, locateFrom?, enter?_eq]
      cases hstep : value.step? depth segment with
      | none => rfl
      | some found =>
          obtain ⟨step, part⟩ := found
          show (part.placeFrom? (depth + 1) rest).bind _
            = ((part.locateFrom? (depth + 1) rest).bind _).map _
          rw [ih]
          cases part.locateFrom? (depth + 1) rest with
          | none => rfl
          | some found =>
              obtain ⟨address, node⟩ := found
              show some (Place.mk node _) = some (Place.mk node _)
              congr 2
              funext new
              show value.mapPresent (mapPart step fun _ => part.update (fun _ => new) address)
                = value.update (fun _ => new) (step :: address)
              -- Putting rebuilds the part that was found, updating the part that is there now.
              obtain ⟨inside, hinside, hpart⟩ := child?_eq_some_iff.mp (child?_of_step? hstep)
              exact mapPresent_congr_of_present? hinside (mapPart_congr hpart rfl)

/-- **THE TWO LOOK-UPS AGREE**: the place at a path is the node at the path, and putting
another node there is the update at its address. -/
theorem place?_eq (root : Value) (segments : List String) :
    root.place? segments = (root.locate? segments).map fun found =>
      ⟨found.2, fun new => root.update (fun _ => new) found.1⟩ :=
  placeFrom?_eq root 0 segments

end Value

/-! ## §4. Where a look-up stops. -/

/-- The node has no part that the segment leads to, and this is the fault about it. -/
inductive Misses (node : Value) (depth : Nat) (segment : String) : Fault → Prop where
  /-- There is nothing to look into. -/
  | nullTarget (empty : node.present? = none) :
      Misses node depth segment (.nullTarget depth segment)
  /-- The node is a leaf, a record without that field, or the root and no record. -/
  | fieldNotFound {inside : Value} {found : Shape} (present : node.present? = some inside)
      (seen : found = node.shape ∨ found = inside.shape)
      (absent : node.step? depth segment = none) :
      Misses node depth segment (.fieldNotFound depth segment found)
  /-- The segment is no index. -/
  | invalidIndex {element : Shape} {items : List Value}
      (present : node.present? = some (.list element items))
      (unread : Text.index? segment = none) :
      Misses node depth segment (.invalidIndex depth segment)
  /-- The list ends before the index. -/
  | indexOutOfBounds {element : Shape} {items : List Value} {i : Nat}
      (present : node.present? = some (.list element items))
      (reads : Text.index? segment = some i) (beyond : items.length ≤ i) :
      Misses node depth segment (.indexOutOfBounds depth i items.length)
  /-- The map has no such entry. -/
  | keyNotFound {order : MapOrder} {kind : KeyKind} {shape : Shape} {entries : List (Key × Value)}
      (present : node.present? = some (.map order kind shape entries))
      (absent : Entries.find? kind entries segment = none) :
      Misses node depth segment (.keyNotFound depth segment)

/-- Reading the path, one gets to a node that misses the next segment. -/
inductive Stops : Value → Nat → List String → Fault → Prop where
  /-- The first segment is missed. -/
  | here {node : Value} {depth : Nat} {segment : String} {rest : List String} {fault : Fault}
      (misses : Misses node depth segment fault) : Stops node depth (segment :: rest) fault
  /-- The first segment leads to a node from which the rest is not read. -/
  | later {node part : Value} {depth : Nat} {segment : String} {step : Step} {rest : List String}
      {fault : Fault} (leads : node.step? depth segment = some (step, part))
      (stops : Stops part (depth + 1) rest fault) : Stops node depth (segment :: rest) fault

theorem Misses.step?_eq_none {node : Value} {depth : Nat} {segment : String} {fault : Fault}
    (h : Misses node depth segment fault) : node.step? depth segment = none := by
  cases h with
  | nullTarget empty => simp [Value.step?, empty]
  | fieldNotFound _ _ absent => exact absent
  | invalidIndex present unread => simp [Value.step?, present, unread]
  | indexOutOfBounds present reads beyond =>
      simp [Value.step?, present, reads, List.getElem?_eq_none beyond]
  | @keyNotFound order kind shape entries present absent =>
      rw [Value.step?, present]
      by_cases hdepth : depth = 0
      · simp [hdepth]
      · simp only [hdepth, if_false]
        rw [Entries.find?] at absent
        cases hkey : kind.read? segment with
        | none => rfl
        | some key =>
            rw [hkey, Option.bind_some] at absent
            rw [Option.bind_some, absent]
            rfl

/-- The fault is about looking up a segment. -/
def Fault.isLookup : Fault → Bool
  | .nullTarget .. | .fieldNotFound .. | .invalidIndex .. | .indexOutOfBounds ..
  | .keyNotFound .. => true
  | _ => false

theorem Misses.isLookup {node : Value} {depth : Nat} {segment : String} {fault : Fault}
    (h : Misses node depth segment fault) : fault.isLookup = true := by
  cases h <;> rfl

/-- A path whose look-up stops has no node. -/
theorem Stops.locateFrom?_eq_none {node : Value} {depth : Nat} {segments : List String}
    {fault : Fault} (h : Stops node depth segments fault) :
    node.locateFrom? depth segments = none := by
  induction h with
  | here misses =>
      rw [Value.locateFrom?, misses.step?_eq_none]
      rfl
  | later leads _ ih =>
      rw [Value.locateFrom?, leads]
      show (Value.locateFrom? _ _ _).bind _ = none
      rw [ih]
      rfl

theorem Stops.append {node : Value} {depth : Nat} {segments : List String} {fault : Fault}
    (h : Stops node depth segments fault) (more : List String) :
    Stops node depth (segments ++ more) fault := by
  induction h with
  | here misses => exact .here misses
  | later leads _ ih => exact .later leads ih

/-- What stops the look-up from a node on a path stops the look-up of the path. -/
theorem Stops.of_locateFrom? {value node : Value} {depth : Nat} {before after : List String}
    {address : Address} {fault : Fault} (h : value.locateFrom? depth before = some (address, node))
    (stops : Stops node (depth + before.length) after fault) :
    Stops value depth (before ++ after) fault := by
  induction before generalizing value depth address with
  | nil =>
      injection h with h
      injection h with _ hnode
      rw [hnode]
      exact stops
  | cons segment rest ih =>
      obtain ⟨step, part, below, hstep, hlocate, _⟩ := Value.locateFrom?_cons_eq_some_iff.mp h
      refine .later hstep (ih hlocate ?_)
      rw [List.length_cons, ← Nat.add_assoc, Nat.add_right_comm] at stops
      exact stops

/-- **THE STEP OF A STOPPED LOOK-UP**: the segments before it are read, it is not. -/
theorem Stops.exists_step {value : Value} {depth : Nat} {segments : List String} {fault : Fault}
    (h : Stops value depth segments fault) :
    ∃ s segment address node, segments[s]? = some segment ∧
      value.locateFrom? depth (segments.take s) = some (address, node) ∧
      Misses node (depth + s) segment fault := by
  induction h with
  | here misses => exact ⟨0, _, [], _, rfl, rfl, misses⟩
  | @later node part depth segment step rest fault leads _ ih =>
      obtain ⟨s, segment', address, node', hsegment, hlocate, misses⟩ := ih
      refine ⟨s + 1, segment', step :: address, node', hsegment, ?_, ?_⟩
      · rw [List.take_succ_cons]
        exact Value.locateFrom?_cons_eq_some_iff.mpr ⟨step, part, address, leads, hlocate, rfl⟩
      · rw [← Nat.add_assoc, Nat.add_right_comm]
        exact misses

/-- The look-up of the path in the graph gets to segment `s` and not beyond, and this is the
fault about it. -/
structure StopsAt (root : Value) (segments : List String) (s : Nat) (fault : Fault) : Prop where
  /-- The segments before lead to a node, and the node misses the segment. -/
  reads : ∃ segment node, segments[s]? = some segment ∧
    root.lookup? (segments.take s) = some node ∧ Misses node s segment fault
  /-- With the segment, the path leads nowhere. -/
  fails : root.lookup? (segments.take (s + 1)) = none
  /-- It is the first such segment. -/
  least : ∀ t, t < s → (root.lookup? (segments.take (t + 1))).isSome = true

/-- The beginning of a path that is read is read. -/
theorem Value.lookup?_take_isSome {root node : Value} {segments : List String} {s t : Nat}
    (hle : t ≤ s) (h : root.lookup? (segments.take s) = some node) :
    (root.lookup? (segments.take t)).isSome = true := by
  rw [lookup?, locate?, Option.isSome_map]
  have hsplit : segments.take s = segments.take t ++ (segments.take s).drop t := by
    have hjoin := List.take_append_drop t (segments.take s)
    rw [List.take_take, Nat.min_eq_left hle] at hjoin
    exact hjoin.symm
  rw [lookup?, locate?, hsplit, locateFrom?_append] at h
  cases hbefore : root.locateFrom? 0 (segments.take t) with
  | some found => rfl
  | none =>
      rw [hbefore] at h
      cases h

/-- A stopped look-up stops at one segment, the first that is not read. -/
theorem Stops.stopsAt {root : Value} {segments : List String} {fault : Fault}
    (h : Stops root 0 segments fault) : ∃ s, StopsAt root segments s fault := by
  obtain ⟨s, segment, address, node, hsegment, hlocate, misses⟩ := h.exists_step
  rw [Nat.zero_add] at misses
  have hlookup : root.lookup? (segments.take s) = some node := by
    rw [Value.lookup?, Value.locate?, hlocate]
    rfl
  refine ⟨s, ⟨segment, node, hsegment, hlookup, misses⟩, ?_, ?_⟩
  -- One segment more is a path on which the look-up stops at its end.
  · have htake : segments.take (s + 1) = segments.take s ++ [segment] := by
      rw [List.take_add_one, hsegment]
      rfl
    have hlength : (segments.take s).length = s := by
      have hlt : s < segments.length := (List.getElem?_eq_some_iff.mp hsegment).1
      rw [List.length_take, Nat.min_eq_left (Nat.le_of_lt hlt)]
    have stops : Stops root 0 (segments.take s ++ [segment]) fault := by
      refine .of_locateFrom? hlocate (.here ?_)
      rw [hlength, Nat.zero_add]
      exact misses
    rw [htake, Value.lookup?, Value.locate?, stops.locateFrom?_eq_none]
    rfl
  -- No earlier segment stops it, because a later node was reached.
  · exact fun t ht => Value.lookup?_take_isSome ht hlookup

/-! ## §5. Descending. -/

/-- Descending finds the part that reading finds, or says what is missing. -/
theorem descend_cases (target : Value) (depth : Nat) (segment : String) :
    (∃ found, target.step? depth segment = some found ∧ descend target depth segment = .ok found) ∨
      ∃ fault, Misses target depth segment fault ∧ descend target depth segment = .error fault := by
  unfold descend
  cases hpresent : target.present? with
  | none => exact .inr ⟨_, .nullTarget hpresent, rfl⟩
  | some inside =>
      cases inside with
      | record name fields =>
          have hstep : target.step? depth segment = _ := Value.step?_record hpresent
          cases hfind : Ordered.find? segment fields with
          | some part =>
              refine .inl ⟨(.field segment, part), ?_, by simp only [hfind]⟩
              rw [hstep, hfind]
              rfl
          | none =>
              refine .inr ⟨_, .fieldNotFound hpresent (.inl rfl) ?_, by simp only [hfind]⟩
              rw [hstep, hfind]
              rfl
      | list element items =>
          by_cases hdepth : depth = 0
          · subst hdepth
            have habsent : target.step? 0 segment = none :=
              Value.step?_zero hpresent fun _ _ => Value.noConfusion
            exact .inr ⟨_, .fieldNotFound hpresent (.inl rfl) habsent, rfl⟩
          · simp only [if_neg hdepth]
            cases hindex : Text.index? segment with
            | none => exact .inr ⟨_, .invalidIndex hpresent hindex, rfl⟩
            | some i =>
                cases hget : items[i]? with
                | some part =>
                    refine .inl ⟨(.index i, part), ?_, by simp only [hget]⟩
                    rw [Value.step?_list hpresent hdepth, hindex, Option.bind_some, hget]
                    rfl
                | none =>
                    have hbeyond : items.length ≤ i := List.getElem?_eq_none_iff.mp hget
                    exact .inr ⟨_, .indexOutOfBounds hpresent hindex hbeyond, by simp only [hget]⟩
      | map order kind shape entries =>
          by_cases hdepth : depth = 0
          · subst hdepth
            have habsent : target.step? 0 segment = none :=
              Value.step?_zero hpresent fun _ _ => Value.noConfusion
            exact .inr ⟨_, .fieldNotFound hpresent (.inl rfl) habsent, rfl⟩
          · simp only [if_neg hdepth]
            cases hkey : kind.read? segment with
            | none =>
                refine .inr ⟨_, .keyNotFound hpresent ?_, rfl⟩
                rw [Entries.find?, hkey]
                rfl
            | some key =>
                cases hfind : Ordered.find? key entries with
                | some part =>
                    refine .inl ⟨(.key key, part), ?_, by simp only [hfind]⟩
                    rw [Value.step?_map hpresent hdepth, hkey, Option.bind_some, hfind]
                    rfl
                | none =>
                    refine .inr ⟨_, .keyNotFound hpresent ?_, by simp only [hfind]⟩
                    rw [Entries.find?, hkey]
                    exact hfind
      | _ =>
          refine .inr ⟨_, .fieldNotFound hpresent (.inl rfl) ?_, rfl⟩
          rw [Value.step?, hpresent]

/-- **Descending along a path is reading it.** -/
theorem descendAll_cases (target : Value) (depth : Nat) (segments : List String) :
    (∃ found, target.locateFrom? depth segments = some found ∧
        descendAll target depth segments = .ok found) ∨
      ∃ fault, Stops target depth segments fault ∧
        descendAll target depth segments = .error fault := by
  induction segments generalizing target depth with
  | nil => exact .inl ⟨([], target), rfl, rfl⟩
  | cons segment rest ih =>
      rw [descendAll]
      rcases descend_cases target depth segment with
        ⟨⟨step, part⟩, hstep, hdescend⟩ | ⟨fault, misses, hdescend⟩
      · rw [hdescend]
        rcases ih part (depth + 1) with ⟨⟨address, node⟩, hlocate, hrest⟩ | ⟨fault, stops, hrest⟩
        · refine .inl ⟨(step :: address, node), ?_, by simp only [hrest, Except.map]⟩
          exact Value.locateFrom?_cons_eq_some_iff.mpr ⟨step, part, address, hstep, hlocate, rfl⟩
        · exact .inr ⟨fault, .later hstep stops, by simp only [hrest, Except.map]⟩
      · exact .inr ⟨fault, .here misses, by rw [hdescend]⟩

end ConfigGraph
