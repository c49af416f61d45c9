/-
  ConfigGraph.Proofs.Path.Codec
  ────────────────────────────────
  **PATHS AND SEGMENTS ARE THE SAME THING.**

  A path is taken apart at its points.  Segments without a point in them are
  put together to a path from which the same segments are read again, and
  every path is put together again from its segments.  (The one exception is
  a single empty segment, whose path is the empty path.)

  A path can be extended by one more segment.  Whether the longer path is
  valid depends on that segment only through its length, so one segment can
  be exchanged for another that is no longer.

  Main results:
    * `parse_format`, `parse_format_iff`, `format_parse`
    * `parse_extend`, `validate_extend_of_le`
    * `segment_of_mem_parse` — what the segments of a valid path look like
-/
import ConfigGraph.FieldPath
import ConfigGraph.Proofs.Path.Integer

namespace ConfigGraph

/-- What is between two separators has none in it. -/
theorem Text.not_mem_of_mem_splitOn {separator : Char} {cs part : List Char}
    (h : part ∈ cs.splitOn separator) :
    separator ∉ part := by
  induction cs generalizing part with
  | nil =>
      rw [List.splitOn_nil, List.mem_singleton] at h
      rw [h]
      exact List.not_mem_nil
  | cons c rest ih =>
      rw [List.splitOn_cons_eq_if_modifyHead] at h
      split at h
      · rcases List.mem_cons.mp h with rfl | htail
        · exact List.not_mem_nil
        · exact ih htail
      · rename_i hc
        obtain ⟨first, others, hsplit⟩ :=
          List.exists_cons_of_ne_nil (List.splitOn_ne_nil separator rest)
        rw [hsplit, List.modifyHead_cons] at h
        rcases List.mem_cons.mp h with rfl | htail
        · rw [List.mem_cons, not_or]
          refine ⟨fun heq => hc ?_, ih (by rw [hsplit]; exact List.mem_cons_self)⟩
          rw [heq]
          exact BEq.rfl
        · exact ih (by rw [hsplit]; exact List.mem_cons_of_mem _ htail)

namespace FieldPath

/-- The text has no separator in it, so that it is one segment. -/
def Plain (segment : String) : Prop :=
  separator ∉ segment.toList

instance (segment : String) : Decidable (Plain segment) :=
  inferInstanceAs (Decidable (separator ∉ segment.toList))

theorem plain_ofInt (n : Int) : Plain (Text.ofInt n) := by
  intro h
  rcases Text.mem_ofInt h with hminus | hdigit
  · cases hminus
  · cases hdigit

theorem plain_ofNat (i : Nat) : Plain (Text.ofNat i) := by
  rw [← Text.ofInt_natCast]
  exact plain_ofInt i

/-! ## §1. Joining and taking apart. -/

theorem parse_of_nonempty {path : String} (h : path.isEmpty = false) :
    parse path = (path.toList.splitOn separator).map String.ofList := by
  rw [parse, h, if_neg Bool.false_ne_true]

theorem map_ofList_toList (segments : List String) :
    (segments.map String.toList).map String.ofList = segments := by
  have hid : String.ofList ∘ String.toList = id := funext fun _ => String.ofList_toList
  rw [List.map_map, hid, List.map_id]

theorem isEmpty_ofList (cs : List Char) : (String.ofList cs).isEmpty = cs.isEmpty := by
  rw [Bool.eq_iff_iff, String.isEmpty_iff, List.isEmpty_iff]
  constructor
  · intro h
    have hchars := congrArg String.toList h
    rwa [String.toList_ofList] at hchars
  · rintro rfl
    rfl

/-- **JOINED SEGMENTS ARE TAKEN APART AGAIN.** -/
theorem parse_format {segments : List String} (hplain : ∀ segment ∈ segments, Plain segment)
    (hne : segments ≠ [""]) : parse (format segments) = segments := by
  by_cases hnil : segments = []
  · rw [hnil]
    rfl
  have hsplit : ([separator].intercalate (segments.map String.toList)).splitOn separator
      = segments.map String.toList := by
    refine List.splitOn_intercalate separator ?_ (by simpa using hnil)
    intro cs hcs
    obtain ⟨segment, hsegment, rfl⟩ := List.mem_map.mp hcs
    exact hplain segment hsegment
  have hnonempty : (format segments).isEmpty = false := by
    rw [format, isEmpty_ofList, List.isEmpty_eq_false_iff]
    intro hempty
    -- Only one empty segment joins to nothing.
    rw [hempty, List.splitOn_nil] at hsplit
    refine hne ?_
    rw [← map_ofList_toList segments, ← hsplit]
    rfl
  rw [parse_of_nonempty hnonempty, format, String.toList_ofList, hsplit, map_ofList_toList]

/-- **A PATH IS JOINED FROM ITS SEGMENTS AGAIN.** -/
theorem format_parse (path : String) : format (parse path) = path := by
  cases hempty : path.isEmpty with
  | true =>
      rw [String.isEmpty_iff.mp hempty]
      rfl
  | false =>
      have hid : String.toList ∘ String.ofList = id := funext fun _ => String.toList_ofList
      rw [parse_of_nonempty hempty, format, List.map_map, hid, List.map_id,
        List.intercalate_splitOn, String.ofList_toList]

theorem plain_of_mem_parse {path segment : String} (h : segment ∈ parse path) :
    Plain segment := by
  cases hempty : path.isEmpty with
  | true =>
      rw [parse, hempty, if_pos rfl] at h
      cases h
  | false =>
      rw [parse_of_nonempty hempty] at h
      obtain ⟨cs, hcs, rfl⟩ := List.mem_map.mp h
      rw [Plain, String.toList_ofList]
      exact Text.not_mem_of_mem_splitOn hcs

/-- **THE LISTS OF SEGMENTS THAT A PATH CAN SAY** are those of plain segments; a path of one empty
segment says nothing. -/
theorem parse_format_iff {segments : List String} :
    parse (format segments) = segments ↔
      (∀ segment ∈ segments, Plain segment) ∧ segments ≠ [""] := by
  refine ⟨fun h => ⟨fun segment hsegment => ?_, ?_⟩, fun h => parse_format h.1 h.2⟩
  · rw [← h] at hsegment
    exact plain_of_mem_parse hsegment
  · rintro rfl
    cases h

theorem ofNat_nonempty (i : Nat) : (Text.ofNat i).isEmpty = false := by
  rw [Text.ofNat, isEmpty_ofList, List.isEmpty_eq_false_iff]
  exact Nat.toDigits_ne_nil

/-! ## §2. Validity. -/

theorem validateSegments_eq_ok_iff {segments : List String} :
    validateSegments segments = .ok () ↔ segments ≠ [] ∧ segments.length ≤ maxSegments ∧
      ∀ segment ∈ segments, segment.isEmpty = false := by
  rw [validateSegments]
  cases hempty : segments.isEmpty with
  | true =>
      rw [if_pos rfl]
      exact ⟨nofun, fun h => absurd (List.isEmpty_iff.mp hempty) h.1⟩
  | false =>
      rw [if_neg Bool.false_ne_true]
      have hne : segments ≠ [] := List.isEmpty_eq_false_iff.mp hempty
      by_cases hmany : maxSegments < segments.length
      · rw [if_pos hmany]
        exact ⟨nofun, fun h => absurd h.2.1 (Nat.not_le_of_lt hmany)⟩
      · rw [if_neg hmany]
        cases hfind : segments.findIdx? String.isEmpty with
        | some step =>
            refine ⟨nofun, fun h => ?_⟩
            rw [List.findIdx?_eq_none_iff.mpr h.2.2] at hfind
            cases hfind
        | none =>
            exact ⟨fun _ => ⟨hne, Nat.le_of_not_lt hmany, List.findIdx?_eq_none_iff.mp hfind⟩,
              fun _ => rfl⟩

theorem validate_eq_ok_iff {path : String} :
    validate path = .ok () ↔ path.isEmpty = false ∧ path.utf8ByteSize ≤ maxBytes ∧
      validateSegments (parse path) = .ok () := by
  rw [validate]
  cases hempty : path.isEmpty with
  | true => exact ⟨nofun, fun h => nomatch h.1⟩
  | false =>
      rw [if_neg Bool.false_ne_true]
      by_cases hlong : maxBytes < path.utf8ByteSize
      · rw [if_pos hlong]
        exact ⟨nofun, fun h => absurd h.2.1 (Nat.not_le_of_lt hlong)⟩
      · rw [if_neg hlong]
        exact ⟨fun h => ⟨rfl, Nat.le_of_not_lt hlong, h⟩, fun h => h.2.2⟩

/-- **WHAT A SEGMENT OF A VALID PATH LOOKS LIKE.** -/
theorem segment_of_mem_parse {path segment : String} (hvalid : validate path = .ok ())
    (h : segment ∈ parse path) : segment.isEmpty = false ∧ Plain segment :=
  ⟨(validateSegments_eq_ok_iff.mp (validate_eq_ok_iff.mp hvalid).2.2).2.2 segment h,
    plain_of_mem_parse h⟩

/-! ## §3. One more segment. -/

/-- The path with one more segment. -/
def extend (path segment : String) : String :=
  path ++ String.singleton separator ++ segment

theorem extend_nonempty (path segment : String) : (extend path segment).isEmpty = false := by
  rw [Bool.eq_false_iff]
  intro h
  have hchars := congrArg String.toList (String.isEmpty_iff.mp h)
  simp [extend] at hchars

/-- The segments of an extended path are those of the path and one more. -/
theorem parse_extend {path segment : String} (hne : path.isEmpty = false)
    (hplain : Plain segment) : parse (extend path segment) = parse path ++ [segment] := by
  have hchars : (extend path segment).toList = path.toList ++ separator :: segment.toList := by
    simp [extend]
  rw [parse_of_nonempty (extend_nonempty path segment), hchars, List.splitOn_append_cons_self,
    List.splitOn_eq_singleton hplain, List.map_append, parse_of_nonempty hne, List.map_singleton,
    String.ofList_toList]

/-- What a valid path extends is not the empty path. -/
theorem nonempty_of_validate_extend {path segment : String}
    (h : validate (extend path segment) = .ok ()) : path.isEmpty = false := by
  rw [Bool.eq_false_iff]
  intro hempty
  -- The point in front would make the first segment empty.
  have hfirst : "" ∈ parse (extend path segment) := by
    rw [parse_of_nonempty (extend_nonempty path segment), String.isEmpty_iff.mp hempty]
    refine List.mem_map.mpr ⟨[], ?_, rfl⟩
    have hchars : (extend "" segment).toList = [] ++ separator :: segment.toList := by
      simp [extend]
    rw [hchars, List.splitOn_append_cons_self, List.splitOn_nil]
    exact List.mem_cons_self
  exact Bool.noConfusion ((segment_of_mem_parse h hfirst).1.symm.trans rfl)

theorem parse_of_validate_extend {path segment : String}
    (h : validate (extend path segment) = .ok ()) (hplain : Plain segment) :
    parse (extend path segment) = parse path ++ [segment] :=
  parse_extend (nonempty_of_validate_extend h) hplain

/-- What can be extended has segments. -/
theorem length_parse_ne_zero {path segment : String}
    (h : validate (extend path segment) = .ok ()) : (parse path).length ≠ 0 := by
  intro hzero
  rw [parse_of_nonempty (nonempty_of_validate_extend h), List.length_map] at hzero
  exact List.splitOn_ne_nil _ _ (List.eq_nil_of_length_eq_zero hzero)

/-- **A LAST SEGMENT CAN BE EXCHANGED FOR ONE THAT IS NO LONGER.** -/
theorem validate_extend_of_le {path segment segment' : String}
    (h : validate (extend path segment) = .ok ()) (hplain : Plain segment)
    (hne : segment'.isEmpty = false) (hplain' : Plain segment')
    (hle : segment'.utf8ByteSize ≤ segment.utf8ByteSize) :
    validate (extend path segment') = .ok () := by
  have hpath := nonempty_of_validate_extend h
  obtain ⟨_, hbytes, hsegments⟩ := validate_eq_ok_iff.mp h
  rw [parse_extend hpath hplain] at hsegments
  obtain ⟨_, hlength, hnonempty⟩ := validateSegments_eq_ok_iff.mp hsegments
  refine validate_eq_ok_iff.mpr ⟨extend_nonempty path segment', ?_, ?_⟩
  · refine Nat.le_trans ?_ hbytes
    simp only [extend, String.utf8ByteSize_append]
    exact Nat.add_le_add_left hle _
  · rw [parse_extend hpath hplain']
    refine validateSegments_eq_ok_iff.mpr ⟨by simp, by simpa using hlength, ?_⟩
    intro other hother
    rcases List.mem_append.mp hother with hbefore | hlast
    · exact hnonempty other (List.mem_append_left _ hbefore)
    · rw [List.mem_singleton.mp hlast]
      exact hne

end FieldPath

end ConfigGraph
