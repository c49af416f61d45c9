/-
  ConfigGraph.Proofs.Path.Validity
  ────────────────────────────────
  **THE FIRST DEFECT OF A PATH.**

  Four things can be wrong with a path, and they are looked for in a fixed
  order: it is empty, it is too long, it has too many segments, a segment is
  empty.  `Judged` says which judgement a path deserves, each defect under
  the condition that none of the earlier ones is there.  A path deserves one
  judgement, and validation finds it.

  A list of segments is judged without the text.  If the text is not too long
  and the segments are plain, the two judgements are one, because the
  segments can be read off the text again.  A single empty segment is the
  exception here as it is there: its text is the empty path.

  Main results:
    * `validate_eq_iff`
    * `validate_format`
    * `codec_and_validity`
-/
import ConfigGraph.Proofs.Path.Codec

namespace ConfigGraph.FieldPath

/-! ## §1. Judgements. -/

/-- What is wrong with a path, if nothing earlier is; the lengths are in bytes of UTF-8. -/
inductive Judged (path : String) : Except Defect Unit → Prop where
  /-- There is no text. -/
  | empty (none : path.utf8ByteSize = 0) : Judged path (.error .emptyPath)
  /-- The text is too long. -/
  | tooLong (some : 1 ≤ path.utf8ByteSize) (long : 1024 < path.utf8ByteSize) :
      Judged path (.error .pathTooLong)
  /-- There are too many segments. -/
  | tooMany (some : 1 ≤ path.utf8ByteSize) (short : path.utf8ByteSize ≤ 1024)
      (many : 256 < (parse path).length) : Judged path (.error .tooManySegments)
  /-- A segment is empty, and it is the first one that is. -/
  | emptySegment {step : Nat} (some : 1 ≤ path.utf8ByteSize) (short : path.utf8ByteSize ≤ 1024)
      (few : (parse path).length ≤ 256) (hollow : (parse path)[step]? = .some "")
      (first : ∀ earlier, earlier < step → (parse path)[earlier]? ≠ .some "") :
      Judged path (.error (.emptySegment step))
  /-- Nothing is wrong. -/
  | valid (some : 1 ≤ path.utf8ByteSize) (short : path.utf8ByteSize ≤ 1024)
      (few : (parse path).length ≤ 256) (filled : ∀ segment ∈ parse path, segment ≠ "") :
      Judged path (.ok ())

variable {path : String} {result result' : Except Defect Unit}

/-- **A PATH DESERVES ONE JUDGEMENT.** -/
theorem Judged.unique (h : Judged path result) (h' : Judged path result') : result = result' := by
  cases h with
  | empty none => cases h' <;> first | rfl | omega
  | tooLong some long => cases h' <;> first | rfl | omega
  | tooMany some short many => cases h' <;> first | rfl | omega
  | @emptySegment step some short few hollow first =>
      cases h' with
      | @emptySegment step' _ _ _ hollow' first' =>
          -- Neither of the two positions is before the other.
          rcases Nat.lt_trichotomy step step' with hlt | rfl | hlt
          · exact absurd hollow (first' step hlt)
          · rfl
          · exact absurd hollow' (first step' hlt)
      | valid _ _ _ filled => exact absurd rfl (filled "" (List.mem_of_getElem? hollow))
      | _ => omega
  | valid some short few filled =>
      cases h' with
      | emptySegment _ _ _ hollow _ => exact absurd rfl (filled "" (List.mem_of_getElem? hollow))
      | valid => rfl
      | _ => omega

/-! ## §2. Validation. -/

theorem isEmpty_iff_utf8ByteSize : path.isEmpty = true ↔ path.utf8ByteSize = 0 := by
  rw [String.isEmpty_iff, String.utf8ByteSize_eq_zero_iff]

theorem parse_ne_nil (h : path.isEmpty = false) : parse path ≠ [] := by
  rw [parse_of_nonempty h]
  simp

/-- The first position at which a segment is empty, if there is one. -/
theorem findIdx?_isEmpty_eq_some_iff {segments : List String} {step : Nat} :
    segments.findIdx? String.isEmpty = some step ↔ segments[step]? = some "" ∧
      ∀ earlier, earlier < step → segments[earlier]? ≠ some "" := by
  rw [List.findIdx?_eq_some_iff_getElem]
  constructor
  · intro h
    obtain ⟨hlt, hempty, hfirst⟩ := h
    refine ⟨?_, fun earlier hearlier hsome => ?_⟩
    · rw [List.getElem?_eq_getElem hlt, String.isEmpty_iff.mp hempty]
    · obtain ⟨hbound, hsegment⟩ := List.getElem?_eq_some_iff.mp hsome
      refine hfirst earlier hearlier ?_
      rw [hsegment]
      rfl
  · intro h
    obtain ⟨hsome, hfirst⟩ := h
    obtain ⟨hlt, hsegment⟩ := List.getElem?_eq_some_iff.mp hsome
    refine ⟨hlt, by rw [hsegment]; rfl, fun earlier hearlier hempty => ?_⟩
    refine hfirst earlier hearlier ?_
    rw [List.getElem?_eq_getElem (Nat.lt_trans hearlier hlt), String.isEmpty_iff.mp hempty]

/-- **VALIDATION FINDS THE JUDGEMENT.** -/
theorem judged_validate (path : String) : Judged path (validate path) := by
  unfold validate
  cases hempty : path.isEmpty with
  | true =>
      rw [if_pos rfl]
      exact .empty (isEmpty_iff_utf8ByteSize.mp hempty)
  | false =>
      have hsome : 1 ≤ path.utf8ByteSize := by
        refine Nat.pos_of_ne_zero fun hzero => ?_
        rw [isEmpty_iff_utf8ByteSize.mpr hzero] at hempty
        cases hempty
      rw [if_neg Bool.false_ne_true]
      by_cases hlong : maxBytes < path.utf8ByteSize
      · rw [if_pos hlong]
        exact .tooLong hsome hlong
      · have hshort : path.utf8ByteSize ≤ 1024 := Nat.le_of_not_lt hlong
        rw [if_neg hlong, validateSegments,
          if_neg (by simpa [List.isEmpty_iff] using parse_ne_nil hempty)]
        by_cases hmany : maxSegments < (parse path).length
        · rw [if_pos hmany]
          exact .tooMany hsome hshort hmany
        · have hfew : (parse path).length ≤ 256 := Nat.le_of_not_lt hmany
          rw [if_neg hmany]
          cases hfind : (parse path).findIdx? String.isEmpty with
          | some step =>
              obtain ⟨hollow, first⟩ := findIdx?_isEmpty_eq_some_iff.mp hfind
              exact .emptySegment hsome hshort hfew hollow first
          | none =>
              refine .valid hsome hshort hfew fun segment hsegment hsegmentEmpty => ?_
              have hfilled := List.findIdx?_eq_none_iff.mp hfind segment hsegment
              rw [hsegmentEmpty] at hfilled
              cases hfilled

/-- A path is judged as it deserves, and in no other way. -/
theorem validate_eq_iff : validate path = result ↔ Judged path result := by
  constructor
  · intro h
    rw [← h]
    exact judged_validate path
  · exact (judged_validate path).unique

/-- **SEGMENTS ARE JUDGED AS THEIR PATH IS**, if they can be read off it and it is not too
long. -/
theorem validate_format {segments : List String} (hplain : ∀ segment ∈ segments, Plain segment)
    (hne : segments ≠ [""]) (hshort : (format segments).utf8ByteSize ≤ 1024) :
    validateSegments segments = validate (format segments) := by
  have hparse := parse_format hplain hne
  cases hempty : (format segments).isEmpty with
  | true =>
      -- Only the empty list has the empty text.
      rw [String.isEmpty_iff.mp hempty] at hparse
      rw [← hparse]
      rfl
  | false =>
      have hbytes : ¬ maxBytes < (format segments).utf8ByteSize := Nat.not_lt.mpr hshort
      rw [validate, hempty, if_neg Bool.false_ne_true, if_neg hbytes, hparse]

/-! ## §3. The statement. -/

/-- **PATHS AND LISTS OF SEGMENTS**: each path is the path of its segments; a list of segments
is that of its path just if its segments are plain and it is not a single empty one; a path is
valid just if it has one to 1024 bytes, at most 256 segments and no empty segment, and otherwise
the first of the four defects is named; and a list is judged as its path is. -/
theorem codec_and_validity :
    (∀ path, format (parse path) = path) ∧
    (∀ segments, parse (format segments) = segments ↔
      (∀ segment ∈ segments, Plain segment) ∧ segments ≠ [""]) ∧
    (∀ path, validate path = .ok () ↔ 1 ≤ path.utf8ByteSize ∧ path.utf8ByteSize ≤ 1024 ∧
      (parse path).length ≤ 256 ∧ ∀ segment ∈ parse path, segment ≠ "") ∧
    (∀ path result, validate path = result ↔ Judged path result) ∧
    ∀ segments, (∀ segment ∈ segments, Plain segment) → segments ≠ [""] →
      (format segments).utf8ByteSize ≤ 1024 →
      validateSegments segments = validate (format segments) := by
  refine ⟨format_parse, fun _ => parse_format_iff, fun path => ?_, fun _ _ => validate_eq_iff,
    fun _ => validate_format⟩
  rw [validate_eq_iff]
  constructor
  · intro h
    cases h with
    | valid some short few filled => exact ⟨some, short, few, filled⟩
  · intro h
    obtain ⟨some, short, few, filled⟩ := h
    exact .valid some short few filled

/-- Three segments, the middle one empty and the last one outside ASCII. -/
theorem codec_and_validity_hollow :
    (∀ segment ∈ ["a", "", "ß"], Plain segment) ∧ ["a", "", "ß"] ≠ [""] ∧
      (format ["a", "", "ß"]).utf8ByteSize ≤ 1024 ∧
      validate (format ["a", "", "ß"]) = .error (.emptySegment 1) ∧
      validateSegments ["a", "", "ß"] = validate (format ["a", "", "ß"]) := by
  have hplain : ∀ segment ∈ ["a", "", "ß"], Plain segment := by decide
  have hshort : (format ["a", "", "ß"]).utf8ByteSize ≤ 1024 := by decide
  exact ⟨hplain, nofun, hshort, by decide,
    codec_and_validity.2.2.2.2 _ hplain nofun hshort⟩

end ConfigGraph.FieldPath
