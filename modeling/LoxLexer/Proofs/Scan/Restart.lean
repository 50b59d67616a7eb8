import LoxLexer.Proofs.Scan.Findings
import LoxLexer.Token.Shift

/-!
# Scanning on from a boundary

A text that is cut between two of its elements is scanned in two parts, each as if it stood alone:
what is found in the second part is what a scan of that part finds, moved behind the first
(`findings_scan_cut`). Tokens and errors start where elements do, so a scan can be taken up again at
the start of each of them: **`scan_restart`**. A place and the text behind it are all that a scan
knows.
-/

namespace LoxLexer

/-! ### Elements before and behind a cut -/

theorem elements_behind {text : List Char} {es fs : List Element} (h : elements text = es ++ fs) :
    elements (fs.flatMap Element.text) = fs := by
  induction es generalizing text with
  | nil => rw [← List.nil_append fs, ← h, text_elements, h]
  | cons e es ih =>
    cases text with
    | nil => simp at h
    | cons c rest =>
      rw [elements_cons, List.cons_append] at h
      exact ih (List.cons.inj h).2

theorem text_cut_elements {text : List Char} {es fs : List Element} (h : elements text = es ++ fs) :
    text = es.flatMap Element.text ++ fs.flatMap Element.text := by
  rw [← List.flatMap_append, ← h, text_elements]

theorem fits_of_cut {text : List Char} {es fs : List Element} {e : Element}
    (h : elements text = es ++ e :: fs) :
    e.Fits (fs.flatMap Element.text) ∧ elements (fs.flatMap Element.text) = fs := by
  have nonempty : e.text ≠ [] := text_ne_nil_of_mem_elements (by rw [h]; simp)
  have behind := elements_behind h
  rwa [List.flatMap_cons, elements_append_eq_cons_iff nonempty] at behind

/-- What the elements of a row count for, the first of them at a place. -/
def found (p : Place) (es : List Element) : List Finding :=
  (locate p es).filterMap Located.finding?

/-- What is found in a text is what is found in the elements before a cut, and then what is found
in the text behind it. -/
theorem findingsFrom_cut {text : List Char} {es fs : List Element} (h : elements text = es ++ fs)
    (p : Place) : findingsFrom p text = found p es ++
      findingsFrom (p.after (es.flatMap Element.text)) (fs.flatMap Element.text) := by
  rw [findingsFrom_eq, findingsFrom_eq, ← Place.after_append, ← text_cut_elements h, foundFrom, h,
    locate_append, List.filterMap_append, foundFrom, elements_behind h, found, List.append_assoc]

/-- A scan finds the elements before a cut, and then what a scan of the text behind the cut finds,
moved by the text before it. -/
theorem findings_scan_cut {source : String} {es fs : List Element}
    (h : elements source.toList = es ++ fs) :
    (scan source).findings = found Place.start es ++
      (scan (String.ofList (fs.flatMap Element.text))).findings.map
        (Finding.shift (byteLength (es.flatMap Element.text))
          (newlines (es.flatMap Element.text))) := by
  rw [scan, findingsFrom_cut h, findingsFrom_after, scan, String.toList_ofList]

/-! ### Where findings start -/

/-- A finding of a row of elements is what one of them counts for at its place. -/
theorem exists_cut_of_mem_found {p : Place} {es : List Element} {f : Finding} (h : f ∈ found p es) :
    ∃ front e back, es = front ++ e :: back ∧
      Located.finding? ⟨p.after (front.flatMap Element.text), e⟩ = some f := by
  obtain ⟨l, hl, hf⟩ := List.mem_filterMap.1 h
  obtain ⟨front, back, hes, hp⟩ := place_of_mem_locate hl
  exact ⟨front, l.element, back, hes, by rw [← hp]; exact hf⟩

theorem start_lt_of_mem_found {text : List Char} {es fs : List Element} {f : Finding}
    (h : elements text = es ++ fs) (hf : f ∈ found Place.start es) :
    f.span.start < byteLength (es.flatMap Element.text) := by
  obtain ⟨front, e, back, rfl, he⟩ := exists_cut_of_mem_found hf
  have nonempty : e.text ≠ [] := text_ne_nil_of_mem_elements (by rw [h]; simp)
  have pos : byteLength e.text ≠ 0 := mt byteLength_eq_zero_iff.1 nonempty
  have start : f.span.start = 0 + byteLength (front.flatMap Element.text) := by
    rw [span_of_finding? he]
    rfl
  rw [start, List.flatMap_append, List.flatMap_cons, byteLength_append, byteLength_append]
  omega

/-- Whatever a scan finds starts where an element or the end of the text does. -/
theorem exists_cut_of_mem_findings {source : String} {f : Finding}
    (h : f ∈ (scan source).findings) : ∃ es fs, elements source.toList = es ++ fs ∧
      f.span.start = byteLength (es.flatMap Element.text) := by
  rw [scan, findingsFrom_eq, List.mem_append, List.mem_singleton] at h
  rcases h with h | rfl
  · obtain ⟨front, e, back, hes, he⟩ := exists_cut_of_mem_found h
    refine ⟨front, e :: back, hes, ?_⟩
    rw [span_of_finding? he]
    exact Nat.zero_add _
  · refine ⟨elements source.toList, [], (List.append_nil _).symm, ?_⟩
    rw [text_elements]
    exact Nat.zero_add _

/-- A list that is cut at a number into what starts before it and what does not. -/
theorem filter_behind {α : Type} {start : α → Nat} {p : Nat} {front back : List α}
    (before : ∀ a ∈ front, start a < p) (behind : ∀ a ∈ back, p ≤ start a) :
    (front ++ back).filter (fun a => p ≤ start a) = back := by
  have none : front.filter (fun a => p ≤ start a) = [] := by
    rw [List.filter_eq_nil_iff]
    intro a ha
    simpa using before a ha
  have all : back.filter (fun a => p ≤ start a) = back := by
    rw [List.filter_eq_self]
    intro a ha
    simpa using behind a ha
  rw [List.filter_append, none, all, List.nil_append]

/-- **A scan can be taken up again wherever a token or an error starts**, the end of the text
included: scanning the text from there on gives the tokens and the errors that start there or later,
moved by the bytes and lines before. -/
theorem scan_restart (source : String) (p : Nat)
    (boundary : (∃ t ∈ (scan source).tokens, t.span.start = p) ∨
      ∃ e ∈ (scan source).errors, e.span.start = p) :
    ∃ before rest : String, source = before ++ rest ∧ byteLength before.toList = p ∧
      (scan rest).tokens.map (Token.shift p (newlines before.toList)) =
        (scan source).tokens.filter (fun t => p ≤ t.span.start) ∧
      (scan rest).errors.map (ScanError.shift p (newlines before.toList)) =
        (scan source).errors.filter (fun e => p ≤ e.span.start) := by
  obtain ⟨es, fs, cut, start⟩ : ∃ es fs, elements source.toList = es ++ fs ∧
      p = byteLength (es.flatMap Element.text) := by
    rcases boundary with ⟨t, ht, rfl⟩ | ⟨e, he, rfl⟩
    · exact exists_cut_of_mem_findings (mem_filterMap_token?.1 ht)
    · exact exists_cut_of_mem_findings (mem_filterMap_error?.1 he)
  subst start
  have findings := findings_scan_cut cut
  refine ⟨String.ofList (es.flatMap Element.text), String.ofList (fs.flatMap Element.text), ?_,
    by rw [String.toList_ofList], ?_, ?_⟩
  · rw [← String.toList_inj, String.toList_append, String.toList_ofList, String.toList_ofList,
      ← text_cut_elements cut]
  · rw [Scan.tokens, Scan.tokens, findings, List.filterMap_append, Finding.filterMap_token?_shift,
      String.toList_ofList]
    refine (filter_behind (fun t ht => ?_) fun t ht => ?_).symm
    · exact start_lt_of_mem_found cut (mem_filterMap_token?.1 ht)
    · obtain ⟨u, -, rfl⟩ := List.mem_map.1 ht
      exact Nat.le_add_left _ _
  · rw [Scan.errors, Scan.errors, findings, List.filterMap_append, Finding.filterMap_error?_shift,
      String.toList_ofList]
    refine (filter_behind (fun e he => ?_) fun e he => ?_).symm
    · exact start_lt_of_mem_found cut (mem_filterMap_error?.1 he)
    · obtain ⟨d, -, rfl⟩ := List.mem_map.1 he
      exact Nat.le_add_left _ _

/-- Behind a string of two lines a scan is taken up at a stray character, in front of a string that
is never closed. -/
theorem scan_restart_stray :
    (∃ e ∈ (scan "é\n\"a\nb\" @\"c\nd").errors, e.span.start = 9) ∧
      ∃ before rest : String, "é\n\"a\nb\" @\"c\nd" = before ++ rest ∧
        byteLength before.toList = 9 ∧
        (scan rest).tokens.map (Token.shift 9 (newlines before.toList)) =
          [⟨.endOfText, "", none, 4, ⟨14, 14⟩⟩] ∧
        (scan rest).errors.map (ScanError.shift 9 (newlines before.toList)) =
          [⟨.unexpectedCharacter '@', 3, ⟨9, 1⟩⟩, ⟨.unterminatedString, 4, ⟨10, 4⟩⟩] := by
  have stray : ∃ e ∈ (scan "é\n\"a\nb\" @\"c\nd").errors, e.span.start = 9 := by decide +kernel
  obtain ⟨before, rest, text, bytes, tokens, errors⟩ := scan_restart _ 9 (.inr stray)
  refine ⟨stray, before, rest, text, bytes, ?_, ?_⟩
  · rw [tokens]
    decide +kernel
  · rw [errors]
    decide +kernel

end LoxLexer
