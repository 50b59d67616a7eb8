import LoxLexer.Proofs.Element.Fits

/-!
# What a scan finds, element by element

A text is empty, or an element that fits in front of another text. So what holds of the empty text
and is kept when an element is put in front of a text it fits holds of every text:
**`text_induction`**. The findings of a text follow the same cases (`foundFrom_append`), and each of
them but the end of the text comes from an element at its place (`exists_element_of_mem_foundFrom`).
-/

namespace LoxLexer

/-! ### Induction by elements -/

theorem Element.Fits.text_ne_nil {e : Element} {rest : List Char} (h : e.Fits rest) :
    e.text ≠ [] := by
  cases h with
  | token valid => exact valid.ne_nil
  | _ => simp [Element.text]

theorem elements_append {e : Element} {rest : List Char} (h : e.Fits rest) :
    elements (e.text ++ rest) = e :: elements rest := by
  obtain ⟨c, more, hc⟩ := List.exists_cons_of_ne_nil h.text_ne_nil
  have hcut := Element.cut_of_fits h (by rw [hc, List.cons_append])
  rw [hc, List.cons_append, elements_cons, hcut]

/-- **A text is empty, or an element that fits in front of a text.** -/
@[elab_as_elim]
theorem text_induction {motive : List Char → Prop} (text : List Char) (nil : motive [])
    (element : ∀ (e : Element) (rest : List Char), e.Fits rest → motive rest →
      motive (e.text ++ rest)) : motive text := by
  match text with
  | [] => exact nil
  | c :: rest =>
    have shorter := Element.length_cut_le c rest
    rw [← Element.text_cut c rest]
    exact element _ _ (Element.fits_cut c rest) (text_induction _ nil element)
termination_by text.length
decreasing_by exact Nat.lt_succ_of_le shorter

/-- An element and a text have this element and those of the text exactly if the element fits. -/
theorem elements_append_eq_cons_iff {e : Element} {rest : List Char} {es : List Element}
    (nonempty : e.text ≠ []) :
    elements (e.text ++ rest) = e :: es ↔ e.Fits rest ∧ elements rest = es := by
  constructor
  · intro h
    obtain ⟨c, more, text⟩ := List.exists_cons_of_ne_nil nonempty
    have cutText := Element.text_cut c (more ++ rest)
    have fits := Element.fits_cut c (more ++ rest)
    rw [text, List.cons_append, elements_cons] at h
    obtain ⟨first, others⟩ := List.cons.inj h
    rw [first, ← List.cons_append, ← text, List.append_cancel_left_eq] at cutText
    rw [first, cutText] at fits
    exact ⟨fits, cutText ▸ others⟩
  · rintro ⟨fits, rfl⟩
    exact elements_append fits

theorem exists_fits_of_mem_elements {e : Element} {text : List Char} (h : e ∈ elements text) :
    ∃ rest, e.Fits rest := by
  induction text using text_induction with
  | nil => simp at h
  | element d rest fits ih =>
    rw [elements_append fits, List.mem_cons] at h
    rcases h with rfl | h
    · exact ⟨rest, fits⟩
    · exact ih h

theorem text_ne_nil_of_mem_elements {e : Element} {text : List Char} (h : e ∈ elements text) :
    e.text ≠ [] :=
  (exists_fits_of_mem_elements h).elim fun _ => Element.Fits.text_ne_nil

/-- Every character of a text is read as a part of an element. -/
theorem exists_element_of_eq_append {text before after : List Char} {c : Char}
    (h : text = before ++ c :: after) :
    ∃ front e back pre post, elements text = front ++ e :: back ∧
      before = front.flatMap Element.text ++ pre ∧ e.text = pre ++ c :: post := by
  induction text using text_induction generalizing before with
  | nil => simp at h
  | element e rest fits ih =>
    have later (pre : List Char) (hb : before = e.text ++ pre) (hr : rest = pre ++ c :: after) :
        ∃ front d back pre post, elements (e.text ++ rest) = front ++ d :: back ∧
          before = front.flatMap Element.text ++ pre ∧ d.text = pre ++ c :: post := by
      obtain ⟨front, d, back, pre, post, helements, hpre, hd⟩ := ih hr
      exact ⟨e :: front, d, back, pre, post, by rw [elements_append fits, helements]; rfl,
        by rw [hb, hpre, List.flatMap_cons, List.append_assoc], hd⟩
    obtain ⟨pre, hb, hr⟩ | ⟨own, he, hr⟩ := List.append_eq_append_iff.1 h
    · exact later pre hb hr
    · cases own with
      | nil => exact later [] (by rw [he, List.append_nil, List.append_nil]) hr.symm
      | cons d post =>
        obtain ⟨rfl, -⟩ := List.cons.inj hr
        exact ⟨[], e, elements rest, before, post, elements_append fits, rfl, he⟩

/-! ### Findings -/

/-- What is found in a text that begins at a place, but for the end of the text. -/
def foundFrom (p : Place) (text : List Char) : List Finding :=
  (locate p (elements text)).filterMap Located.finding?

theorem findingsFrom_eq (p : Place) (text : List Char) :
    findingsFrom p text = foundFrom p text ++ [.token (Token.endOfText (p.after text))] := rfl

@[simp] theorem foundFrom_nil (p : Place) : foundFrom p [] = [] := by
  simp [foundFrom]

/-- What an element counts for is found before what is found after it. -/
theorem foundFrom_append {e : Element} {rest : List Char} (h : e.Fits rest) (p : Place) :
    foundFrom p (e.text ++ rest) =
      (Located.finding? ⟨p, e⟩).toList ++ foundFrom (p.after e.text) rest := by
  rw [foundFrom, elements_append h, locate_cons, List.filterMap_cons, foundFrom]
  cases Located.finding? ⟨p, e⟩ <;> rfl

theorem findingsFrom_append {e : Element} {rest : List Char} (fits : e.Fits rest) (p : Place) :
    findingsFrom p (e.text ++ rest) =
      (Located.finding? ⟨p, e⟩).toList ++ findingsFrom (p.after e.text) rest := by
  rw [findingsFrom_eq, findingsFrom_eq, foundFrom_append fits, Place.after_append,
    List.append_assoc]

/-- What is found comes from an element that fits at its place. -/
theorem exists_element_of_mem_foundFrom {p : Place} {text : List Char} {f : Finding}
    (h : f ∈ foundFrom p text) : ∃ before e after, text = before ++ e.text ++ after ∧
      e.Fits after ∧ Located.finding? ⟨p.after before, e⟩ = some f := by
  induction text using text_induction generalizing p with
  | nil => simp at h
  | element e rest fits ih =>
    rw [foundFrom_append fits, List.mem_append, Option.mem_toList] at h
    rcases h with h | h
    · exact ⟨[], e, rest, by simp, fits, h⟩
    · obtain ⟨before, d, after, rfl, fits', hd⟩ := ih h
      exact ⟨e.text ++ before, d, after, by simp, fits', by rw [Place.after_append, hd]⟩

/-- The part of the source that a finding is about. -/
def Finding.span : Finding → Span
  | token found => found.span
  | error found => found.span

theorem span_of_finding? {p : Place} {e : Element} {f : Finding}
    (h : Located.finding? ⟨p, e⟩ = some f) :
    f.span = ⟨p.offset, p.offset + byteLength e.text⟩ := by
  cases e with
  | token kind lexeme | openString body =>
    obtain rfl := Option.some.inj h
    rfl
  | stray c =>
    obtain rfl := Option.some.inj h
    simp [Finding.span, ScanError.span, Region.span, Element.text]
  | blank c | comment body => cases h

theorem token_of_finding? {p : Place} {e : Element} {t : Token}
    (h : Located.finding? ⟨p, e⟩ = some (.token t)) :
    ∃ kind lexeme, e = .token kind lexeme ∧ t = Token.at p kind lexeme := by
  cases e with
  | token kind lexeme => exact ⟨kind, lexeme, rfl, (Finding.token.inj (Option.some.inj h)).symm⟩
  | _ => simp [Located.finding?] at h

theorem text_of_unexpectedCharacter {p : Place} {d : Element} {e : ScanError} {c : Char}
    (h : Located.finding? ⟨p, d⟩ = some (.error e)) (fault : e.fault = .unexpectedCharacter c) :
    d.text = [c] := by
  cases d with
  | stray found =>
    obtain rfl := Finding.error.inj (Option.some.inj h)
    rw [Element.text, Fault.unexpectedCharacter.inj fault]
  | openString body =>
    obtain rfl := Finding.error.inj (Option.some.inj h)
    cases fault
  | _ => simp [Located.finding?] at h

/-! ### Tokens and errors -/

theorem mem_filterMap_token? {fs : List Finding} {t : Token} :
    t ∈ fs.filterMap Finding.token? ↔ .token t ∈ fs := by
  rw [List.mem_filterMap]
  constructor
  · rintro ⟨f, hf, ht⟩
    cases f with
    | token found => exact Option.some.inj ht ▸ hf
    | error found => cases ht
  · exact fun h => ⟨_, h, rfl⟩

theorem mem_filterMap_error? {fs : List Finding} {e : ScanError} :
    e ∈ fs.filterMap Finding.error? ↔ .error e ∈ fs := by
  rw [List.mem_filterMap]
  constructor
  · rintro ⟨f, hf, he⟩
    cases f with
    | token found => cases he
    | error found => exact Option.some.inj he ▸ hf
  · exact fun h => ⟨_, h, rfl⟩

theorem errors_scan (source : String) : (scan source).errors =
    (foundFrom Place.start source.toList).filterMap Finding.error? := by
  rw [Scan.errors, scan, findingsFrom_eq, List.filterMap_append]
  exact List.append_nil _

theorem tokens_scan (source : String) : (scan source).tokens =
    (foundFrom Place.start source.toList).filterMap Finding.token? ++
      [Token.endOfText (Place.start.after source.toList)] := by
  rw [Scan.tokens, scan, findingsFrom_eq, List.filterMap_append]
  rfl

theorem Lexeme.kind_ne_endOfText {kind : Kind} {text : List Char} (h : Lexeme kind text) :
    kind ≠ .endOfText := by
  cases h with
  | fixed h =>
    rintro rfl
    cases h
  | _ => decide

theorem kind_ne_endOfText_of_mem_foundFrom {p : Place} {text : List Char} {t : Token}
    (h : .token t ∈ foundFrom p text) : t.kind ≠ .endOfText := by
  obtain ⟨before, e, after, -, fits, he⟩ := exists_element_of_mem_foundFrom h
  obtain ⟨kind, lexeme, rfl, rfl⟩ := token_of_finding? he
  cases fits with
  | token valid => exact valid.kind_ne_endOfText

end LoxLexer
