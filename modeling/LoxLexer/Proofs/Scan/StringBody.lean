import LoxLexer.Proofs.Scan.Restart
import Mathlib.Data.List.Forall2

/-!
# What stands between quotes

The text of a string influences nothing but that string. A quote ends every element before it,
whatever follows (`Element.Fits.of_quote`), so the elements in front of a string do not depend on
its text (`elements_before_quote`); and behind its closing quote a scan goes on as from a fresh
start. Hence **`scan_string_body`**: other text between the quotes of a string changes this token,
and moves what comes after it.
-/

namespace LoxLexer

/-! ### The elements around a string -/

/-- What fits in front of a quote fits in front of it whatever comes after the quote. -/
theorem Element.Fits.of_quote {e : Element} {mid x : List Char} (fits : e.Fits (mid ++ '"' :: x))
    (y : List Char) : e.Fits (mid ++ '"' :: y) := by
  have head : (mid ++ '"' :: y).head? = (mid ++ '"' :: x).head? := by cases mid <;> rfl
  generalize hrest : mid ++ '"' :: x = rest at fits head
  cases fits with
  | token valid ends =>
    have same : ∀ c ∈ (mid ++ '"' :: y).head?, isBlank c = true ∨ c ∈ rest.head? :=
      fun c hc => .inr (head ▸ hc)
    refine .token valid (ends.of_lookahead same fun d after hd digit => ?_)
    -- a quote is no digit, so a point and a digit behind the element stand in front of the quote
    rcases mid with _ | ⟨first, _ | ⟨second, mid⟩⟩
    · cases hd
    · obtain ⟨-, rfl, -⟩ : first = '.' ∧ '"' = d ∧ y = after := by simpa using hd
      cases digit
    · obtain ⟨rfl, rfl, -⟩ : first = '.' ∧ second = d ∧ mid ++ '"' :: y = after := by simpa using hd
      exact ⟨mid ++ '"' :: x, hrest.symm⟩
  | blank h => exact .blank h
  | comment line ends => exact .comment line (head ▸ ends)
  | stray quote h => exact .stray quote h
  | openString => simp at hrest

/-- The elements in front of a quote do not depend on what comes after it. -/
theorem elements_before_quote {es : List Element} {x y : List Char}
    (h : elements (es.flatMap Element.text ++ '"' :: x) = es ++ elements ('"' :: x)) :
    elements (es.flatMap Element.text ++ '"' :: y) = es ++ elements ('"' :: y) := by
  induction es with
  | nil => rfl
  | cons e es ih =>
    have nonempty : e.text ≠ [] := text_ne_nil_of_mem_elements (by rw [h]; simp)
    rw [List.flatMap_cons, List.append_assoc, List.cons_append,
      elements_append_eq_cons_iff nonempty] at h ⊢
    exact ⟨h.1.of_quote y, ih h.2⟩

/-- The text of a string with this body. -/
def stringText (body : List Char) : List Char := '"' :: body ++ ['"']

theorem byteLength_stringText (body : List Char) :
    byteLength (stringText body) = byteLength body + 2 := by
  have quote : '"'.utf8Size = 1 := rfl
  simp only [stringText, byteLength_append, byteLength_cons, byteLength_nil, quote]
  omega

theorem newlines_stringText (body : List Char) : newlines (stringText body) = newlines body := by
  simp [newlines, stringText]

theorem Token.at_stringText (p : Place) (body : List Char) :
    Token.at p .string (stringText body) =
      ⟨.string, "\"" ++ String.ofList body ++ "\"", some (.text (String.ofList body)), p.line,
        ⟨p.offset, p.offset + byteLength body + 2⟩⟩ := by
  have lexeme : String.ofList (stringText body) = "\"" ++ String.ofList body ++ "\"" := by
    rw [← String.toList_inj]
    simp [stringText]
  have value : (stringText body).tail.dropLast = body := by simp [stringText]
  rw [Token.at, lexeme, Kind.literal?, value, byteLength_stringText]
  rfl

theorem elements_stringText {body : List Char} (h : '"' ∉ body) (after : List Char) :
    elements (stringText body ++ after) = .token .string (stringText body) :: elements after :=
  elements_append (e := .token .string (stringText body)) (.token (.string h) (.of_isClosed rfl))

/-- Around a string, the elements stay when its text is replaced. -/
theorem elements_around_string {es : List Element} {body body' after : List Char}
    (h : elements (es.flatMap Element.text ++ stringText body ++ after) =
      es ++ .token .string (stringText body) :: elements after)
    (free : '"' ∉ body) (free' : '"' ∉ body') :
    elements (es.flatMap Element.text ++ stringText body' ++ after) =
      es ++ .token .string (stringText body') :: elements after := by
  rw [List.append_assoc, ← elements_stringText free] at h
  rw [List.append_assoc, ← elements_stringText free']
  exact elements_before_quote h

/-- A string token comes from an element with a body between quotes, with elements around it. -/
theorem exists_string_of_mem_tokens {source : String} {t : Token} (h : t ∈ (scan source).tokens)
    (kind : t.kind = .string) : ∃ es body after, '"' ∉ body ∧
      source.toList = es.flatMap Element.text ++ stringText body ++ after ∧
      elements source.toList = es ++ .token .string (stringText body) :: elements after ∧
      t = Token.at (Place.start.after (es.flatMap Element.text)) .string (stringText body) := by
  rw [tokens_scan, List.mem_append, mem_filterMap_token?, List.mem_singleton] at h
  rcases h with h | rfl
  · obtain ⟨es, e, fs, cut, he⟩ := exists_cut_of_mem_found h
    obtain ⟨_, lexeme, rfl, rfl⟩ := token_of_finding? he
    obtain rfl := kind
    obtain ⟨fits, behind⟩ := fits_of_cut cut
    have whole := text_cut_elements cut
    rw [List.flatMap_cons, ← List.append_assoc] at whole
    cases fits with
    | token valid ends =>
      cases valid with
      | fixed spelling => cases spelling
      | @string body free =>
        exact ⟨es, body, fs.flatMap Element.text, free, whole, by rw [cut, behind]; rfl, rfl⟩
  · cases kind

/-! ### The scans -/

/-- Two scans that differ in one token only: what comes before it is the same, and what comes behind
it is moved by some bytes and lines. -/
structure Scan.DifferIn (s s' : Scan) (t t' : Token) (bytes lines : Int) : Prop where
  /-- The tokens before it are the same, and those behind it are moved. -/
  tokens : ∃ front back back', s.tokens = front ++ t :: back ∧ s'.tokens = front ++ t' :: back' ∧
    List.Forall₂ (Token.MovedBy bytes lines) back back'
  /-- The errors before it are the same, and those behind it are moved. -/
  errors : ∃ front back back', s.errors = front ++ back ∧ s'.errors = front ++ back' ∧
    (∀ e ∈ front, e.span.start < t.span.start) ∧ (∀ e ∈ back, t.span.stop ≤ e.span.start) ∧
    List.Forall₂ (ScanError.MovedBy bytes lines) back back'

/-- What is found around a string: the elements before it, the string, and what is found from its
closing quote on. -/
theorem findings_around_string {es : List Element} {body after : List Char} (free : '"' ∉ body)
    (h : elements (es.flatMap Element.text ++ stringText body ++ after) =
      es ++ .token .string (stringText body) :: elements after) :
    findingsFrom Place.start (es.flatMap Element.text ++ stringText body ++ after) =
      found Place.start es ++
        .token (Token.at (Place.start.after (es.flatMap Element.text)) .string (stringText body)) ::
          findingsFrom (Place.start.after (es.flatMap Element.text ++ stringText body)) after := by
  have fits : (Element.token .string (stringText body)).Fits after :=
    .token (.string free) (.of_isClosed rfl)
  rw [findingsFrom_cut h, List.flatMap_cons, text_elements, findingsFrom_append fits,
    Place.after_append]
  rfl

/-- Scans that find the same before a token, and the same text behind it at different distances. -/
theorem Scan.differIn_of_findings {s s' : Scan} {front back : List Finding} {t t' : Token}
    {stop stop' lines lines' : Nat}
    (hs : s.findings = front ++ .token t :: back.map (Finding.shift stop lines))
    (hs' : s'.findings = front ++ .token t' :: back.map (Finding.shift stop' lines'))
    (before : ∀ f ∈ front, f.span.start < t.span.start) (behind : t.span.stop = stop) :
    s.DifferIn s' t t' (stop' - stop) (lines' - lines) := by
  have tokens : ∀ ts : List Token, List.Forall₂ (Token.MovedBy (stop' - stop) (lines' - lines))
      (ts.map (Token.shift stop lines)) (ts.map (Token.shift stop' lines')) := by
    intro ts
    rw [List.forall₂_map_left_iff, List.forall₂_map_right_iff, List.forall₂_same]
    exact fun u _ => u.movedBy_shift ..
  have errors : ∀ es : List ScanError,
      List.Forall₂ (ScanError.MovedBy (stop' - stop) (lines' - lines))
        (es.map (ScanError.shift stop lines)) (es.map (ScanError.shift stop' lines')) := by
    intro es
    rw [List.forall₂_map_left_iff, List.forall₂_map_right_iff, List.forall₂_same]
    exact fun e _ => e.movedBy_shift ..
  constructor
  case tokens =>
    refine ⟨front.filterMap Finding.token?, _, _, ?_, ?_, tokens (back.filterMap Finding.token?)⟩
    · rw [Scan.tokens, hs, List.filterMap_append, ← Finding.filterMap_token?_shift]
      rfl
    · rw [Scan.tokens, hs', List.filterMap_append, ← Finding.filterMap_token?_shift]
      rfl
  case errors =>
    refine ⟨front.filterMap Finding.error?, _, _, ?_, ?_, fun e he => ?_, fun e he => ?_,
      errors (back.filterMap Finding.error?)⟩
    · rw [Scan.errors, hs, List.filterMap_append, ← Finding.filterMap_error?_shift]
      rfl
    · rw [Scan.errors, hs', List.filterMap_append, ← Finding.filterMap_error?_shift]
      rfl
    · exact before _ (mem_filterMap_error?.1 he)
    · obtain ⟨d, -, rfl⟩ := List.mem_map.1 he
      rw [behind]
      exact Nat.le_add_left _ _

/-- **The text between the quotes of a string influences this token only.** With any other text
there, all tokens and errors before the string are the same, the string has the same place and line
and the new text, and what comes behind it is moved by the difference of the bytes and of the
newlines. -/
theorem scan_string_body (source : String) (t : Token) (ht : t ∈ (scan source).tokens)
    (kind : t.kind = .string) (new : String) (free : '"' ∉ new.toList) :
    ∃ before body after : String, source = before ++ "\"" ++ body ++ "\"" ++ after ∧
      t.span = ⟨byteLength before.toList, byteLength before.toList + byteLength body.toList + 2⟩ ∧
      (scan source).DifferIn (scan (before ++ "\"" ++ new ++ "\"" ++ after)) t
        ⟨.string, "\"" ++ new ++ "\"", some (.text new), t.line,
          ⟨t.span.start, t.span.start + byteLength new.toList + 2⟩⟩
        (byteLength new.toList - byteLength body.toList)
        (newlines new.toList - newlines body.toList) := by
  obtain ⟨es, body, after, closed, text, cut, rfl⟩ := exists_string_of_mem_tokens ht kind
  let front := es.flatMap Element.text
  have whole : source = String.ofList front ++ "\"" ++ String.ofList body ++ "\"" ++
      String.ofList after := by
    rw [← String.toList_inj, text]
    simp [front, stringText]
  have replaced : (String.ofList front ++ "\"" ++ new ++ "\"" ++ String.ofList after).toList =
      front ++ stringText new.toList ++ after := by
    simp [stringText]
  have offset : (Place.start.after front).offset = byteLength front := Nat.zero_add _
  have before : ∀ f ∈ found Place.start es, f.span.start < (Place.start.after front).offset := by
    intro f hf
    exact Nat.lt_of_lt_of_eq (start_lt_of_mem_found cut hf) offset.symm
  rw [text] at cut
  have found := findings_around_string closed cut
  have found' := findings_around_string free (elements_around_string cut closed free)
  rw [findingsFrom_after, Token.at_stringText] at found found'
  rw [String.ofList_toList] at found'
  refine ⟨String.ofList front, String.ofList body, String.ofList after, whole, ?_, ?_⟩
  · rw [Token.at_stringText, offset, String.toList_ofList, String.toList_ofList]
  · have stop : byteLength front + byteLength body + 2 = byteLength (front ++ stringText body) := by
      rw [byteLength_append, byteLength_stringText, Nat.add_assoc]
    have bytes : (byteLength (front ++ stringText new.toList) : Int) -
        byteLength (front ++ stringText body) = byteLength new.toList - byteLength body := by
      simp only [byteLength_append, byteLength_stringText]
      omega
    have lines : (newlines (front ++ stringText new.toList) : Int) -
        newlines (front ++ stringText body) = newlines new.toList - newlines body := by
      simp only [newlines_append, newlines_stringText]
      omega
    rw [Token.at_stringText, String.toList_ofList, ← bytes, ← lines]
    exact Scan.differIn_of_findings (by rw [scan, text, found]) (by rw [scan, replaced, found'])
      before (by rw [← stop, offset])

/-- What begins a comment stays text between quotes, and the string behind it, which is never
closed, moves down a line. -/
theorem scan_string_body_comment :
    let t : Token := ⟨.string, "\"a\"", some (.text "a"), 1, ⟨1, 4⟩⟩
    (t ∈ (scan "@\"a\"é\"").tokens ∧ t.kind = .string ∧ '"' ∉ "//\né".toList) ∧
      ∃ before body after : String, "@\"a\"é\"" = before ++ "\"" ++ body ++ "\"" ++ after ∧
        t.span = ⟨byteLength before.toList, byteLength before.toList + byteLength body.toList + 2⟩ ∧
        (scan "@\"a\"é\"").DifferIn (scan (before ++ "\"" ++ "//\né" ++ "\"" ++ after)) t
          ⟨.string, "\"//\né\"", some (.text "//\né"), 1, ⟨1, 8⟩⟩
          (byteLength "//\né".toList - byteLength body.toList)
          (newlines "//\né".toList - newlines body.toList) := by
  intro t
  have mem : t ∈ (scan "@\"a\"é\"").tokens := by decide +kernel
  have free : '"' ∉ "//\né".toList := by decide
  exact ⟨⟨mem, rfl, free⟩, scan_string_body _ t mem rfl "//\né" free⟩

end LoxLexer
