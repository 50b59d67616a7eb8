import LoxLexer.Proofs.Scan.Findings
import LoxLexer.Text.Slice
import Mathlib.Data.List.Pairwise

/-!
# Tokens, errors and gaps make up the source

The spans of what a scan finds are apart from each other and in the order of the source, and what
they leave over is blanks and comments. **`scan_partitions`** says so of every source; the stretches
left over are given by the spans alone (`IsGap`), and not by how a scan goes on.
-/

namespace LoxLexer

/-! ### What a scan passes over -/

/-- Blanks and comments in front of the text `after`. A comment ends where its newline follows or
the source is over. -/
inductive Passed : List Char → List Char → Prop where
  /-- Nothing at all. -/
  | nil {after : List Char} : Passed [] after
  /-- A blank and more. -/
  | blank {c : Char} {gap after : List Char} (h : isBlank c = true) (more : Passed gap after) :
      Passed (c :: gap) after
  /-- A comment and more. -/
  | comment {text gap after : List Char} (h : IsComment text)
      (ends : ∀ c ∈ (gap ++ after).head?, c = '\n') (more : Passed gap after) :
      Passed (text ++ gap) after

/-- A stretch of a source that begins at `first` and ends at `last`: it lies between two
neighbouring spans, or before the first or behind the last of them. -/
structure IsGap (spans : List Span) (first last : Nat) (g : Span) : Prop where
  /-- It does not end before it starts. -/
  ordered : g.start ≤ g.stop
  /-- It starts with the source or where a span stops. -/
  left : g.start = first ∨ ∃ s ∈ spans, s.stop = g.start
  /-- It stops with the source or where a span starts. -/
  right : g.stop = last ∨ ∃ s ∈ spans, s.start = g.stop
  /-- No span reaches into it. -/
  free : ∀ s ∈ spans, s.stop ≤ g.start ∨ g.stop ≤ s.start

/-- A gap is one of the spans, in whatever order they are listed. -/
theorem IsGap.of_mem_iff {spans spans' : List Span} {first last : Nat} {g : Span}
    (h : IsGap spans first last g) (same : ∀ s, s ∈ spans ↔ s ∈ spans') :
    IsGap spans' first last g := by
  refine ⟨h.ordered, ?_, ?_, fun s hs => h.free s ((same s).2 hs)⟩
  · simpa only [same] using h.left
  · simpa only [same] using h.right

/-! ### The spans of findings -/

theorem byteLength_pos {text : List Char} (h : text ≠ []) : 0 < byteLength text :=
  Nat.pos_of_ne_zero fun h0 => h (byteLength_eq_zero_iff.1 h0)

/-- What is found in a text lies in it and has at least one byte. -/
theorem span_bounds {p : Place} {text : List Char} {f : Finding} (h : f ∈ foundFrom p text) :
    p.offset ≤ f.span.start ∧ f.span.start < f.span.stop ∧
      f.span.stop ≤ p.offset + byteLength text := by
  obtain ⟨before, e, after, rfl, fits, he⟩ := exists_element_of_mem_foundFrom h
  have hpos := byteLength_pos fits.text_ne_nil
  rw [span_of_finding? he]
  simp only [Place.after, byteLength_append]
  omega

/-- What is found later lies behind what is found before. -/
theorem pairwise_foundFrom (p : Place) (text : List Char) :
    (foundFrom p text).Pairwise fun f g => f.span.stop ≤ g.span.start := by
  induction text using text_induction generalizing p with
  | nil => simp
  | element e rest fits ih =>
    rw [foundFrom_append fits]
    cases he : Located.finding? ⟨p, e⟩ with
    | none => exact ih _
    | some f =>
      refine List.pairwise_cons.2 ⟨fun g hg => ?_, ih _⟩
      rw [span_of_finding? he]
      exact (span_bounds hg).1

theorem Passed.append {p : Place} {e : Element} {gap after : List Char}
    (he : Located.finding? ⟨p, e⟩ = none) (fits : e.Fits (gap ++ after)) (h : Passed gap after) :
    Passed (e.text ++ gap) after := by
  generalize hrest : gap ++ after = rest at fits
  cases fits with
  | blank hb => exact .blank hb h
  | comment line ends =>
    subst hrest
    exact .comment (.line line) ends h
  | _ => simp [Located.finding?] at he

/-- A gap that does not reach into the first of two parts of a text is a gap of the second. -/
theorem IsGap.of_le {own more : List Span} {first middle last : Nat} {g : Span}
    (h : IsGap (own ++ more) first last g) (nonempty : first < middle)
    (extent : ∀ s ∈ own, s = ⟨first, middle⟩) (le : middle ≤ g.start) :
    IsGap more middle last g := by
  refine ⟨h.ordered, ?_, ?_, fun s hs => h.free s (List.mem_append_right _ hs)⟩
  · rcases h.left with hf | ⟨s, hs, hstop⟩
    · omega
    rcases List.mem_append.1 hs with hs | hs
    · rw [extent s hs] at hstop
      exact .inl hstop.symm
    · exact .inr ⟨s, hs, hstop⟩
  · rcases h.right with hl | ⟨s, hs, hstart⟩
    · exact .inl hl
    rcases List.mem_append.1 hs with hs | hs
    · have start : first = g.stop := by rw [← hstart, extent s hs]
      have := h.ordered
      omega
    · exact .inr ⟨s, hs, hstart⟩

/-- A gap that begins before the second part of a text begins with the first. -/
theorem IsGap.start_eq {own more : List Span} {first middle last : Nat} {g : Span}
    (h : IsGap (own ++ more) first last g) (extent : ∀ s ∈ own, s = ⟨first, middle⟩)
    (behind : ∀ s ∈ more, middle ≤ s.start ∧ s.start < s.stop) (lt : g.start < middle) :
    g.start = first := by
  rcases h.left with hf | ⟨s, hs, hstop⟩
  · exact hf
  rcases List.mem_append.1 hs with hs | hs
  · have stop : middle = g.start := by rw [← hstop, extent s hs]
    omega
  · have := behind s hs
    omega

/-- What is left of a gap behind `middle`, where the spans begin, is a gap. -/
theorem IsGap.drop {more : List Span} {first middle last : Nat} {g : Span}
    (h : IsGap more first last g) (behind : ∀ s ∈ more, middle ≤ s.start ∧ s.start < s.stop)
    (le : middle ≤ last) (lt : g.start < middle) : IsGap more middle last ⟨middle, g.stop⟩ := by
  have stop : middle ≤ g.stop := by
    rcases h.right with hl | ⟨s, hs, hstart⟩
    · rwa [hl]
    · rw [← hstart]
      exact (behind s hs).1
  refine ⟨stop, .inl rfl, h.right, fun s hs => .inr ?_⟩
  show g.stop ≤ s.start
  have := h.free s hs
  have := behind s hs
  omega

/-- A stretch that findings leave over is passed over. -/
theorem passed_of_isGap {p : Place} {text : List Char} {g : Span}
    (h : IsGap ((foundFrom p text).map Finding.span) p.offset (p.offset + byteLength text) g) :
    ∃ before gap after, text = before ++ gap ++ after ∧ g.start = p.offset + byteLength before ∧
      g.stop = g.start + byteLength gap ∧ Passed gap after := by
  induction text using text_induction generalizing p g with
  | nil =>
    have hl := h.left
    have hr := h.right
    simp at hl hr
    exact ⟨[], [], [], rfl, by simpa using hl, by simp [hl, hr], .nil⟩
  | element e rest fits ih =>
    have hpos := byteLength_pos fits.text_ne_nil
    have hlast : p.offset + byteLength (e.text ++ rest) =
        (p.after e.text).offset + byteLength rest := by
      simp [Place.after, Nat.add_assoc]
    rw [foundFrom_append fits, List.map_append, hlast] at h
    have extent : ∀ s ∈ ((Located.finding? ⟨p, e⟩).toList.map Finding.span),
        s = ⟨p.offset, (p.after e.text).offset⟩ := by
      intro s hs
      obtain ⟨f, hf, rfl⟩ := List.mem_map.1 hs
      exact span_of_finding? (Option.mem_toList.1 hf)
    have behind : ∀ s ∈ (foundFrom (p.after e.text) rest).map Finding.span,
        (p.after e.text).offset ≤ s.start ∧ s.start < s.stop := by
      intro s hs
      obtain ⟨f, hf, rfl⟩ := List.mem_map.1 hs
      exact ⟨(span_bounds hf).1, (span_bounds hf).2.1⟩
    have hafter : (p.after e.text).offset = p.offset + byteLength e.text := rfl
    by_cases le : (p.after e.text).offset ≤ g.start
    · -- the gap lies in the text after the element
      obtain ⟨before, gap, after, rfl, hs, ht, passed⟩ := ih (h.of_le (by omega) extent le)
      refine ⟨e.text ++ before, gap, after, by simp, ?_, ht, passed⟩
      rw [hs, byteLength_append]
      omega
    · have start := h.start_eq extent behind (by omega)
      cases he : Located.finding? ⟨p, e⟩ with
      | some f =>
        -- the span of the element leaves only the empty gap in front of it
        have hf := h.free f.span (by simp [he])
        rw [span_of_finding? he] at hf
        have := h.ordered
        simp only at hf
        exact ⟨[], [], _, rfl, by simpa using start, by simp; omega, .nil⟩
      | none =>
        -- the element is passed over with the gap of the text after it
        rw [he] at h
        have gap' := h.drop behind (by omega) (by omega)
        obtain ⟨before, gap, after, htext, hs, ht, passed⟩ := ih gap'
        simp only at hs ht
        have hb : before = [] := byteLength_eq_zero_iff.1 (by omega)
        rw [hb, List.nil_append] at htext
        rw [htext] at fits
        refine ⟨[], e.text ++ gap, after, by simp [htext], by simpa using start, ?_, ?_⟩
        · rw [byteLength_append]
          omega
        · exact .append he fits passed

/-! ### Strings that are never closed -/

/-- A string that is never closed is the last error, and reaches to the end of the text. -/
theorem unterminated_last {p : Place} {text : List Char} {before after : List ScanError}
    {e : ScanError}
    (h : (foundFrom p text).filterMap Finding.error? = before ++ e :: after)
    (fault : e.fault = .unterminatedString) : after = [] := by
  induction text using text_induction generalizing p before with
  | nil => simp at h
  | element d rest fits ih =>
    rw [foundFrom_append fits, List.filterMap_append] at h
    cases fits with
    | openString =>
      simp only [Located.finding?, Option.toList_some, foundFrom_nil, List.filterMap_nil,
        List.append_nil, List.filterMap_cons, Finding.error?] at h
      have := congrArg List.length h
      simp only [List.length_append, List.length_cons, List.length_nil] at this
      exact List.eq_nil_of_length_eq_zero (by omega)
    | @stray c _ quote code =>
      cases before with
      | nil =>
        obtain ⟨rfl, -⟩ := List.cons.inj h
        cases fault
      | cons b before => exact ih (List.cons.inj h).2
    | token | blank | comment => exact ih h

/-- Such a string has a quote in front and no other one, and ends with the source. -/
theorem unterminated_text {p : Place} {text : List Char} {e : ScanError}
    (h : .error e ∈ foundFrom p text) (fault : e.fault = .unterminatedString) :
    ∃ before body, text = before ++ '"' :: body ∧ '"' ∉ body ∧
      e.span = ⟨p.offset + byteLength before, p.offset + byteLength text⟩ := by
  obtain ⟨before, d, after, rfl, fits, hd⟩ := exists_element_of_mem_foundFrom h
  have span := span_of_finding? hd
  cases fits with
  | openString quote =>
    refine ⟨before, _, by simp [Element.text], quote, ?_⟩
    rw [List.append_nil, byteLength_append, ← Nat.add_assoc]
    exact span
  | stray =>
    obtain rfl := Finding.error.inj (Option.some.inj hd)
    cases fault
  | token | blank | comment => cases hd

/-! ### The partition -/

/-- The tokens but for the end of the text. -/
def Scan.properTokens (s : Scan) : List Token := s.tokens.filter (·.kind ≠ .endOfText)

/-- The spans of the tokens but for the end of the text, and of the errors. -/
def Scan.spans (s : Scan) : List Span :=
  s.properTokens.map Token.span ++ s.errors.map ScanError.span

/-- No byte lies in both spans. -/
def Span.Apart (a b : Span) : Prop := a.stop ≤ b.start ∨ b.stop ≤ a.start

/-- The tokens and errors of a scan with what lies between them are the source, and nothing is read
twice. -/
structure Scan.Partitions (s : Scan) (source : List Char) : Prop where
  /-- Every span has at least one byte. -/
  nonempty : ∀ span ∈ s.spans, span.start < span.stop
  /-- No two spans have a byte in common. -/
  disjoint : s.spans.Pairwise Span.Apart
  /-- Each token starts before the next. -/
  tokensOrdered : s.tokens.Pairwise fun t u => t.span.start < u.span.start
  /-- Each error starts before the next. -/
  errorsOrdered : s.errors.Pairwise fun d e => d.span.start < e.span.start
  /-- The lexeme of a token is the text at its span. -/
  lexeme : ∀ t ∈ s.tokens, Occurs source t.span t.lexeme.toList
  /-- The span of an unexpected character holds that one character. -/
  character : ∀ e ∈ s.errors, ∀ c, e.fault = .unexpectedCharacter c → Occurs source e.span [c]
  /-- What lies between neighbouring spans, before the first and behind the last is blanks and
  comments. -/
  gaps : ∀ g, IsGap s.spans 0 (byteLength source) g → ∃ before gap after,
    source = before ++ gap ++ after ∧ g.start = byteLength before ∧
      g.stop = byteLength before + byteLength gap ∧ Passed gap after
  /-- The last token, and no other, is the end of the text. -/
  endOfText : ∃ t, s.tokens = s.properTokens ++ [t] ∧ t.kind = .endOfText ∧ t.lexeme = "" ∧
    t.literal = none ∧ t.span = ⟨byteLength source, byteLength source⟩
  /-- A string that is never closed is the last error and the only one of its kind. It begins with
  a quote behind all tokens and takes the rest of the source, where no other quote is. -/
  unterminated : ∀ before e after, s.errors = before ++ e :: after →
    e.fault = .unterminatedString → after = [] ∧ (∀ d ∈ before, d.fault ≠ .unterminatedString) ∧
      (∀ t ∈ s.properTokens, t.span.stop ≤ e.span.start) ∧
      e.span.stop = byteLength source ∧ ∃ body, '"' ∉ body ∧ Occurs source e.span ('"' :: body)

theorem properTokens_scan (source : String) : (scan source).properTokens =
    (foundFrom Place.start source.toList).filterMap Finding.token? := by
  rw [Scan.properTokens, tokens_scan, List.filter_append, List.filter_eq_self.2]
  · simp [Token.endOfText, Token.at]
  · intro t ht
    simpa using kind_ne_endOfText_of_mem_foundFrom (mem_filterMap_token?.1 ht)

theorem mem_properTokens {source : String} {t : Token} :
    t ∈ (scan source).properTokens ↔ .token t ∈ foundFrom Place.start source.toList := by
  rw [properTokens_scan, mem_filterMap_token?]

theorem mem_errors {source : String} {e : ScanError} :
    e ∈ (scan source).errors ↔ .error e ∈ foundFrom Place.start source.toList := by
  rw [errors_scan, mem_filterMap_error?]

theorem mem_spans {source : String} {span : Span} : span ∈ (scan source).spans ↔
    span ∈ (foundFrom Place.start source.toList).map Finding.span := by
  simp only [Scan.spans, List.mem_append, List.mem_map, mem_properTokens, mem_errors]
  constructor
  · rintro (⟨t, ht, rfl⟩ | ⟨e, he, rfl⟩)
    · exact ⟨.token t, ht, rfl⟩
    · exact ⟨.error e, he, rfl⟩
  · rintro ⟨f | f, hf, rfl⟩
    · exact .inl ⟨f, hf, rfl⟩
    · exact .inr ⟨f, hf, rfl⟩

theorem span_apart {p : Place} {text : List Char} {f g : Finding} (hf : f ∈ foundFrom p text)
    (hg : g ∈ foundFrom p text) (ne : f ≠ g) : f.span.Apart g.span := by
  have symm : Std.Symm fun f g : Finding => f.span.Apart g.span := ⟨fun _ _ h => h.symm⟩
  have apart : (foundFrom p text).Pairwise fun f g => f.span.Apart g.span :=
    (pairwise_foundFrom p text).imp .inl
  exact apart.forall hf hg ne

/-- What is found of one sort starts one after the other. -/
theorem pairwise_filterMap_foundFrom {α : Type} {sort : Finding → Option α} {span : α → Span}
    (same : ∀ f a, sort f = some a → f.span = span a) (p : Place) (text : List Char) :
    ((foundFrom p text).filterMap sort).Pairwise fun a b =>
      (span a).start < (span b).start ∧ (span a).Apart (span b) := by
  rw [List.pairwise_filterMap]
  refine (pairwise_foundFrom p text).imp_of_mem fun {f g} hf _ h a ha b hb => ?_
  rw [← same f a ha, ← same g b hb]
  exact ⟨Nat.lt_of_lt_of_le (span_bounds hf).2.1 h, .inl h⟩

theorem span_of_token? (f : Finding) (t : Token) (h : f.token? = some t) : f.span = t.span := by
  cases f with
  | token found => rw [← Option.some.inj h, Finding.span]
  | error found => cases h

theorem span_of_error? (f : Finding) (e : ScanError) (h : f.error? = some e) : f.span = e.span := by
  cases f with
  | token found => cases h
  | error found => rw [← Option.some.inj h, Finding.span]

theorem pairwise_spans (source : String) : (scan source).spans.Pairwise Span.Apart := by
  rw [Scan.spans, List.pairwise_append, List.pairwise_map, List.pairwise_map, properTokens_scan,
    errors_scan]
  refine ⟨(pairwise_filterMap_foundFrom span_of_token? _ _).imp And.right,
    (pairwise_filterMap_foundFrom span_of_error? _ _).imp And.right, ?_⟩
  intro a ha b hb
  obtain ⟨t, ht, rfl⟩ := List.mem_map.1 ha
  obtain ⟨e, he, rfl⟩ := List.mem_map.1 hb
  exact span_apart (mem_filterMap_token?.1 ht) (mem_filterMap_error?.1 he) (by simp)

/-- The tokens start one after the other, the end of the text included. -/
theorem pairwise_tokens (source : String) :
    (scan source).tokens.Pairwise fun t u => t.span.start < u.span.start := by
  rw [tokens_scan, List.pairwise_append]
  refine ⟨(pairwise_filterMap_foundFrom span_of_token? _ _).imp And.left,
    List.pairwise_singleton _ _, ?_⟩
  intro t ht u hu
  have bounds := span_bounds (mem_filterMap_token?.1 ht)
  rw [List.mem_singleton.1 hu]
  exact Nat.lt_of_lt_of_le bounds.2.1 bounds.2.2

theorem occurs_of_mem_foundFrom {text : List Char} {f : Finding}
    (h : f ∈ foundFrom Place.start text) :
    ∃ before e after, Occurs text f.span e.text ∧ e.Fits after ∧
      Located.finding? ⟨Place.start.after before, e⟩ = some f := by
  obtain ⟨before, e, after, rfl, fits, he⟩ := exists_element_of_mem_foundFrom h
  refine ⟨before, e, after, ⟨before, after, rfl, ?_, ?_⟩, fits, he⟩
  · rw [span_of_finding? he]
    exact Nat.zero_add _
  · rw [span_of_finding? he]
    exact congrArg (· + byteLength e.text) (Nat.zero_add _)

/-- **The tokens and errors of every source, with blanks and comments between them, are the source,
and nothing of it is read twice.** -/
theorem scan_partitions (source : String) : (scan source).Partitions source.toList := by
  constructor
  case nonempty =>
    intro span h
    obtain ⟨f, hf, rfl⟩ := List.mem_map.1 (mem_spans.1 h)
    exact (span_bounds hf).2.1
  case disjoint => exact pairwise_spans source
  case tokensOrdered => exact pairwise_tokens source
  case errorsOrdered =>
    rw [errors_scan]
    exact (pairwise_filterMap_foundFrom span_of_error? _ _).imp And.left
  case lexeme =>
    intro t ht
    rw [tokens_scan, List.mem_append, mem_filterMap_token?, List.mem_singleton] at ht
    rcases ht with ht | rfl
    · obtain ⟨before, e, after, occurs, fits, he⟩ := occurs_of_mem_foundFrom ht
      obtain ⟨kind, lexeme, rfl, rfl⟩ := token_of_finding? he
      rw [Token.at, String.toList_ofList]
      exact occurs
    · exact ⟨source.toList, [], by simp [Token.endOfText, Token.at], Nat.zero_add _, Nat.zero_add _⟩
  case character =>
    intro e he c fault
    obtain ⟨before, d, after, occurs, fits, hd⟩ := occurs_of_mem_foundFrom (mem_errors.1 he)
    rwa [text_of_unexpectedCharacter hd fault] at occurs
  case gaps =>
    intro g hg
    have hg' := hg.of_mem_iff fun _ => mem_spans
    rw [← Nat.zero_add (byteLength source.toList)] at hg'
    obtain ⟨before, gap, after, htext, start, stop, passed⟩ :=
      passed_of_isGap (p := Place.start) hg'
    rw [start] at stop
    exact ⟨before, gap, after, htext, start.trans (Nat.zero_add _), stop.trans
      (by rw [Place.start, Nat.zero_add]), passed⟩
  case endOfText =>
    refine ⟨Token.endOfText (Place.start.after source.toList), ?_, rfl, rfl, rfl, ?_⟩
    · rw [properTokens_scan, tokens_scan]
    · simp [Token.endOfText, Token.at, Place.after, Place.start]
  case unterminated =>
    intro before e after h fault
    rw [errors_scan] at h
    have last := unterminated_last h fault
    have he : .error e ∈ foundFrom Place.start source.toList := by
      rw [← mem_filterMap_error?, h]
      exact List.mem_append_right _ List.mem_cons_self
    obtain ⟨front, body, htext, quote, span⟩ := unterminated_text he fault
    rw [Place.start, Nat.zero_add, Nat.zero_add] at span
    refine ⟨last, fun d hd unclosed => ?_, fun t ht => ?_, by rw [span], body, quote, ?_⟩
    · obtain ⟨first, more, rfl⟩ := List.append_of_mem hd
      rw [List.append_assoc, List.cons_append] at h
      simpa using unterminated_last h unclosed
    · have ht' := mem_properTokens.1 ht
      rcases span_apart ht' he (by simp) with apart | apart
      · exact apart
      · have stop : e.span.stop ≤ t.span.start := apart
        have bounds : t.span.start < t.span.stop ∧ t.span.stop ≤ 0 + byteLength source.toList :=
          (span_bounds ht').2
        rw [span] at stop
        simp only at stop
        omega
    · rw [span, htext, byteLength_append]
      exact ⟨front, [], by simp, rfl, rfl⟩

end LoxLexer
