import LoxLexer.Proofs.Reader.Invariant
import LoxLexer.Proofs.Scan.LongestMatch

/-!
# One step of a reader

Wherever a reader stands, it can take a step, and stands again. A step in front of an element begins
this element (`Stands.step?_next`), a step inside of an element reads more of it or ends it
(`Stands.step?_inside`), and behind the last element a step notes the end of the text
(`Stands.step?_end`). Each of them leaves less work than there was (`Point.left`).
-/

namespace LoxLexer

/-- A bound on the steps that are left at a point in front of a text. -/
def Point.left (rest : List Char) : Point → Nat
  | done => 0
  | next => 3 * rest.length + 1
  | digits => 3 * rest.length + 3
  | fraction => 3 * rest.length + 3
  | _ => 3 * rest.length + 2

theorem Point.left_le (point : Point) (rest : List Char) :
    point.left rest ≤ 3 * rest.length + 3 := by
  cases point <;> simp only [left] <;> omega

/-- A character less is more than a point can make up for. -/
theorem Point.left_lt (point : Point) {c : Char} {rest : List Char} {bound : Nat}
    (h : 3 * (c :: rest).length < bound) : point.left rest < bound := by
  have := point.left_le rest
  rw [List.length_cons] at h
  omega

theorem Point.left_eq_zero {point : Point} {rest : List Char} (h : point.left rest = 0) :
    point = .done := by
  cases point with
  | done => rfl
  | _ => cases h

theorem Kind.literal?_ofWord (word lexeme : List Char) :
    (Kind.ofWord word).literal? lexeme = none := by
  unfold Kind.ofWord
  split <;> rfl

theorem Kind.literal?_of_spelling? {kind : Kind} {spelling : String} (lexeme : List Char)
    (h : kind.spelling? = some spelling) : kind.literal? lexeme = none := by
  cases kind with
  | string | number => cases h
  | _ => rfl

namespace Reader

/-- What a step comes to that does not leave the element behind `before`: it does not fail, and the
reader stands in this element or has just ended it, with less work left than a bound. -/
def GoesOn (source before : List Char) (rounds bound : Nat) (result : Option Reader) : Prop :=
  ∃ r part rest, result = some r ∧ r.Stands source before part rest ∧ part ≠ [] ∧
    r.rounds = rounds ∧ r.point.left rest < bound

variable {source before part rest : List Char} {c : Char} {r : Reader} {bound : Nat}

/-! ### What steps are made of -/

theorem Reads.goesOn_at (h : r.Reads source before part rest) (point : Point)
    (inside : point.isInside = true) (holds : point.Holds part rest)
    (less : point.left rest < bound) :
    GoesOn source before r.rounds bound (some { r with point }) :=
  ⟨_, part, rest, rfl, (h.moved point).stands inside holds, holds.ne_nil inside, rfl, less⟩

theorem Reads.goesOn_moveTo? (h : r.Reads source before part (c :: rest)) (newline : c ≠ '\n')
    (point : Point) (inside : point.isInside = true) (holds : point.Holds (part ++ [c]) rest)
    (less : 3 * (c :: rest).length < bound) :
    GoesOn source before r.rounds bound (r.moveTo? source point) := by
  have read := h.read
  rw [newlines_singleton newline] at read
  rw [moveTo?_of_unread? h.unread?]
  exact read.goesOn_at point inside holds (point.left_lt less)

/-- To end the element, with what it counts for. -/
theorem Reads.goesOn_over {e : Element} {fs : List Finding} (h : r.Reads source before e.text rest)
    (fits : e.Fits rest)
    (noted : fs = r.findings ++ (Located.finding? ⟨Place.start.after before, e⟩).toList)
    (less : 3 * rest.length + 1 < bound) :
    GoesOn source before r.rounds bound (some { r with point := .next, findings := fs }) :=
  ⟨_, e.text, rest, rfl, h.ended fits noted, fits.text_ne_nil, rfl, less⟩

theorem Reads.goesOn_skip {e : Element} (h : r.Reads source before e.text rest)
    (fits : e.Fits rest) (nothing : Located.finding? ⟨Place.start.after before, e⟩ = none)
    (less : 3 * rest.length + 1 < bound) :
    GoesOn source before r.rounds bound (some { r with point := .next }) :=
  h.goesOn_over fits (by rw [nothing]; exact (List.append_nil _).symm) less

theorem Reads.goesOn_report {e : Element} {fault : Fault} (h : r.Reads source before e.text rest)
    (fits : e.Fits rest) (counts : Located.finding? ⟨Place.start.after before, e⟩ =
      some (.error ⟨fault, ((Place.start.after before).after e.text).line,
        ⟨(Place.start.after before).offset, byteLength e.text⟩⟩))
    (less : 3 * rest.length + 1 < bound) :
    GoesOn source before r.rounds bound (some (r.report fault)) := by
  refine h.goesOn_over fits ?_ less
  rw [counts, h.start, h.current, h.line, Nat.add_sub_cancel_left]
  simp [Place.after, Place.start]

theorem Reads.goesOn_note? {kind : Kind} {literal : Option Literal}
    (h : r.Reads source before part rest) (valid : Lexeme kind part) (ends : kind.Ends part rest)
    (value : literal = kind.literal? part) (less : 3 * rest.length + 1 < bound) :
    GoesOn source before r.rounds bound (r.note? source kind literal) := by
  rw [h.note? value]
  exact Reads.goesOn_over (e := .token kind part) h (.token valid ends) rfl less

theorem Reads.goesOn_fixed {kind : Kind} (h : r.Reads source before part rest)
    (spelling : kind.spelling? = some (String.ofList part)) (ends : kind.Ends part rest)
    (less : 3 * rest.length + 1 < bound) :
    GoesOn source before r.rounds bound (r.note? source kind none) :=
  h.goesOn_note? (.of_spelling? spelling) ends (Kind.literal?_of_spelling? part spelling).symm less

/-! ### Inside of an element -/

/-- A comment goes on up to a newline, which is left. -/
theorem Reads.goesOn_comment {body : List Char}
    (h : r.Reads source before ('/' :: '/' :: body) rest) (line : '\n' ∉ body) :
    GoesOn source before r.rounds (3 * rest.length + 2) (r.stepComment? source) := by
  have ended (ends : ∀ d ∈ rest.head?, d = '\n') :
      GoesOn source before r.rounds (3 * rest.length + 2) (some { r with point := .next }) :=
    Reads.goesOn_skip (e := .comment body) h (.comment line ends) rfl (by omega)
  rw [stepComment?, h.peek?]
  cases rest with
  | nil => simpa [h.atEnd_iff.2 rfl] using ended
  | cons c rest =>
    by_cases newline : c = '\n'
    · simpa [newline] using ended (by simp [newline])
    · have longer : '\n' ∉ body ++ [c] := by simp [line, Ne.symm newline]
      have goes := h.goesOn_moveTo? newline .comment rfl (.comment longer)
        (Nat.lt_add_of_pos_right Nat.two_pos)
      simpa [newline, h.not_atEnd] using goes

/-- A string goes on up to a quote, or is never closed. -/
theorem Reads.goesOn_string {body : List Char} (h : r.Reads source before ('"' :: body) rest)
    (free : '"' ∉ body) :
    GoesOn source before r.rounds (3 * rest.length + 2) (r.stepString? source) := by
  rw [stepString?, h.peek?]
  cases rest with
  | nil =>
    have ended := Reads.goesOn_report (e := .openString body) h (.openString free) rfl
      (Nat.lt_succ_self _)
    simpa [h.atEnd_iff.2 rfl] using ended
  | cons c rest =>
    have less : 3 * (c :: rest).length < 3 * (c :: rest).length + 2 := by omega
    by_cases quote : c = '"'
    · subst quote
      have goes := h.goesOn_moveTo? (by decide) .closed rfl (.closed free) less
      simpa [h.not_atEnd] using goes
    · have longer : '"' ∉ body ++ [c] := by simp [free, Ne.symm quote]
      -- the line is counted before the character is taken, so the reader is nowhere in between
      have unread : (r.countLine (some c)).unread? source = some (c :: rest) := h.unread?
      have goes := h.read.goesOn_at .string rfl (.string longer) (Point.left_lt _ less)
      have step := moveTo?_of_unread? unread .string
      rw [countLine_some] at step
      simpa [quote, h.not_atEnd, countLine_some, step] using goes

/-- Behind a string its value, which stands between the quotes, can be cut out. -/
theorem At.slice?_value {body : List Char}
    (h : r.At source before ('"' :: body ++ ['"']) rest) :
    1 ≤ r.current ∧ r.start + 1 ≤ r.current - 1 ∧
      slice? source (r.start + 1) (r.current - 1) = some body := by
  have quote : byteLength ['"'] = 1 := rfl
  have current : r.current = byteLength before + (1 + byteLength body + 1) := by
    rw [h.current, ← List.singleton_append, byteLength_append, byteLength_append, quote]
  refine ⟨by omega, by rw [h.start]; omega, ?_⟩
  rw [slice?_eq_some_iff]
  refine ⟨before ++ ['"'], '"' :: rest, ?_, ?_, ?_⟩
  · simp [h.text]
  · rw [h.start, byteLength_append, quote]
  · rw [byteLength_append, quote]
    simp only
    omega

/-- The step behind a string notes it with its value. -/
theorem Reads.goesOn_closed {body : List Char}
    (h : r.Reads source before ('"' :: body ++ ['"']) rest) (free : '"' ∉ body) :
    GoesOn source before r.rounds (3 * rest.length + 2) (r.stepClosed? source) := by
  rw [stepClosed?, h.slice?_value.2.2]
  exact h.goesOn_note? (.string free) (.of_isClosed rfl) (by simp [Kind.literal?])
    (Nat.lt_succ_self _)

/-- A run of a class of characters, which goes on as long as characters of the class follow. -/
theorem Reads.goesOn_run {p : Char → Bool} {result : Option Reader}
    (h : r.Reads source before part rest) (newline : p '\n' = false) (point : Point)
    (inside : point.isInside = true)
    (holds : ∀ c more, p c = true → point.Holds (part ++ [c]) more)
    (ended : (∀ c ∈ rest.head?, p c = false) → GoesOn source before r.rounds bound result)
    (less : 3 * rest.length < bound) : GoesOn source before r.rounds bound
      (if rest.head?.any p then r.moveTo? source point else result) := by
  split
  · next first =>
    cases rest with
    | nil => cases first
    | cons c rest =>
      have other : c ≠ '\n' := by
        rintro rfl
        exact absurd first (by simp [newline])
      exact h.goesOn_moveTo? other point inside (holds c rest first) less
  · next none =>
    refine ended fun c hc => ?_
    rw [Option.mem_def.1 hc] at none
    simpa using none

/-- Digits go on as long as digits follow, or a point and a digit. -/
theorem Reads.goesOn_digits (h : r.Reads source before part rest) (nonempty : part ≠ [])
    (all : ∀ d ∈ part, d.isDigit = true) :
    GoesOn source before r.rounds (3 * rest.length + 3) (r.stepDigits? source) := by
  rw [stepDigits?, h.peek?, Option.bind_eq_bind, Option.bind_some]
  refine h.goesOn_run rfl .digits rfl (fun c more digit => .digits (by simp) ?_) (fun ends => ?_)
    (by omega)
  · simpa [or_imp, forall_and] using ⟨all, digit⟩
  obtain ⟨follows, hfollows, fraction⟩ := h.exists_fractionFollows?
  rw [hfollows, Option.bind_eq_bind, Option.bind_some]
  cases follows with
  | true =>
    obtain ⟨d, after, rfl, digit⟩ := fraction.1 rfl
    refine h.goesOn_moveTo? (by decide) .fraction rfl
      (.fraction nonempty all (by simp) fun _ => ⟨d, rfl, digit⟩) (by omega)
  | false =>
    -- the number is over: no digit follows, and no point with a digit behind it
    refine h.goesOn_at .number rfl (.number (.whole nonempty all) (.of_number ends ?_))
      (Nat.lt_succ_self _)
    intro _ d after text
    rw [Bool.eq_false_iff]
    exact fun digit => Bool.false_ne_true (fraction.2 ⟨d, after, text, digit⟩)

theorem Reads.goesOn_fraction {more : List Char}
    (h : r.Reads source before (part ++ '.' :: more) rest) (nonempty : part ≠ [])
    (all : ∀ d ∈ part, d.isDigit = true)
    (allMore : ∀ d ∈ more, d.isDigit = true)
    (follows : more = [] → ∃ d ∈ rest.head?, d.isDigit = true) :
    GoesOn source before r.rounds (3 * rest.length + 3) (r.stepFraction? source) := by
  rw [stepFraction?, h.peek?, Option.bind_eq_bind, Option.bind_some]
  refine h.goesOn_run rfl .fraction rfl (fun c rest' digit => ?_) (fun ends => ?_) (by omega)
  · rw [List.append_assoc, List.cons_append]
    exact .fraction nonempty all (by simpa [or_imp, forall_and] using ⟨allMore, digit⟩) (by simp)
  · have nonemptyMore : more ≠ [] := by
      intro none
      obtain ⟨d, hd, digit⟩ := follows none
      rw [ends d hd] at digit
      cases digit
    exact h.goesOn_at .number rfl
      (.number (.decimal nonempty all nonemptyMore allMore) (.of_number ends (by simp)))
      (Nat.lt_succ_self _)

/-- The step behind a number converts its text, which is that of a number. -/
theorem Reads.goesOn_number (h : r.Reads source before part rest) (valid : Lexeme .number part)
    (ends : Kind.number.Ends part rest) :
    GoesOn source before r.rounds (3 * rest.length + 2) (r.stepNumber? source) := by
  obtain ⟨d, hd⟩ := valid.exists_read?
  rw [stepNumber?, h.lexeme?, Option.bind_eq_bind, Option.bind_some, hd, Option.bind_eq_bind,
    Option.bind_some]
  exact h.goesOn_note? valid ends (by rw [Kind.literal?, hd, Option.map_some])
    (Nat.lt_succ_self _)

theorem Reads.goesOn_word {parts : List Char} (h : r.Reads source before (c :: parts) rest)
    (start : isWordStart c = true) (all : ∀ d ∈ parts, isWordPart d = true) :
    GoesOn source before r.rounds (3 * rest.length + 2) (r.stepWord? source) := by
  rw [stepWord?, h.peek?, Option.bind_eq_bind, Option.bind_some]
  refine h.goesOn_run rfl .word rfl (fun d more part => ?_) (fun ends => ?_) (by omega)
  · exact .word start (by simpa [or_imp, forall_and] using ⟨all, part⟩)
  · rw [h.lexeme?, Option.bind_eq_bind, Option.bind_some]
    exact h.goesOn_note? (.ofWord start all) (.of_isWord (Kind.isWord_ofWord _) ends)
      (Kind.literal?_ofWord _ _).symm (Nat.lt_succ_self _)

/-- **Inside of an element every step reads more of it or ends it.** -/
theorem Stands.step?_inside (h : r.Stands source before part rest)
    (inside : r.point.isInside = true) :
    GoesOn source before r.rounds (r.point.left rest) (r.step? source) := by
  have reads := h.reads inside
  have holds := h.holds
  rw [step?]
  generalize r.point = point at inside holds
  cases holds with
  | next | done => cases inside
  | comment line => exact reads.goesOn_comment line
  | string free => exact reads.goesOn_string free
  | closed free => exact reads.goesOn_closed free
  | digits nonempty all => exact reads.goesOn_digits nonempty all
  | fraction nonempty all allMore follows =>
    exact reads.goesOn_fraction nonempty all allMore follows
  | number valid ends => exact reads.goesOn_number valid ends
  | word start all => exact reads.goesOn_word start all

/-! ### In front of an element -/

theorem Stands.begin (h : r.Stands source before part (c :: rest)) (point : r.point = .next) :
    { r.begin with line := r.line + newlines [c], current := r.current + c.utf8Size }.Reads
      source (before ++ part) [c] rest where
  text := by rw [h.text, List.append_assoc _ [c], List.singleton_append]
  start := by rw [byteLength_append, ← h.current]; rfl
  current := by rw [byteLength_append, ← h.current]; rfl
  startLine := by rw [newlines_append, ← Nat.add_assoc, ← h.line]; rfl
  line := by rw [newlines_append, ← Nat.add_assoc, ← h.line]
  standIns := h.standIns
  rounds := by
    rw [List.length_append]
    exact Nat.succ_le_succ h.rounds
  findings := by
    rw [← h.findings, point]
    rfl

/-- A single operator, or the same with the `=` that follows it. -/
theorem Reads.goesOn_operator {plain joined : Kind} (h : r.Reads source before [c] rest)
    (operator : Kind.ofOperator? c = some (plain, joined)) :
    GoesOn source before r.rounds (3 * rest.length + 4) (do
      let (found, r) ← r.matches? source '='
      r.note? source (if found then joined else plain) none) := by
  obtain ⟨⟨plainText, takes⟩, joinedText, closed⟩ := Kind.spelling?_of_ofOperator? operator
  by_cases equal : rest.head? = some '='
  · obtain ⟨after, rfl⟩ := List.head?_eq_some_iff.1 equal
    have read := h.read
    rw [newlines_singleton (by decide)] at read
    rw [h.matches?_of_head]
    refine read.goesOn_fixed joinedText (.of_isClosed closed) ?_
    rw [List.length_cons]
    omega
  · rw [h.matches?_of_ne equal]
    exact h.goesOn_fixed plainText (.of_takesEqual takes equal) (by omega)

/-- A slash, or the two slashes that begin a comment. -/
theorem Reads.goesOn_slash (h : r.Reads source before ['/'] rest) :
    GoesOn source before r.rounds (3 * rest.length + 4) (do
      let (found, r) ← r.matches? source '/'
      if found then some { r with point := .comment } else r.note? source .slash none) := by
  by_cases slash : rest.head? = some '/'
  · obtain ⟨after, rfl⟩ := List.head?_eq_some_iff.1 slash
    have read := h.read
    rw [newlines_singleton (by decide)] at read
    rw [h.matches?_of_head]
    exact read.goesOn_at .comment rfl (.comment (List.not_mem_nil))
      (Point.left_lt _ (Nat.lt_add_of_pos_right (by decide)))
  · rw [h.matches?_of_ne slash]
    exact h.goesOn_fixed rfl (.of_slash slash) (by omega)

/-- The first character of an element decides how it goes on, or is the whole of it. -/
theorem Reads.goesOn_dispatch? (point : r.point = .next)
    (h : { r with line := r.line + newlines [c] }.Reads source before [c] rest) :
    GoesOn source before r.rounds (3 * rest.length + 4) (r.dispatch? source c) := by
  have same : c ≠ '\n' → r.Reads source before [c] rest := by
    intro newline
    rw [newlines_singleton newline] at h
    exact h
  rw [dispatch?]
  split
  · next kind symbol =>
    have newline : c ≠ '\n' := by rintro rfl; cases symbol
    obtain ⟨spelling, closed⟩ := Kind.spelling?_of_ofSymbol? symbol
    exact (same newline).goesOn_fixed spelling (.of_isClosed closed) (by omega)
  next symbol =>
  split
  · next operator =>
    have newline : c ≠ '\n' := by rintro rfl; cases operator
    exact (same newline).goesOn_operator operator
  next operator =>
  split_ifs with slash quote newline blank digit start
  · subst slash
    exact (same (by decide)).goesOn_slash
  · subst quote
    exact (same (by decide)).goesOn_at .string rfl (.string List.not_mem_nil) (by simp [Point.left])
  · subst newline
    have ended := Reads.goesOn_skip (e := .blank '\n') h (.blank rfl) rfl
      (Nat.lt_add_of_pos_right (Nat.succ_pos 2))
    rw [← point] at ended
    exact ended
  · have ended := Reads.goesOn_skip (e := .blank c) (same newline) (.blank blank) rfl
      (Nat.lt_add_of_pos_right (Nat.succ_pos 2))
    rw [← point] at ended
    exact ended
  · have all : ∀ d ∈ [c], d.isDigit = true := by simpa using digit
    exact (same newline).goesOn_at .digits rfl (.digits (List.cons_ne_nil c []) all)
      (by simp [Point.left])
  · exact (same newline).goesOn_at .word rfl (.word start (by simp)) (by simp [Point.left])
  · have code := not_isCodeChar symbol operator slash blank digit start
    refine Reads.goesOn_report (e := .stray c) (same newline) (.stray quote code) ?_ (by omega)
    simp [Located.finding?, Element.text, Place.after, newlines_singleton newline]

/-- **In front of an element a step begins this element.** -/
theorem Stands.step?_next (h : r.Stands source before part (c :: rest)) (point : r.point = .next) :
    GoesOn source (before ++ part) (r.rounds + 1) (r.point.left (c :: rest)) (r.step? source) := by
  have unread : r.begin.unread? source = some (c :: rest) := h.unread?
  have step : r.step? source =
      { r.begin with current := r.current + c.utf8Size }.dispatch? source c := by
    rw [step?, point]
    simp only [stepNext?, h.not_atEnd, advance?_of_unread? unread]
    rfl
  rw [step, point]
  exact Reads.goesOn_dispatch? point (h.begin point)

/-- **Behind the last element a step notes the end of the text.** -/
theorem Stands.step?_end (h : r.Stands source before part []) (point : r.point = .next) :
    ∃ r', r.step? source = some r' ∧ r'.Stands source source [] [] ∧ r'.point = .done ∧
      r'.rounds = r.rounds := by
  obtain rfl : source = before ++ part := by rw [h.text, List.append_nil]
  have ended : r.atEnd (before ++ part) = true := h.atEnd_iff.2 rfl
  have behind : { r with start := r.current, startLine := r.line }.At
      (before ++ part) (before ++ part) [] [] := by
    refine ⟨by simp, ?_, ?_, ?_, ?_, h.standIns⟩
    · rw [byteLength_append, ← h.current]
    · rw [byteLength_append, ← h.current]
      rfl
    · rw [newlines_append, ← Nat.add_assoc, ← h.line]
    · rw [newlines_append, ← Nat.add_assoc, ← h.line]
      rfl
  have value : (none : Option Literal) = Kind.endOfText.literal? [] := rfl
  have noted := behind.note? value
  have step : r.step? (before ++ part) = some { r with
      point := .done
      start := r.current
      startLine := r.line
      findings := r.findings ++
        [.token (Token.endOfText (Place.start.after (before ++ part)))] } := by
    rw [step?, point]
    simp only [stepNext?, ended, noted]
    rfl
  refine ⟨_, step, ⟨?_, .done, ?_, ?_⟩, rfl, rfl⟩
  · exact behind.goTo .done _
  · rw [List.append_nil]
    exact h.rounds
  · have findings := h.findings
    rw [point, Point.pending, findingsFrom_eq, foundFrom_nil] at findings
    rw [← findings]
    exact List.append_nil _

end Reader

end LoxLexer
