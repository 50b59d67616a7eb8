import LoxLexer.Proofs.Scan.Findings
import LoxLexer.Reader

/-!
# Where a reader stands

At every time the source of a reader is three texts: what is `before` the element that it reads, the
`part` of the element that it has read, and the `rest`. The offsets and lines that the reader keeps
are those of the three texts (`Reader.At`), and its point says what the part looks like
(`Point.Holds`). What it has found, with what a scan finds from the element on, is all that a scan
of the source finds (`Reader.Stands`).
-/

namespace LoxLexer

/-- The shape of the part that is read, by the point of the reader. -/
inductive Point.Holds : Point → List Char → List Char → Prop where
  /-- In front of an element anything may have been read. -/
  | next {part rest : List Char} : next.Holds part rest
  /-- Two slashes and more of the line. -/
  | comment {body rest : List Char} (line : '\n' ∉ body) : comment.Holds ('/' :: '/' :: body) rest
  /-- A quote and text without another one. -/
  | string {body rest : List Char} (free : '"' ∉ body) : string.Holds ('"' :: body) rest
  /-- Text between two quotes. -/
  | closed {body rest : List Char} (free : '"' ∉ body) : closed.Holds ('"' :: body ++ ['"']) rest
  /-- Digits. -/
  | digits {part rest : List Char} (nonempty : part ≠ []) (all : ∀ d ∈ part, d.isDigit = true) :
      digits.Holds part rest
  /-- Digits, a point and digits, of which the first is read or comes next. -/
  | fraction {part more rest : List Char} (nonempty : part ≠ [])
      (all : ∀ d ∈ part, d.isDigit = true) (allMore : ∀ d ∈ more, d.isDigit = true)
      (follows : more = [] → ∃ d ∈ rest.head?, d.isDigit = true) :
      fraction.Holds (part ++ '.' :: more) rest
  /-- The text of a number that is over. -/
  | number {part rest : List Char} (valid : Lexeme .number part)
      (ends : Kind.number.Ends part rest) : number.Holds part rest
  /-- What begins a word. -/
  | word {c : Char} {parts rest : List Char} (start : isWordStart c = true)
      (all : ∀ d ∈ parts, isWordPart d = true) : word.Holds (c :: parts) rest
  /-- Behind everything nothing is left. -/
  | done : done.Holds [] []

/-- Whether an element is begun and not yet over. -/
def Point.isInside : Point → Bool
  | next => false
  | done => false
  | _ => true

/-- What a scan finds from the element on that the reader is in, or in front of. -/
def Point.pending (before part rest : List Char) : Point → List Finding
  | done => []
  | next => findingsFrom (Place.start.after (before ++ part)) rest
  | _ => findingsFrom (Place.start.after before) (part ++ rest)

theorem Point.pending_of_isInside {point : Point} (h : point.isInside = true)
    (before part rest : List Char) :
    point.pending before part rest = findingsFrom (Place.start.after before) (part ++ rest) := by
  cases point <;> first | rfl | cases h

theorem Point.isInside_or (point : Point) :
    point.isInside = true ∨ point = .next ∨ point = .done := by
  cases point <;> simp [isInside]

theorem Point.Holds.ne_nil {point : Point} {part rest : List Char} (h : point.Holds part rest)
    (inside : point.isInside = true) : part ≠ [] := by
  cases h with
  | next | done => cases inside
  | digits nonempty => exact nonempty
  | number valid => exact valid.ne_nil
  | _ => simp

namespace Reader

variable {source rest : List Char} {c : Char} {r : Reader}

theorem advance?_of_unread? (h : r.unread? source = some (c :: rest)) :
    r.advance? source = some (c, { r with current := r.current + c.utf8Size }) := by
  rw [advance?, h]
  rfl

theorem moveTo?_of_unread? (h : r.unread? source = some (c :: rest)) (point : Point) :
    r.moveTo? source point = some { r with point, current := r.current + c.utf8Size } := by
  rw [moveTo?, advance?_of_unread? h]
  rfl

theorem countLine_some (c : Char) (r : Reader) :
    r.countLine (some c) = { r with line := r.line + newlines [c] } := by
  by_cases newline : c = '\n'
  · subst newline
    rfl
  · rw [countLine, if_neg (by simpa using newline), newlines_singleton newline]
    rfl

end Reader

/-! ### Offsets and lines -/

/-- The offsets and lines of a reader are those of the texts before and behind them. -/
structure Reader.At (source before part rest : List Char) (r : Reader) : Prop where
  /-- The three texts are the source. -/
  text : source = before ++ part ++ rest
  /-- The element starts behind the first. -/
  start : r.start = byteLength before
  /-- The reader is behind the second. -/
  current : r.current = byteLength before + byteLength part
  /-- The line of the element counts the newlines before it. -/
  startLine : r.startLine = 1 + newlines before
  /-- The line of the reader counts those of the part too. -/
  line : r.line = 1 + newlines before + newlines part
  /-- No character has been missed. -/
  standIns : r.standIns = 0

namespace Reader.At

variable {source before part rest : List Char} {c : Char} {r r' : Reader}

theorem unread? (h : r.At source before part rest) : r.unread? source = some rest := by
  rw [Reader.unread?, h.current, h.text, ← byteLength_append, splitBytes?_append]
  rfl

theorem peek? (h : r.At source before part rest) : r.peek? source = some rest.head? := by
  rw [Reader.peek?, h.unread?]
  rfl

theorem atEnd_iff (h : r.At source before part rest) : r.atEnd source = true ↔ rest = [] := by
  rw [atEnd, decide_eq_true_iff, h.current, h.text, byteLength_append, byteLength_append,
    ← byteLength_eq_zero_iff]
  omega

theorem not_atEnd (h : r.At source before part (c :: rest)) : r.atEnd source = false := by
  rw [Bool.eq_false_iff, ne_eq, h.atEnd_iff]
  exact List.cons_ne_nil c rest

theorem lexeme? (h : r.At source before part rest) : r.lexeme? source = some part := by
  rw [Reader.lexeme?, slice?_eq_some_iff]
  exact ⟨before, rest, h.text, h.start, h.current⟩

theorem exists_fractionFollows? (h : r.At source before part rest) :
    ∃ follows, r.fractionFollows? source = some follows ∧
      (follows = true ↔ ∃ d after, rest = '.' :: d :: after ∧ d.isDigit = true) := by
  rw [Reader.fractionFollows?, h.unread?]
  refine ⟨_, rfl, ?_⟩
  dsimp only
  split
  · next d after =>
    constructor
    · exact fun digit => ⟨d, after, rfl, digit⟩
    · rintro ⟨e, others, text, digit⟩
      obtain ⟨-, rfl, -⟩ : '.' = '.' ∧ d = e ∧ after = others := by simpa using text
      exact digit
  · next none =>
    constructor
    · rintro ⟨⟩
    · rintro ⟨d, after, rfl, -⟩
      exact absurd rfl (none d after)

theorem matches?_of_head (h : r.At source before part (c :: rest)) :
    r.matches? source c = some (true, { r with current := r.current + c.utf8Size }) := by
  rw [Reader.matches?, h.peek?, Option.map_some, if_pos (by rfl)]

theorem matches?_of_ne (h : r.At source before part rest) (other : rest.head? ≠ some c) :
    r.matches? source c = some (false, r) := by
  rw [Reader.matches?, h.peek?, Option.map_some, if_neg other]

/-- What a reader has noted, and where it goes on, has nothing to do with where it is. -/
theorem goTo (h : r.At source before part rest) (point : Point) (findings : List Finding) :
    { r with point, findings }.At source before part rest :=
  ⟨h.text, h.start, h.current, h.startLine, h.line, h.standIns⟩

/-- Past one more character, the part is longer by it, and the line counts it. -/
theorem read (h : r.At source before part (c :: rest)) (start : r'.start = r.start)
    (current : r'.current = r.current + c.utf8Size) (startLine : r'.startLine = r.startLine)
    (line : r'.line = r.line + newlines [c]) (standIns : r'.standIns = r.standIns) :
    r'.At source before (part ++ [c]) rest := by
  constructor
  case text => rw [h.text, List.append_assoc, List.append_assoc, List.append_assoc,
    List.singleton_append]
  case start => rw [start, h.start]
  case current => rw [current, h.current, byteLength_append, Nat.add_assoc]; rfl
  case startLine => rw [startLine, h.startLine]
  case line => rw [line, h.line, newlines_append, Nat.add_assoc]
  case standIns => rw [standIns, h.standIns]

/-- A token is noted at the place of the element, with what is read of it. -/
theorem note? (h : r.At source before part rest) {kind : Kind} {literal : Option Literal}
    (value : literal = kind.literal? part) : r.note? source kind literal =
      some { r with
        point := .next
        findings := r.findings ++ [.token (Token.at (Place.start.after before) kind part)] } := by
  have place : Token.at (Place.start.after before) kind part =
      ⟨kind, String.ofList part, literal, r.startLine, ⟨r.start, r.current⟩⟩ := by
    rw [value, h.start, h.current, h.startLine]
    simp [Token.at, Place.after, Place.start]
  rw [Reader.note?, h.lexeme?, place]
  rfl

end Reader.At

/-! ### The invariant -/

/-- A reader of a source stands behind the text `before` and the part of an element that it has
read. -/
structure Reader.Stands (source before part rest : List Char) (r : Reader) : Prop extends
    r.At source before part rest where
  /-- The part has the shape that the point tells. -/
  holds : r.point.Holds part rest
  /-- Every element that was begun has at least one character. -/
  rounds : r.rounds ≤ (before ++ part).length
  /-- Nothing is missing from what is found so far, and nothing is too much. -/
  findings : r.findings ++ r.point.pending before part rest = findingsFrom Place.start source

theorem Reader.stands_fresh (source : List Char) : Reader.fresh.Stands source [] [] source where
  text := rfl
  start := rfl
  current := rfl
  startLine := rfl
  line := rfl
  standIns := rfl
  holds := .next
  rounds := Nat.le_refl 0
  findings := rfl

/-- A reader has read a part of the element behind `before`, and noted nothing of it. -/
structure Reader.Reads (source before part rest : List Char) (r : Reader) : Prop extends
    r.At source before part rest where
  /-- Every element that was begun has at least one character. -/
  rounds : r.rounds ≤ (before ++ part).length
  /-- What is found so far lacks what a scan finds from the element on. -/
  findings : r.findings ++ findingsFrom (Place.start.after before) (part ++ rest) =
    findingsFrom Place.start source

namespace Reader

variable {source before part rest : List Char} {c : Char} {r : Reader}

theorem Stands.reads (h : r.Stands source before part rest) (inside : r.point.isInside = true) :
    r.Reads source before part rest where
  toAt := h.toAt
  rounds := h.rounds
  findings := by rw [← Point.pending_of_isInside inside, h.findings]

theorem Reads.stands (h : r.Reads source before part rest) (inside : r.point.isInside = true)
    (holds : r.point.Holds part rest) : r.Stands source before part rest where
  toAt := h.toAt
  holds := holds
  rounds := h.rounds
  findings := by rw [Point.pending_of_isInside inside, h.findings]

/-- Wherever in its program a reader goes on, it has read what it has read. -/
theorem Reads.moved (h : r.Reads source before part rest) (point : Point) :
    { r with point }.Reads source before part rest :=
  ⟨h.goTo point r.findings, h.rounds, h.findings⟩

theorem Reads.read (h : r.Reads source before part (c :: rest)) :
    { r with line := r.line + newlines [c], current := r.current + c.utf8Size }.Reads
      source before (part ++ [c]) rest where
  toAt := h.toAt.read rfl rfl rfl rfl rfl
  rounds := by
    rw [← List.append_assoc, List.length_append]
    exact Nat.le_add_right_of_le h.rounds
  findings := by
    rw [List.append_assoc]
    exact h.findings

/-- When an element is over, what it counts for is noted. -/
theorem Reads.ended {e : Element} {fs : List Finding} (h : r.Reads source before e.text rest)
    (fits : e.Fits rest)
    (noted : fs = r.findings ++ (Located.finding? ⟨Place.start.after before, e⟩).toList) :
    { r with point := .next, findings := fs }.Stands source before e.text rest where
  toAt := h.goTo .next fs
  holds := .next
  rounds := h.rounds
  findings := by
    rw [Point.pending, Place.after_append, noted, List.append_assoc, ← findingsFrom_append fits,
      h.findings]

end Reader

end LoxLexer
