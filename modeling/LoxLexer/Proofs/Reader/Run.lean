import LoxLexer.Proofs.Reader.Step
import LoxLexer.Proofs.Scan.Faults

/-!
# Runs of a reader

What holds after every step holds at every time: a reader always stands somewhere in its source
(`Stands.run?`). Every step leaves less work, so a reader comes to the end of the element that it is
in (`GoesOn.exists_over`) and to the end of the source (`Stands.exists_done`), where it has found
what a scan finds (`Reader.run?_scan`). **`reader_safe`** is what follows for the offsets of the
reader, the texts that it cuts out and the number of its rounds.
-/

namespace LoxLexer

namespace Reader

variable {source before part rest : List Char} {r : Reader}

/-! ### Runs -/

theorem run?_of_done (source : List Char) (h : r.point = .done) (steps : Nat) :
    run? source steps r = some r := by
  induction steps with
  | zero => rfl
  | succ steps ih => rw [run?, step?, h, Option.bind_some, ih]

/-- Wherever a reader stands it can take a step and stands again, with less work left unless it is
done. -/
theorem Stands.exists_step? (h : r.Stands source before part rest) :
    ∃ r' before' part' rest', r.step? source = some r' ∧ r'.Stands source before' part' rest' ∧
      (r.point ≠ .done → r'.point.left rest' < r.point.left rest) := by
  rcases r.point.isInside_or with inside | next | done
  · obtain ⟨r', part', rest', step, stands, -, -, less⟩ := h.step?_inside inside
    exact ⟨r', before, part', rest', step, stands, fun _ => less⟩
  · cases rest with
    | nil =>
      obtain ⟨r', step, stands, done, -⟩ := h.step?_end next
      refine ⟨r', source, [], [], step, stands, fun _ => ?_⟩
      rw [done, next]
      exact Nat.zero_lt_succ _
    | cons c rest =>
      obtain ⟨r', part', rest', step, stands, -, -, less⟩ := h.step?_next next
      exact ⟨r', before ++ part, part', rest', step, stands, fun _ => less⟩
  · refine ⟨r, before, part, rest, ?_, h, absurd done⟩
    rw [step?, done]

/-- **At every time a reader stands somewhere in its source.** -/
theorem Stands.run? (h : r.Stands source before part rest) (steps : Nat) :
    ∃ r' before' part' rest', Reader.run? source steps r = some r' ∧
      r'.Stands source before' part' rest' := by
  induction steps generalizing r before part rest with
  | zero => exact ⟨r, before, part, rest, rfl, h⟩
  | succ steps ih =>
    obtain ⟨r₁, before₁, part₁, rest₁, step, stands, -⟩ := h.exists_step?
    rw [Reader.run?, step, Option.bind_some]
    exact ih stands

theorem Stands.nothing_left (h : r.Stands source before part rest) (point : r.point = .done) :
    part = [] ∧ rest = [] := by
  have holds := h.holds
  rw [point] at holds
  cases holds
  exact ⟨rfl, rfl⟩

/-- **A reader is done after some steps.** -/
theorem Stands.exists_done (h : r.Stands source before part rest) {steps : Nat}
    (enough : r.point.left rest ≤ steps) :
    ∃ r' before', Reader.run? source steps r = some r' ∧ r'.Stands source before' [] [] ∧
      r'.point = .done := by
  induction steps generalizing r before part rest with
  | zero =>
    have point : r.point = .done := Point.left_eq_zero (Nat.le_zero.1 enough)
    obtain ⟨rfl, rfl⟩ := h.nothing_left point
    exact ⟨r, before, rfl, h, point⟩
  | succ steps ih =>
    by_cases point : r.point = .done
    · obtain ⟨rfl, rfl⟩ := h.nothing_left point
      exact ⟨r, before, run?_of_done source point _, h, point⟩
    · obtain ⟨r₁, before₁, part₁, rest₁, step, stands, less⟩ := h.exists_step?
      rw [Reader.run?, step, Option.bind_some]
      exact ih stands (Nat.le_of_lt_succ (Nat.lt_of_lt_of_le (less point) enough))

/-- **A reader comes to the end of the element that it is in.** -/
theorem GoesOn.exists_over {rounds bound : Nat} {result : Option Reader}
    (h : GoesOn source before rounds bound result) :
    ∃ steps r part rest, result.bind (Reader.run? source steps) = some r ∧
      r.Stands source before part rest ∧ r.point = .next ∧ part ≠ [] ∧ r.rounds = rounds := by
  -- on the work left: a step inside of the element goes on with it, with less work left
  induction bound using Nat.strongRecOn generalizing result with
  | ind bound ih =>
    obtain ⟨r, part, rest, rfl, stands, nonempty, rfl, less⟩ := h
    rcases r.point.isInside_or with inside | next | done
    · obtain ⟨steps, r', part', rest', run, ended⟩ := ih _ less (stands.step?_inside inside)
      exact ⟨steps + 1, r', part', rest', run, ended⟩
    · exact ⟨0, r, part, rest, rfl, stands, next, nonempty, rfl⟩
    · exact absurd (stands.nothing_left done).1 nonempty

/-! ### A whole run -/

/-- The steps after which a reader of a source is done for certain. -/
def enough (source : List Char) : Nat := 3 * source.length + 1

theorem exists_stands {steps : Nat} (run : Reader.run? source steps fresh = some r) :
    ∃ before part rest, r.Stands source before part rest := by
  obtain ⟨r', before, part, rest, run', stands⟩ := (stands_fresh source).run? steps
  obtain rfl : r' = r := Option.some.inj (run'.symm.trans run)
  exact ⟨before, part, rest, stands⟩

/-- When a reader is done, it has found what a scan finds. -/
theorem Stands.findings_of_done {source : String} (h : r.Stands source.toList before part rest)
    (point : r.point = .done) : r.findings = (scan source).findings := by
  have findings := h.findings
  rw [point, Point.pending, List.append_nil] at findings
  exact findings

/-- **A reader finds what a scan finds.** -/
theorem run?_scan (source : String) :
    ∃ r, Reader.run? source.toList (enough source.toList) fresh = some r ∧ r.point = .done ∧
      r.findings = (scan source).findings := by
  obtain ⟨r, before, run, stands, point⟩ :=
    (stands_fresh source.toList).exists_done (Nat.le_refl (enough source.toList))
  exact ⟨r, run, point, stands.findings_of_done point⟩

/-- What is true of a reader at every time. -/
structure Safe (source : List Char) (r : Reader) : Prop where
  /-- The element starts between two characters of the source. -/
  start : Boundary source r.start
  /-- The next character does too. -/
  current : Boundary source r.current
  /-- The element does not start behind the next character, which is not behind the end. -/
  order : r.start ≤ r.current ∧ r.current ≤ byteLength source
  /-- No character was missed. -/
  standIns : r.standIns = 0
  /-- There were at most as many rounds as the source has characters. -/
  rounds : r.rounds ≤ source.length
  /-- Behind a string its value can be cut out. -/
  value : r.point = .closed → 1 ≤ r.current ∧ r.start + 1 ≤ r.current - 1 ∧
    ∃ value, slice? source (r.start + 1) (r.current - 1) = some value
  /-- Behind a number its text is that of a number and can be converted. -/
  number : r.point = .number → ∃ lexeme d, r.lexeme? source = some lexeme ∧
    Lexeme .number lexeme ∧ Decimal.read? lexeme = some d

theorem Stands.safe (h : r.Stands source before part rest) : r.Safe source := by
  have current : r.current = byteLength (before ++ part) := by rw [byteLength_append, h.current]
  constructor
  case start => exact ⟨before, part ++ rest, by rw [h.text, List.append_assoc], h.start⟩
  case current => exact ⟨before ++ part, rest, h.text, current⟩
  case order =>
    rw [h.start, h.current, h.text, byteLength_append, byteLength_append]
    omega
  case standIns => exact h.standIns
  case rounds =>
    rw [h.text, List.length_append]
    exact Nat.le_add_right_of_le h.rounds
  case value =>
    intro point
    have holds := h.holds
    rw [point] at holds
    cases holds with
    | @closed body _ free =>
      obtain ⟨one, order, value⟩ := h.slice?_value
      exact ⟨one, order, body, value⟩
  case number =>
    intro point
    have holds := h.holds
    rw [point] at holds
    cases holds with
    | number valid =>
      obtain ⟨d, hd⟩ := valid.exists_read?
      exact ⟨part, d, h.lexeme?, valid, hd⟩

end Reader

/-- Reading a source is safe, and comes to an end. -/
structure ReadsSafely (source : String) : Prop where
  /-- No step fails, and every reader that is reached is safe. -/
  reached : ∀ steps, ∃ r, Reader.run? source.toList steps .fresh = some r ∧ r.Safe source.toList
  /-- Where a character is left, a round reads an element, which has this character at least. -/
  forward : ∀ steps r, Reader.run? source.toList steps .fresh = some r → r.point = .next →
    r.current < byteLength source.toList → ∃ before c part rest more r',
      source.toList = before ++ c :: part ++ rest ∧ r.current = byteLength before ∧
      Reader.run? source.toList more r = some r' ∧ r'.point = .next ∧
      r'.current = byteLength (before ++ c :: part) ∧ r'.rounds = r.rounds + 1
  /-- Where none is left, no further round is begun. -/
  stops : ∀ steps r, Reader.run? source.toList steps .fresh = some r → r.point = .next →
    r.current = byteLength source.toList →
      ∃ r', r.step? source.toList = some r' ∧ r'.point = .done ∧ r'.rounds = r.rounds
  /-- After a number of steps the reader is done, and has found what a scan finds. -/
  ends : ∃ r, Reader.run? source.toList (Reader.enough source.toList) .fresh = some r ∧
    r.point = .done ∧ r.findings = (scan source).findings
  /-- A NUL is text of a string or of a comment, or it is reported. -/
  nul : ∀ before after, source.toList = before ++ '\x00' :: after →
    ⟨.unexpectedCharacter '\x00', 1 + newlines before, ⟨byteLength before, 1⟩⟩ ∈
        (scan source).errors ∨
      ∃ l ∈ locate Place.start (elements source.toList), l.element.isVerbatim = true ∧
        ∃ pre post, l.element.text = pre ++ '\x00' :: post ∧
          l.place.offset + byteLength pre = byteLength before

/-- **Reading a source never fails and always ends.** -/
theorem reader_safe (source : String) : ReadsSafely source := by
  constructor
  case reached =>
    intro steps
    obtain ⟨r, before, part, rest, run, reached⟩ :=
      (Reader.stands_fresh source.toList).run? steps
    exact ⟨r, run, reached.safe⟩
  case forward =>
    intro steps r run point left
    obtain ⟨before, part, rest, reached⟩ := Reader.exists_stands run
    cases rest with
    | nil => exact absurd (reached.atEnd_iff.2 rfl) (by simpa [Reader.atEnd] using left)
    | cons c rest =>
      obtain ⟨more, r', part', rest', ended, reached', next, nonempty, rounds⟩ :=
        (reached.step?_next point).exists_over
      obtain ⟨d, part', rfl⟩ := List.exists_cons_of_ne_nil nonempty
      exact ⟨before ++ part, d, part', rest', more + 1, r', reached'.text,
        by rw [byteLength_append, reached.current], ended, next,
        by rw [byteLength_append, reached'.current], rounds⟩
  case stops =>
    intro steps r run point none
    obtain ⟨before, part, rest, reached⟩ := Reader.exists_stands run
    obtain rfl : rest = [] := reached.atEnd_iff.1 (decide_eq_true (Nat.le_of_eq none.symm))
    obtain ⟨r', step, -, done, rounds⟩ := reached.step?_end point
    exact ⟨r', step, done, rounds⟩
  case ends => exact Reader.run?_scan source
  case nul => exact fun before after h => unexpected_or_verbatim h (by decide)

end LoxLexer
