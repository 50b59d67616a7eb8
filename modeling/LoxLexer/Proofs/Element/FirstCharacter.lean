import LoxLexer.FaultAutomaton
import LoxLexer.Grammar.Written

/-!
# Which element begins with a character

The first character of a text decides by which rule its first element is cut. The classes of first
characters are disjoint, so each rule applies to its whole class (`cut_of_isWordStart`,
`cut_of_isDigit`, `cut_of_isBlank`, `cut_of_not_isCodeChar`), whatever follows.
-/

namespace LoxLexer

/-! ### Runs of characters -/

theorem takeWhile_of_head {p : Char → Bool} {rest : List Char}
    (h : ∀ c ∈ rest.head?, p c = false) : rest.takeWhile p = [] ∧ rest.dropWhile p = rest := by
  rcases rest with _ | ⟨c, rest⟩
  · exact ⟨rfl, rfl⟩
  · simp [h c rfl]

theorem takeWhile_append_of_head {p : Char → Bool} {run rest : List Char}
    (all : ∀ c ∈ run, p c = true) (h : ∀ c ∈ rest.head?, p c = false) :
    (run ++ rest).takeWhile p = run := by
  rw [List.takeWhile_append_of_pos all, (takeWhile_of_head h).1, List.append_nil]

theorem dropWhile_append_of_head {p : Char → Bool} {run rest : List Char}
    (all : ∀ c ∈ run, p c = true) (h : ∀ c ∈ rest.head?, p c = false) :
    (run ++ rest).dropWhile p = rest := by
  rw [List.dropWhile_append_of_pos all, (takeWhile_of_head h).2]

theorem head_dropWhile (p : Char → Bool) (text : List Char) :
    ∀ c ∈ (text.dropWhile p).head?, p c = false := by
  intro c hc
  have := List.head?_dropWhile_not p text
  rw [Option.mem_def] at hc
  rw [hc] at this
  exact this

theorem of_mem_takeWhile {p : Char → Bool} {text : List Char} {c : Char}
    (h : c ∈ text.takeWhile p) : p c = true :=
  List.all_eq_true.1 (List.all_takeWhile (l := text)) c h

theorem mark_not_mem_takeWhile (mark : Char) (text : List Char) :
    mark ∉ text.takeWhile (· != mark) := by
  intro h
  simpa using of_mem_takeWhile h

theorem ne_mark_of_not_mem {mark : Char} {text : List Char} (h : mark ∉ text) :
    ∀ c ∈ text, (c != mark) = true := by
  intro c hc
  rw [bne_iff_ne]
  rintro rfl
  exact h hc

/-! ### Classes of first characters -/

theorem Kind.ofSymbol?_of_isWordPart {c : Char} (h : isWordPart c = true) :
    Kind.ofSymbol? c = none := by
  unfold Kind.ofSymbol?
  split
  all_goals first | rfl | exact absurd h (by decide)

theorem Kind.ofOperator?_of_isWordPart {c : Char} (h : isWordPart c = true) :
    Kind.ofOperator? c = none := by
  unfold Kind.ofOperator?
  split
  all_goals first | rfl | exact absurd h (by decide)

theorem not_isBlank_of_isWordPart {c : Char} (h : isWordPart c = true) : isBlank c = false := by
  rw [Bool.eq_false_iff, ne_eq, isBlank_iff]
  rintro (rfl | rfl | rfl | rfl) <;> exact absurd h (by decide)

theorem not_isDigit_of_isWordStart {c : Char} (h : isWordStart c = true) : c.isDigit = false := by
  rw [Bool.eq_false_iff]
  intro hd
  rw [isWordStart, Bool.or_eq_true, decide_eq_true_eq] at h
  rcases h with h | rfl
  · have digit : c.toNat ≤ 57 := (Char.isDigit_iff_toNat.1 hd).2
    have letter : 65 ≤ c.toNat := by
      rcases Bool.or_eq_true_iff.1 h with upper | lower
      · exact UInt32.le_iff_toNat_le.1 (of_decide_eq_true upper).1
      · have := of_decide_eq_true (Bool.and_eq_true_iff.1 lower).1
        exact Nat.le_trans (by decide) (UInt32.le_iff_toNat_le.1 this)
    exact absurd (Nat.le_trans letter digit) (by decide)
  · exact absurd hd (by decide)

theorem isWordPart_of_isWordStart {c : Char} (h : isWordStart c = true) : isWordPart c = true := by
  rw [isWordPart_eq, h, Bool.true_or]

theorem isWordPart_of_isDigit {c : Char} (h : c.isDigit = true) : isWordPart c = true := by
  rw [isWordPart_eq, h, Bool.or_true]

/-- What means something in code, by the rule that it begins an element with. -/
theorem isCodeChar_iff {c : Char} :
    isCodeChar c = true ↔ isWordPart c = true ∨ isBlank c = true ∨ (Kind.ofSymbol? c).isSome ∨
      (Kind.ofOperator? c).isSome ∨ c = '/' := by
  have marks : ∀ d : Char, d ∈ "()\x7b\x7d,.-+;*/!=<>".toList ↔
      (Kind.ofSymbol? d).isSome ∨ (Kind.ofOperator? d).isSome ∨ d = '/' := by
    intro d
    constructor
    · intro h
      have all : "()\x7b\x7d,.-+;*/!=<>".toList.all (fun d => (Kind.ofSymbol? d).isSome ||
          (Kind.ofOperator? d).isSome || d = '/') = true := by decide
      simpa [or_assoc] using List.all_eq_true.1 all d h
    · unfold Kind.ofSymbol? Kind.ofOperator?
      rintro (h | h | rfl)
      · split at h <;> first | decide | simp at h
      · split at h <;> first | decide | simp at h
      · decide
  rw [isCodeChar, Bool.or_eq_true, Bool.or_eq_true, List.contains_iff_mem, marks, or_assoc]

theorem not_isCodeChar {c : Char} (symbol : Kind.ofSymbol? c = none)
    (operator : Kind.ofOperator? c = none) (slash : c ≠ '/') (blank : ¬ isBlank c = true)
    (digit : ¬ c.isDigit = true) (start : ¬ isWordStart c = true) : isCodeChar c = false := by
  rw [Bool.eq_false_iff, ne_eq, isCodeChar_iff, isWordPart_eq]
  simp [symbol, operator, slash, blank, digit, start]

namespace Element

/-! ### The rule that applies -/

theorem cut_of_isWordStart {c : Char} (h : isWordStart c = true) (rest : List Char) :
    cut c rest = cutWord c rest := by
  have hp := isWordPart_of_isWordStart h
  have slash : c ≠ '/' := by rintro rfl; exact absurd h (by decide)
  have quote : c ≠ '"' := by rintro rfl; exact absurd h (by decide)
  rw [cut, Kind.ofSymbol?_of_isWordPart hp, Kind.ofOperator?_of_isWordPart hp]
  simp [slash, quote, not_isBlank_of_isWordPart hp, not_isDigit_of_isWordStart h, h]

theorem cut_of_isDigit {c : Char} (h : c.isDigit = true) (rest : List Char) :
    cut c rest = cutNumber c rest := by
  have hp := isWordPart_of_isDigit h
  have slash : c ≠ '/' := by rintro rfl; exact absurd h (by decide)
  have quote : c ≠ '"' := by rintro rfl; exact absurd h (by decide)
  rw [cut, Kind.ofSymbol?_of_isWordPart hp, Kind.ofOperator?_of_isWordPart hp]
  simp [slash, quote, not_isBlank_of_isWordPart hp, h]

theorem cut_slash (rest : List Char) : cut '/' rest = cutSlash rest := rfl

theorem cut_quote (rest : List Char) : cut '"' rest = cutString rest := rfl

theorem cut_of_isBlank {c : Char} (h : isBlank c = true) (rest : List Char) :
    cut c rest = (blank c, rest) := by
  rw [isBlank_iff] at h
  rcases h with rfl | rfl | rfl | rfl <;> rfl

theorem cut_of_not_isCodeChar {c : Char} (quote : c ≠ '"') (h : isCodeChar c = false)
    (rest : List Char) : cut c rest = (stray c, rest) := by
  rw [Bool.eq_false_iff, ne_eq, isCodeChar_iff] at h
  simp only [not_or, Bool.not_eq_true, Option.isSome_eq_false_iff, Option.isNone_iff_eq_none] at h
  obtain ⟨part, blank, symbol, operator, slash⟩ := h
  rw [isWordPart_eq, Bool.or_eq_false_iff] at part
  rw [cut, symbol, operator]
  simp [slash, quote, blank, part.1, part.2]

end Element

end LoxLexer
