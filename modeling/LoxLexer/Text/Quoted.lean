import LoxLexer.Text.Class

/-!
# Quoted text

A text between double quotes, in which every quote, backslash and character without a shape of its
own is written as an escape, so that the quoted text is a single line and ends at its last quote.
-/

namespace LoxLexer

/-- The escape of a character by its code point, in hexadecimal digits between curly brackets. -/
def codePointEscape (c : Char) : List Char :=
  ['\\', 'u', '\x7b'] ++ Nat.toDigits 16 c.toNat ++ ['\x7d']

/-- A character as it is written between quotes. -/
def quotedChar (c : Char) : List Char :=
  match c with
  | '\x00' => ['\\', '0']
  | '\t' => ['\\', 't']
  | '\n' => ['\\', 'n']
  | '\r' => ['\\', 'r']
  | '"' => ['\\', '"']
  | '\\' => ['\\', '\\']
  | _ => if isGraphic c then [c] else codePointEscape c

/-- A text between quotes. -/
def quoted (text : List Char) : List Char := '"' :: text.flatMap quotedChar ++ ['"']

/-! ### Single lines -/

theorem newline_not_mem_toDigits {base : Nat} (two : 1 < base) (le : base ≤ 16) (n : Nat) :
    '\n' ∉ Nat.toDigits base n := by
  have digit : ∀ d < 16, '\n' ≠ Nat.digitChar d := by decide
  induction n using Nat.strongRecOn with
  | ind n ih =>
    by_cases small : n < base
    · rw [Nat.toDigits_of_lt_base small, List.mem_singleton]
      exact digit n (by omega)
    · have last := Nat.mod_lt n (show 0 < base by omega)
      rw [Nat.toDigits_of_base_le two (by omega), List.mem_append, List.mem_singleton, not_or]
      exact ⟨ih _ (Nat.div_lt_self (by omega) two), digit _ (by omega)⟩

theorem newline_not_mem_quotedChar (c : Char) : '\n' ∉ quotedChar c := by
  have escape : '\n' ∉ codePointEscape c := by
    simpa [codePointEscape] using newline_not_mem_toDigits (by decide) (Nat.le_refl 16) c.toNat
  unfold quotedChar
  split <;> try decide
  split
  · rw [List.mem_singleton]
    rintro rfl
    contradiction
  · exact escape

/-- **A quoted text is a single line.** -/
theorem newline_not_mem_quoted (text : List Char) : '\n' ∉ quoted text := by
  simp [quoted, newline_not_mem_quotedChar]

end LoxLexer
