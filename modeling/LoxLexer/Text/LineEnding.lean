import LoxLexer.Text.Place

/-!
# Line endings

The same text with a carriage return in front of every newline.
-/

namespace LoxLexer

/-- Puts a carriage return in front of every newline. -/
def withReturns (text : List Char) : List Char :=
  text.flatMap fun c => if c = '\n' then ['\r', '\n'] else [c]

@[simp] theorem withReturns_nil : withReturns [] = [] := rfl

@[simp] theorem withReturns_append (s t : List Char) :
    withReturns (s ++ t) = withReturns s ++ withReturns t := by
  simp [withReturns]

@[simp] theorem withReturns_newline (text : List Char) :
    withReturns ('\n' :: text) = '\r' :: '\n' :: withReturns text := rfl

theorem withReturns_cons {c : Char} (h : c ≠ '\n') (text : List Char) :
    withReturns (c :: text) = c :: withReturns text := by
  simp [withReturns, h]

theorem withReturns_of_not_mem {text : List Char} (h : '\n' ∉ text) : withReturns text = text := by
  induction text with
  | nil => rfl
  | cons c rest ih =>
    rw [List.mem_cons, not_or] at h
    rw [withReturns_cons (Ne.symm h.1), ih h.2]

theorem mem_withReturns {c : Char} {text : List Char} (h : c ≠ '\r') :
    c ∈ withReturns text ↔ c ∈ text := by
  induction text with
  | nil => rfl
  | cons d rest ih =>
    by_cases newline : d = '\n'
    · subst newline
      simp [ih, h]
    · rw [withReturns_cons newline, List.mem_cons, List.mem_cons, ih]

/-- A text with returns begins with a return, or with the same character as without. -/
theorem exists_of_withReturns_eq_cons {c : Char} {text after : List Char}
    (h : withReturns text = c :: after) (other : c ≠ '\r') :
    ∃ rest, text = c :: rest ∧ after = withReturns rest := by
  cases text with
  | nil => cases h
  | cons d rest =>
    by_cases newline : d = '\n'
    · subst newline
      exact absurd (List.cons.inj h).1.symm other
    · rw [withReturns_cons newline] at h
      obtain ⟨rfl, rfl⟩ := List.cons.inj h
      exact ⟨rest, rfl, rfl⟩

theorem newlines_withReturns (text : List Char) : newlines (withReturns text) = newlines text := by
  simp only [newlines]
  induction text with
  | nil => rfl
  | cons c rest ih =>
    by_cases newline : c = '\n'
    · subst newline
      simp [ih]
    · rw [withReturns_cons newline, List.count_cons, List.count_cons, ih]

end LoxLexer
