import LoxLexer.Text.Lines

/-!
# Lines that begin with a given text

Whether a line of a text begins with a given text can be told without cutting the text into lines:
the text begins so, or has a newline with that directly behind it: **`filter_lines_eq_nil_iff`**.
The lemmas before it say where a short text can occur in one that is put together of parts.
-/

namespace LoxLexer

variable {c d : Char} {p a b : List Char}

/-! ### Occurrences in parts of a text -/

theorem prefix_append_cons_iff (h : c ∉ p) : p <+: a ++ c :: b ↔ p <+: a := by
  induction a generalizing p with
  | nil =>
    cases p with
    | nil => simp
    | cons e p =>
      rw [List.mem_cons, not_or] at h
      simp [List.cons_prefix_cons, Ne.symm h.1]
  | cons e a ih =>
    cases p with
    | nil => simp
    | cons e' p =>
      rw [List.mem_cons, not_or] at h
      rw [List.cons_append, List.cons_prefix_cons, List.cons_prefix_cons, ih h.2]

theorem infix_append_cons_iff (h : c ∉ p) : p <:+: a ++ c :: b ↔ p <:+: a ∨ p <:+: b := by
  induction a with
  | nil =>
    rw [List.nil_append, List.infix_cons_iff]
    exact or_congr_left (by
      rw [← List.nil_append (c :: b), prefix_append_cons_iff h, List.prefix_nil, List.infix_nil])
  | cons e a ih =>
    rw [List.cons_append, List.infix_cons_iff, List.infix_cons_iff, ih, or_assoc,
      ← List.cons_append, prefix_append_cons_iff h]

/-- What begins with a character does not begin in a text without it. -/
theorem infix_append_iff_of_not_mem (h : c ∉ a) : c :: p <:+: a ++ b ↔ c :: p <:+: b := by
  induction a with
  | nil => rfl
  | cons e a ih =>
    rw [List.mem_cons, not_or] at h
    rw [List.cons_append, List.infix_cons_iff, ih h.2, List.cons_prefix_cons]
    simp [h.1]

/-- What ends with its only occurrence of a character begins a text up to the first one, whatever
comes behind that. -/
theorem prefix_append_singleton_iff (h : c ∉ p) :
    p ++ [c] <+: a ++ c :: b ↔ p ++ [c] <+: a ++ [c] := by
  induction a generalizing p with
  | nil =>
    cases p with
    | nil => simp
    | cons e p =>
      rw [List.mem_cons, not_or] at h
      simp [List.cons_prefix_cons, Ne.symm h.1]
  | cons e a ih =>
    cases p with
    | nil => simp [List.cons_prefix_cons]
    | cons e' p =>
      rw [List.mem_cons, not_or] at h
      simp only [List.cons_append, List.cons_prefix_cons, ih h.2]

/-- The same within a text, if behind the character another one is missing. -/
theorem infix_append_singleton_iff (h : c ∉ p) (needs : d ∈ p) (missing : d ∉ b) :
    p ++ [c] <:+: a ++ c :: b ↔ p ++ [c] <:+: a ++ [c] := by
  induction a with
  | nil =>
    have behind : ¬ p ++ [c] <:+: b := fun occurs =>
      missing (occurs.subset (List.mem_append_left _ needs))
    have nowhere : ¬ p ++ [c] <:+: [] := by simp
    simp only [List.nil_append, List.infix_cons_iff, behind, nowhere]
    exact or_congr_left (prefix_append_singleton_iff (a := []) h)
  | cons e a ih =>
    rw [List.cons_append, List.cons_append, List.infix_cons_iff, List.infix_cons_iff, ih]
    exact or_congr_left (prefix_append_singleton_iff (a := e :: a) h)

/-! ### Segments and lines -/

/-- A segment begins with a text if all begins with it or a mark is followed by it. -/
theorem exists_prefix_segments_iff {mark : Char} (h : mark ∉ p) (text : List Char) :
    (∃ l ∈ segments mark text, p <+: l) ↔ p <+: text ∨ mark :: p <:+: text := by
  by_cases marked : mark ∈ text
  · obtain ⟨first, rest, rfl, single⟩ := List.eq_append_cons_of_mem marked
    have ih := exists_prefix_segments_iff h rest
    rw [segments_append_mark, segments_of_not_mem single, prefix_append_cons_iff h,
      infix_append_iff_of_not_mem single, List.infix_cons_iff, List.cons_prefix_cons]
    simp [ih]
  · have none : ¬ mark :: p <:+: text := fun occurs => marked (occurs.subset List.mem_cons_self)
    simp [segments_of_not_mem marked, none]
termination_by text.length
decreasing_by
  subst_vars
  simp
  omega

/-- **None of the lines that a newline ends begins with a text** if what they make up does not, and
holds no newline with that text behind it. -/
theorem filter_lines_eq_nil_iff (h : '\n' ∉ p) (text : List Char) :
    (lines (text ++ ['\n'])).filter p.isPrefixOf = [] ↔ ¬ p <+: text ∧ ¬ '\n' :: p <:+: text := by
  rw [lines_append_newline, lines_nil, List.append_nil, List.filter_eq_nil_iff, ← not_or,
    ← exists_prefix_segments_iff h]
  simp

end LoxLexer
