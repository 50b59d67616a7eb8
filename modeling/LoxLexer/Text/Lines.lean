/-!
# Segments and lines

A text cut at every occurrence of a character, and the lines of a text. A line ends at a newline,
and at nothing else; text after the last newline is a line too, unless there is none.
-/

namespace LoxLexer

/-- Puts a character in front of the first segment, or begins a segment if it is the mark. -/
def segmentStep (mark c : Char) (segments : List (List Char)) : List (List Char) :=
  if c = mark then [] :: segments
  else match segments with
    | [] => [[c]]
    | first :: later => (c :: first) :: later

/-- The text between marks, before the first and after the last one included. -/
def segments (mark : Char) (text : List Char) : List (List Char) :=
  text.foldr (segmentStep mark) [[]]

@[simp] theorem segments_nil (mark : Char) : segments mark [] = [[]] := rfl

@[simp] theorem segments_mark (mark : Char) (rest : List Char) :
    segments mark (mark :: rest) = [] :: segments mark rest := by
  simp [segments, segmentStep]

theorem segments_ne_nil (mark : Char) (text : List Char) : segments mark text ≠ [] := by
  cases text with
  | nil => simp
  | cons c rest =>
    rw [segments, List.foldr_cons, segmentStep.eq_def]
    split
    · simp
    · split <;> simp

/-- A character other than the mark is put in front of the first segment. -/
theorem segments_cons {mark c : Char} {rest first : List Char} {later : List (List Char)}
    (h : c ≠ mark) (split : segments mark rest = first :: later) :
    segments mark (c :: rest) = (c :: first) :: later := by
  rw [segments] at split ⊢
  rw [List.foldr_cons, split, segmentStep, if_neg h]

theorem segments_append_mark (mark : Char) (text rest : List Char) :
    segments mark (text ++ mark :: rest) = segments mark text ++ segments mark rest := by
  induction text with
  | nil => exact segments_mark mark rest
  | cons c text ih =>
    by_cases h : c = mark
    · rw [h, List.cons_append, segments_mark, segments_mark, ih, List.cons_append]
    · obtain ⟨first, later, split⟩ := List.exists_cons_of_ne_nil (segments_ne_nil mark text)
      rw [split, List.cons_append] at ih
      rw [List.cons_append, segments_cons h ih, segments_cons h split, List.cons_append]

theorem segments_of_not_mem {mark : Char} {text : List Char} (h : mark ∉ text) :
    segments mark text = [text] := by
  induction text with
  | nil => rfl
  | cons c text ih =>
    rw [List.mem_cons, not_or] at h
    exact segments_cons (Ne.symm h.1) (ih h.2)

/-- The lines of a text, without the newlines that end them. -/
def lines (text : List Char) : List (List Char) :=
  let all := segments '\n' text
  if all.getLast? = some [] then all.dropLast else all

@[simp] theorem lines_nil : lines [] = [] := rfl

/-- A newline ends the lines before it, which may be empty. -/
theorem lines_append_newline (text rest : List Char) :
    lines (text ++ '\n' :: rest) = segments '\n' text ++ lines rest := by
  obtain ⟨first, later, all⟩ := List.exists_cons_of_ne_nil (segments_ne_nil '\n' rest)
  simp only [lines, segments_append_mark, all, List.getLast?_append, List.getLast?_cons]
  split <;> simp_all [List.dropLast_append_of_ne_nil]

end LoxLexer
