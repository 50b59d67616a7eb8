/-!
# Places in a text

A place is a byte offset together with a line number. Characters take as many bytes as in UTF-8, and
a line ends at a newline and nowhere else. Moving over a text adds its bytes and its newlines, so
moving over two texts is moving over their concatenation (`Place.after_append`).
-/

namespace LoxLexer

/-- The number of bytes a text takes in UTF-8. -/
def byteLength (text : List Char) : Nat := text.foldr (fun c length => c.utf8Size + length) 0

@[simp] theorem byteLength_nil : byteLength [] = 0 := rfl

@[simp] theorem byteLength_cons (c : Char) (text : List Char) :
    byteLength (c :: text) = c.utf8Size + byteLength text := rfl

@[simp] theorem byteLength_append (s t : List Char) :
    byteLength (s ++ t) = byteLength s + byteLength t := by
  induction s with
  | nil => simp
  | cons c s ih => simp [ih, Nat.add_assoc]

theorem byteLength_eq_zero_iff {text : List Char} : byteLength text = 0 ↔ text = [] := by
  cases text with
  | nil => simp
  | cons c rest =>
    have := c.utf8Size_pos
    simp
    omega

/-- The number of lines a text ends. -/
def newlines (text : List Char) : Nat := text.count '\n'

@[simp] theorem newlines_nil : newlines [] = 0 := rfl

@[simp] theorem newlines_append (s t : List Char) :
    newlines (s ++ t) = newlines s + newlines t := by
  simp [newlines]

theorem newlines_singleton {c : Char} (h : c ≠ '\n') : newlines [c] = 0 :=
  List.count_eq_zero.2 (by simpa using h.symm)

/-- A place in a text. -/
structure Place where
  /-- The number of bytes before it. -/
  offset : Nat
  /-- The number of the line it is on. -/
  line : Nat
  deriving DecidableEq, Repr

namespace Place

/-- The start of every text: no byte is before it, and lines count from one. -/
def start : Place := ⟨0, 1⟩

/-- The place after a text that begins here. -/
def after (p : Place) (text : List Char) : Place :=
  ⟨p.offset + byteLength text, p.line + newlines text⟩

@[simp] theorem after_nil (p : Place) : p.after [] = p := rfl

theorem after_append (p : Place) (s t : List Char) :
    p.after (s ++ t) = (p.after s).after t := by
  simp [after, Nat.add_assoc]

end Place

end LoxLexer
