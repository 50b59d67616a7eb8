import LoxLexer.Text.Class
import LoxLexer.Token.Kind

/-!
# Lexical elements

A source text is a sequence of *elements*: tokens, and what stands between them, which is blanks,
comments, characters that begin nothing and, at most at the very end, a string that is never closed.
`cut` takes the element at the head of a text, always the longest that the text allows, and
`elements` cuts a whole text.

**`text_elements`** says that nothing is lost or read twice: the texts of the elements, one after
another, are the source. An element knows nothing of its place, so cutting depends on the text
alone.
-/

namespace LoxLexer

/-- A token, or a piece of text between tokens. -/
inductive Element where
  /-- A token, other than the end of the text. -/
  | token (kind : Kind) (lexeme : List Char)
  /-- A blank character. -/
  | blank (c : Char)
  /-- A comment, by what follows its two slashes. -/
  | comment (body : List Char)
  /-- A character that begins no other element. -/
  | stray (c : Char)
  /-- A string that the source does not close, by what follows its quote. -/
  | openString (body : List Char)
  deriving DecidableEq, Repr

namespace Element

/-- The source text of an element. -/
def text : Element → List Char
  | token _ lexeme => lexeme
  | blank c => [c]
  | comment body => '/' :: '/' :: body
  | stray c => [c]
  | openString body => '"' :: body

/-! ### One element

Each function below takes the element that begins with a given character and returns it with the
text after it. -/

/-- The operator `c`, joined with a `=` directly after it. -/
def cutOperator (plain joined : Kind) (c : Char) (rest : List Char) : Element × List Char :=
  match rest with
  | '=' :: after => (token joined [c, '='], after)
  | _ => (token plain [c], rest)

/-- A slash, or two of them with the rest of the line, which is a comment. -/
def cutSlash (rest : List Char) : Element × List Char :=
  match rest with
  | '/' :: after => (comment (after.takeWhile (· != '\n')), after.dropWhile (· != '\n'))
  | _ => (token .slash ['/'], rest)

/-- A string up to the next quote, or to the end if there is none. -/
def cutString (rest : List Char) : Element × List Char :=
  let body := rest.takeWhile (· != '"')
  match rest.dropWhile (· != '"') with
  | _ :: after => (token .string ('"' :: body ++ ['"']), after)
  | [] => (openString body, [])

/-- The fraction at the head of a text, empty unless a digit follows the point. -/
def cutFraction (rest : List Char) : List Char × List Char :=
  match rest with
  | '.' :: d :: after =>
    if d.isDigit then
      ('.' :: d :: after.takeWhile Char.isDigit, after.dropWhile Char.isDigit)
    else ([], rest)
  | _ => ([], rest)

/-- A number that begins with the digit `c`. -/
def cutNumber (c : Char) (rest : List Char) : Element × List Char :=
  let (fraction, after) := cutFraction (rest.dropWhile Char.isDigit)
  (token .number (c :: rest.takeWhile Char.isDigit ++ fraction), after)

/-- A word that begins with `c`. -/
def cutWord (c : Char) (rest : List Char) : Element × List Char :=
  let word := c :: rest.takeWhile isWordPart
  (token (Kind.ofWord word) word, rest.dropWhile isWordPart)

/-- The element at the head of the text `c :: rest`, and the text after it. -/
def cut (c : Char) (rest : List Char) : Element × List Char :=
  match Kind.ofSymbol? c with
  | some kind => (token kind [c], rest)
  | none =>
    match Kind.ofOperator? c with
    | some (plain, joined) => cutOperator plain joined c rest
    | none =>
      if c = '/' then cutSlash rest
      else if c = '"' then cutString rest
      else if isBlank c then (blank c, rest)
      else if c.isDigit then cutNumber c rest
      else if isWordStart c then cutWord c rest
      else (stray c, rest)

/-! ### Nothing is lost -/

theorem text_cutOperator (plain joined : Kind) (c : Char) (rest : List Char) :
    (cutOperator plain joined c rest).1.text ++ (cutOperator plain joined c rest).2 =
      c :: rest := by
  unfold cutOperator
  split <;> simp [text]

theorem text_cutSlash (rest : List Char) :
    (cutSlash rest).1.text ++ (cutSlash rest).2 = '/' :: rest := by
  unfold cutSlash
  split <;> simp [text, List.takeWhile_append_dropWhile]

theorem text_cutString (rest : List Char) :
    (cutString rest).1.text ++ (cutString rest).2 = '"' :: rest := by
  have split_rest := @List.takeWhile_append_dropWhile Char (· != '"') rest
  unfold cutString
  split
  · next quote after h =>
    have hq : quote = '"' := by
      have := List.head?_dropWhile_not (· != '"') rest
      simpa [h] using this
    rw [h, hq] at split_rest
    simp [text, split_rest]
  · next h =>
    rw [h, List.append_nil] at split_rest
    simp [text, split_rest]

theorem text_cutFraction (rest : List Char) :
    (cutFraction rest).1 ++ (cutFraction rest).2 = rest := by
  unfold cutFraction
  split
  · split <;> simp [List.takeWhile_append_dropWhile]
  · simp

theorem text_cutNumber (c : Char) (rest : List Char) :
    (cutNumber c rest).1.text ++ (cutNumber c rest).2 = c :: rest := by
  simp [cutNumber, text, List.append_assoc, text_cutFraction, List.takeWhile_append_dropWhile]

theorem text_cutWord (c : Char) (rest : List Char) :
    (cutWord c rest).1.text ++ (cutWord c rest).2 = c :: rest := by
  simp [cutWord, text, List.takeWhile_append_dropWhile]

/-- An element and the text after it are the text it was cut from. -/
theorem text_cut (c : Char) (rest : List Char) :
    (cut c rest).1.text ++ (cut c rest).2 = c :: rest := by
  unfold cut
  split
  · simp [text]
  · split
    · exact text_cutOperator ..
    · split
      · next h => rw [h, text_cutSlash]
      · split
        · next h => rw [h, text_cutString]
        · split
          · simp [text]
          · split
            · exact text_cutNumber ..
            · split
              · exact text_cutWord ..
              · simp [text]

theorem text_cut_ne_nil (c : Char) (rest : List Char) : (cut c rest).1.text ≠ [] := by
  unfold cut cutOperator cutSlash cutString cutNumber cutWord
  repeat' split
  all_goals simp [text]

/-- Cutting an element off takes at least its first character. -/
theorem length_cut_le (c : Char) (rest : List Char) : (cut c rest).2.length ≤ rest.length := by
  have h := congrArg List.length (text_cut c rest)
  have hpos := List.length_pos_iff.2 (text_cut_ne_nil c rest)
  simp only [List.length_append, List.length_cons] at h
  omega

end Element

/-! ### All elements -/

/-- The elements of a text, put after those `done` so far, which are given last first. -/
def elementsOnto (done : List Element) : List Char → List Element
  | [] => done.reverse
  | c :: rest => elementsOnto ((Element.cut c rest).1 :: done) (Element.cut c rest).2
termination_by text => text.length
decreasing_by exact Nat.lt_succ_of_le (Element.length_cut_le c rest)

/-- The elements of a text. -/
def elements (text : List Char) : List Element := elementsOnto [] text

theorem elementsOnto_eq (done : List Element) (text : List Char) :
    elementsOnto done text = done.reverse ++ elements text := by
  match text with
  | [] => simp [elements, elementsOnto]
  | c :: rest =>
    have := Element.length_cut_le c rest
    rw [elements, elementsOnto, elementsOnto, elementsOnto_eq _ (Element.cut c rest).2,
      elementsOnto_eq [_] (Element.cut c rest).2]
    simp
termination_by text.length
decreasing_by all_goals exact Nat.lt_succ_of_le this

@[simp] theorem elements_nil : elements [] = [] := by
  simp [elements, elementsOnto]

theorem elements_cons (c : Char) (rest : List Char) :
    elements (c :: rest) = (Element.cut c rest).1 :: elements (Element.cut c rest).2 := by
  rw [elements, elementsOnto, elementsOnto_eq]
  simp

/-- The texts of the elements make up the source. -/
theorem text_elements (source : List Char) : (elements source).flatMap Element.text = source := by
  match source with
  | [] => simp
  | c :: rest =>
    have := Element.length_cut_le c rest
    rw [elements_cons, List.flatMap_cons, text_elements (Element.cut c rest).2, Element.text_cut]
termination_by source.length
decreasing_by exact Nat.lt_succ_of_le this

end LoxLexer
