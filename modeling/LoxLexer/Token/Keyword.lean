/-!
# Reserved words

The sixteen words of Lox that are not names. A word is reserved only in exactly its spelling,
capitals included.
-/

namespace LoxLexer

/-- A reserved word. -/
inductive Keyword where
  /-- `and`. -/
  | andWord
  /-- `class`. -/
  | classWord
  /-- `else`. -/
  | elseWord
  /-- `false`. -/
  | falseWord
  /-- `for`. -/
  | forWord
  /-- `fun`. -/
  | funWord
  /-- `if`. -/
  | ifWord
  /-- `nil`. -/
  | nilWord
  /-- `or`. -/
  | orWord
  /-- `print`. -/
  | printWord
  /-- `return`. -/
  | returnWord
  /-- `super`. -/
  | superWord
  /-- `this`. -/
  | thisWord
  /-- `true`. -/
  | trueWord
  /-- `var`. -/
  | varWord
  /-- `while`. -/
  | whileWord
  deriving DecidableEq, Repr

namespace Keyword

/-- All reserved words, in the order of their spellings. -/
def all : List Keyword :=
  [andWord, classWord, elseWord, falseWord, forWord, funWord, ifWord, nilWord, orWord, printWord,
    returnWord, superWord, thisWord, trueWord, varWord, whileWord]

/-- How the word is written. -/
def spelling : Keyword → String
  | andWord => "and"
  | classWord => "class"
  | elseWord => "else"
  | falseWord => "false"
  | forWord => "for"
  | funWord => "fun"
  | ifWord => "if"
  | nilWord => "nil"
  | orWord => "or"
  | printWord => "print"
  | returnWord => "return"
  | superWord => "super"
  | thisWord => "this"
  | trueWord => "true"
  | varWord => "var"
  | whileWord => "while"

/-- The name of the word's token kind: its spelling in capitals. -/
def name (word : Keyword) : String := word.spelling.map Char.toUpper

/-- The reserved word with this spelling. -/
def ofSpelling? (text : String) : Option Keyword := all.find? fun word => word.spelling = text

theorem mem_all (word : Keyword) : word ∈ all := by
  cases word <;> decide

theorem spelling_inj {v w : Keyword} (h : v.spelling = w.spelling) : v = w := by
  revert h
  cases v <;> cases w <;> decide

/-- A word is found under its spelling and under no other. -/
theorem ofSpelling?_eq_some_iff {text : String} {word : Keyword} :
    ofSpelling? text = some word ↔ word.spelling = text := by
  constructor
  · intro h
    simpa using List.find?_some h
  · rintro rfl
    obtain ⟨found, hf⟩ : ∃ found, ofSpelling? word.spelling = some found :=
      Option.isSome_iff_exists.1 (List.find?_isSome.2 ⟨word, word.mem_all, by simp⟩)
    have hs : found.spelling = word.spelling := by simpa using List.find?_some hf
    rw [hf, spelling_inj hs]

theorem ofSpelling?_eq_none_iff {text : String} :
    ofSpelling? text = none ↔ ∀ word : Keyword, word.spelling ≠ text := by
  simp only [ofSpelling?, List.find?_eq_none, decide_eq_true_eq]
  exact ⟨fun h word => h word word.mem_all, fun h word _ => h word⟩

end Keyword

end LoxLexer
