import LoxLexer.Grammar.Lexeme

/-!
# Tokens as written

Tokens as someone writes them, with a kind and a text but no place, and what may stand between them.
Separators are blanks and comments. A comment ends directly before a newline, so between two tokens
the newline is part of the separator, and only a comment at the end of the text may lack it. Without
separators, *clashes* keep a sequence of tokens from being read back.
-/

namespace LoxLexer

/-- A token as written: a kind and one of its texts. -/
structure Written where
  /-- What the token is. -/
  kind : Kind
  /-- Its text. -/
  text : List Char
  /-- The text belongs to the kind. -/
  valid : Lexeme kind text

/-! ### Separators -/

/-- Blanks, and comments with the newline that ends them. -/
inductive Separator : List Char → Prop where
  /-- Nothing at all. -/
  | nil : Separator []
  /-- A blank character and more. -/
  | blank {c : Char} {rest : List Char} (h : isBlank c = true) (more : Separator rest) :
      Separator (c :: rest)
  /-- A comment, its newline and more. -/
  | comment {body rest : List Char} (h : '\n' ∉ body) (more : Separator rest) :
      Separator ('/' :: '/' :: body ++ '\n' :: rest)

/-- A separator at the end of a text, where a comment needs no newline. -/
inductive LastSeparator : List Char → Prop where
  /-- A separator like any other. -/
  | closed {text : List Char} (h : Separator text) : LastSeparator text
  /-- A separator and a comment. -/
  | open {text comment : List Char} (h : Separator text) (last : IsComment comment) :
      LastSeparator (text ++ comment)

theorem Separator.append {s t : List Char} (hs : Separator s) (ht : Separator t) :
    Separator (s ++ t) := by
  induction hs with
  | nil => exact ht
  | blank h _ ih => exact .blank h ih
  | comment h _ ih => simpa using Separator.comment h ih

/-! ### Clashes -/

/-- Identifiers and reserved words. -/
def Kind.isWord (kind : Kind) : Bool := kind = identifier || kind.isKeyword

/-- The operators that a `=` directly after them would join. -/
def Kind.takesEqual (kind : Kind) : Bool :=
  kind = bang || kind = equal || kind = less || kind = greater

/-- Whether a token of the first kind runs into one of the second kind directly after it. -/
def Kind.runsInto (first second : Kind) : Bool :=
  (first.isWord && (second.isWord || second = number)) ||
    (first = number && second = number) ||
    (first.takesEqual && (second = equal || second = equalEqual)) ||
    (first = slash && second = slash)

/-- A place in a sequence of tokens where what is written is not what is read. -/
inductive Clash : List Written → Prop where
  /-- Two tokens run into each other. -/
  | pair {before after : List Written} {a b : Written} (h : a.kind.runsInto b.kind = true) :
      Clash (before ++ a :: b :: after)
  /-- A number without a fraction gets one, from a point and a number after it. -/
  | fraction {before after : List Written} {a b c : Written} (number : a.kind = .number)
      (whole : '.' ∉ a.text) (point : b.kind = .dot) (digits : c.kind = .number) :
      Clash (before ++ a :: b :: c :: after)

theorem Clash.cons {a : Written} {ws : List Written} (h : Clash ws) : Clash (a :: ws) := by
  cases h with
  | @pair before after x y h => exact @Clash.pair (a :: before) after x y h
  | @fraction before after x y z number whole point digits =>
    exact @Clash.fraction (a :: before) after x y z number whole point digits

end LoxLexer
