import LoxLexer.Token.Keyword

/-!
# Token kinds

What a token is, apart from its text: the end of the text, one of the fixed symbols, a name, a
string, a number or a reserved word.
-/

namespace LoxLexer

/-- The kind of a token. -/
inductive Kind where
  /-- The end of the text. -/
  | endOfText
  /-- `(`. -/
  | leftParen
  /-- `)`. -/
  | rightParen
  /-- An opening curly bracket. -/
  | leftBrace
  /-- A closing curly bracket. -/
  | rightBrace
  /-- `,`. -/
  | comma
  /-- `.`. -/
  | dot
  /-- `-`. -/
  | minus
  /-- `+`. -/
  | plus
  /-- `;`. -/
  | semicolon
  /-- `/`. -/
  | slash
  /-- `*`. -/
  | star
  /-- `!`. -/
  | bang
  /-- `!=`. -/
  | bangEqual
  /-- `=`. -/
  | equal
  /-- `==`. -/
  | equalEqual
  /-- `>`. -/
  | greater
  /-- `>=`. -/
  | greaterEqual
  /-- `<`. -/
  | less
  /-- `<=`. -/
  | lessEqual
  /-- A word that is not reserved. -/
  | identifier
  /-- A text between quotes. -/
  | string
  /-- Digits with an optional fraction. -/
  | number
  /-- A reserved word. -/
  | keyword (word : Keyword)
  deriving DecidableEq, Repr

namespace Kind

/-- The kinds other than those of reserved words. -/
def plain : List Kind :=
  [endOfText, leftParen, rightParen, leftBrace, rightBrace, comma, dot, minus, plus, semicolon,
    slash, star, bang, bangEqual, equal, equalEqual, greater, greaterEqual, less, lessEqual,
    identifier, string, number]

/-- All kinds. -/
def all : List Kind := plain ++ Keyword.all.map keyword

/-- The name under which a kind is printed. -/
def name : Kind → String
  | endOfText => "EOF"
  | leftParen => "LEFT_PAREN"
  | rightParen => "RIGHT_PAREN"
  | leftBrace => "LEFT_BRACE"
  | rightBrace => "RIGHT_BRACE"
  | comma => "COMMA"
  | dot => "DOT"
  | minus => "MINUS"
  | plus => "PLUS"
  | semicolon => "SEMICOLON"
  | slash => "SLASH"
  | star => "STAR"
  | bang => "BANG"
  | bangEqual => "BANG_EQUAL"
  | equal => "EQUAL"
  | equalEqual => "EQUAL_EQUAL"
  | greater => "GREATER"
  | greaterEqual => "GREATER_EQUAL"
  | less => "LESS"
  | lessEqual => "LESS_EQUAL"
  | identifier => "IDENTIFIER"
  | string => "STRING"
  | number => "NUMBER"
  | keyword word => word.name

/-- The kind printed under this name. -/
def ofName? (text : String) : Option Kind := all.find? fun kind => kind.name = text

/-- Whether the kind is that of a reserved word. -/
def isKeyword : Kind → Bool
  | keyword _ => true
  | _ => false

/-- The kind of a word: a reserved word if it is one, else an identifier. -/
def ofWord (word : List Char) : Kind :=
  match Keyword.ofSpelling? (String.ofList word) with
  | some reserved => keyword reserved
  | none => identifier

/-! ### Symbols -/

/-- The kind of a character that is a token on its own, whatever follows it. -/
def ofSymbol? : Char → Option Kind
  | '(' => some leftParen
  | ')' => some rightParen
  | '\x7b' => some leftBrace
  | '\x7d' => some rightBrace
  | ',' => some comma
  | '.' => some dot
  | '-' => some minus
  | '+' => some plus
  | ';' => some semicolon
  | '*' => some star
  | _ => none

/-- The kinds of a character that is an operator, alone and with `=` directly after it. -/
def ofOperator? : Char → Option (Kind × Kind)
  | '!' => some (bang, bangEqual)
  | '=' => some (equal, equalEqual)
  | '<' => some (less, lessEqual)
  | '>' => some (greater, greaterEqual)
  | _ => none

theorem mem_all (kind : Kind) : kind ∈ all := by
  cases kind with
  | keyword word =>
    exact List.mem_append_right _ (List.mem_map.2 ⟨word, word.mem_all, rfl⟩)
  | _ => exact List.mem_append_left _ (by decide)

/-- Every kind is found under its name, so no two kinds share one. -/
theorem ofName?_name (kind : Kind) : ofName? kind.name = some kind := by
  have found : all.all (fun k => ofName? k.name = some k) = true := by decide +kernel
  simpa using List.all_eq_true.1 found kind kind.mem_all

theorem ofWord_eq_keyword_iff {word : List Char} {reserved : Keyword} :
    ofWord word = keyword reserved ↔ reserved.spelling.toList = word := by
  have h := @Keyword.ofSpelling?_eq_some_iff (String.ofList word) reserved
  rw [ofWord, ← String.toList_inj, String.toList_ofList] at *
  rw [← h]
  cases Keyword.ofSpelling? (String.ofList word) <;> simp

end Kind

end LoxLexer
