import LoxLexer.Scan

/-!
# Moving what is found

Tokens and errors moved by a number of bytes and lines, as they are when text is put in front of
theirs. **`findingsFrom_after`** says that where a text begins moves its findings and changes
nothing else of them.
-/

namespace LoxLexer

/-- A span moved by some bytes. -/
def Span.shift (bytes : Nat) (s : Span) : Span := ⟨s.start + bytes, s.stop + bytes⟩

/-- A token moved by some bytes and lines. -/
def Token.shift (bytes lines : Nat) (t : Token) : Token :=
  { t with line := t.line + lines, span := t.span.shift bytes }

/-- An error moved by some bytes and lines. -/
def ScanError.shift (bytes lines : Nat) (e : ScanError) : ScanError :=
  ⟨e.fault, e.line + lines, ⟨e.region.offset + bytes, e.region.length⟩⟩

/-- A finding moved by some bytes and lines. -/
def Finding.shift (bytes lines : Nat) : Finding → Finding
  | token found => token (found.shift bytes lines)
  | error found => error (found.shift bytes lines)

theorem Finding.filterMap_token?_shift (bytes lines : Nat) (fs : List Finding) :
    (fs.map (Finding.shift bytes lines)).filterMap Finding.token? =
      (fs.filterMap Finding.token?).map (Token.shift bytes lines) := by
  rw [List.filterMap_map, List.map_filterMap]
  congr 1
  funext f
  cases f <;> rfl

theorem Finding.filterMap_error?_shift (bytes lines : Nat) (fs : List Finding) :
    (fs.map (Finding.shift bytes lines)).filterMap Finding.error? =
      (fs.filterMap Finding.error?).map (ScanError.shift bytes lines) := by
  rw [List.filterMap_map, List.map_filterMap]
  congr 1
  funext f
  cases f <;> rfl

/-- The second token is the first one moved by some bytes and lines, forwards or backwards. -/
structure Token.MovedBy (bytes lines : Int) (t u : Token) : Prop where
  /-- The kind stays. -/
  kind : u.kind = t.kind
  /-- The text stays. -/
  lexeme : u.lexeme = t.lexeme
  /-- The value stays. -/
  literal : u.literal = t.literal
  /-- The line is moved. -/
  line : (u.line : Int) = t.line + lines
  /-- The first byte is moved. -/
  start : (u.span.start : Int) = t.span.start + bytes
  /-- The end is moved by as much. -/
  stop : (u.span.stop : Int) = t.span.stop + bytes

/-- The second error is the first one moved by some bytes and lines, forwards or backwards. -/
structure ScanError.MovedBy (bytes lines : Int) (d e : ScanError) : Prop where
  /-- The fault stays. -/
  fault : e.fault = d.fault
  /-- The line is moved. -/
  line : (e.line : Int) = d.line + lines
  /-- The first byte is moved. -/
  offset : (e.region.offset : Int) = d.region.offset + bytes
  /-- The number of bytes stays. -/
  length : e.region.length = d.region.length

/-- A token that stands behind one text and behind another is moved by the difference of the two. -/
theorem Token.movedBy_shift (t : Token) (bytes bytes' lines lines' : Nat) :
    Token.MovedBy (bytes' - bytes) (lines' - lines) (t.shift bytes lines)
      (t.shift bytes' lines') := by
  constructor <;> simp only [Token.shift, Span.shift] <;> omega

theorem ScanError.movedBy_shift (e : ScanError) (bytes bytes' lines lines' : Nat) :
    ScanError.MovedBy (bytes' - bytes) (lines' - lines) (e.shift bytes lines)
      (e.shift bytes' lines') := by
  constructor <;> simp only [ScanError.shift] <;> omega

/-- A place moved by some bytes and lines. -/
def Place.shift (bytes lines : Nat) (p : Place) : Place := ⟨p.offset + bytes, p.line + lines⟩

theorem Place.after_shift (bytes lines : Nat) (p : Place) (text : List Char) :
    (p.shift bytes lines).after text = (p.after text).shift bytes lines := by
  simp only [Place.after, Place.shift, Place.mk.injEq]
  omega

theorem Place.after_eq_shift (p : Place) (text : List Char) :
    p.after text = p.shift (byteLength text) (newlines text) := rfl

theorem Token.at_shift (bytes lines : Nat) (p : Place) (kind : Kind) (lexeme : List Char) :
    Token.at (p.shift bytes lines) kind lexeme = (Token.at p kind lexeme).shift bytes lines := by
  simp only [Token.at, Token.shift, Span.shift, Place.shift, Token.mk.injEq, Span.mk.injEq,
    true_and]
  omega

theorem Located.finding?_shift (bytes lines : Nat) (p : Place) (e : Element) :
    Located.finding? ⟨p.shift bytes lines, e⟩ =
      (Located.finding? ⟨p, e⟩).map (Finding.shift bytes lines) := by
  cases e <;>
    simp [Located.finding?, Located.next, Token.at_shift, Place.after_shift, Finding.shift,
      ScanError.shift] <;> simp [Place.shift]

/-- What is found in a text moves with the place where the text begins. -/
theorem findingsFrom_shift (bytes lines : Nat) (p : Place) (text : List Char) :
    findingsFrom (p.shift bytes lines) text =
      (findingsFrom p text).map (Finding.shift bytes lines) := by
  have located : ∀ es : List Element,
      (locate (p.shift bytes lines) es).filterMap Located.finding? =
        ((locate p es).filterMap Located.finding?).map (Finding.shift bytes lines) := by
    intro es
    induction es generalizing p with
    | nil => rfl
    | cons e es ih =>
      rw [locate_cons, locate_cons, Place.after_shift, List.filterMap_cons, List.filterMap_cons,
        Located.finding?_shift, ih]
      cases Located.finding? ⟨p, e⟩ <;> simp
  simp only [findingsFrom, located, List.map_append, List.map_cons, List.map_nil, Finding.shift,
    Token.endOfText, Place.after_shift, Token.at_shift]

/-- What is found in a text after some other text is found in it alone, moved by that text. -/
theorem findingsFrom_after (p : Place) (before text : List Char) :
    findingsFrom (p.after before) text =
      (findingsFrom p text).map (Finding.shift (byteLength before) (newlines before)) := by
  rw [Place.after_eq_shift, findingsFrom_shift]

end LoxLexer
