import LoxLexer.Proofs.Scan.Findings
import LoxLexer.Text.LineEnding
import Mathlib.Data.List.Forall2

/-!
# Line ends of either style

A carriage return in front of every newline changes no token and no error but for the text of
strings and the places: **`scan_returned`**. Outside of strings and comments a carriage return is a
blank, so no token that ended before a newline gets longer (`Kind.Ends.withReturns`). A comment
takes the return in front of its newline along, and what follows is found at the same place as if it
had left the return alone (`foundFrom_append_withReturns`).
-/

namespace LoxLexer

/-! ### What becomes of tokens and errors -/

/-- A text with a carriage return in front of every newline. -/
def returned (text : String) : String := String.ofList (withReturns text.toList)

theorem returned_ofList (text : List Char) :
    returned (String.ofList text) = String.ofList (withReturns text) := by
  rw [returned, String.toList_ofList]

/-- A text literal gets returns, a number stays. -/
def Literal.returned : Literal → Literal
  | text value => text (LoxLexer.returned value)
  | number value => number value

/-- The two offsets lie behind the same characters, the first in the text itself and the second in
the text with returns. -/
def OffsetReturned (text : List Char) (offset offset' : Nat) : Prop :=
  ∃ before behind, text = before ++ behind ∧ offset = byteLength before ∧
    offset' = byteLength (withReturns before)

/-- The second token is what becomes of the first one when its source gets returns. -/
structure Token.Returned (source : List Char) (t u : Token) : Prop where
  /-- The kind stays. -/
  kind : u.kind = t.kind
  /-- The line stays. -/
  line : u.line = t.line
  /-- The lexeme gets returns. -/
  lexeme : u.lexeme = returned t.lexeme
  /-- The literal gets returns if it is a text. -/
  literal : u.literal = t.literal.map Literal.returned
  /-- The start moves by the returns before it. -/
  start : OffsetReturned source t.span.start u.span.start
  /-- The end moves by the returns before it. -/
  stop : OffsetReturned source t.span.stop u.span.stop

/-- The second error is what becomes of the first one when its source gets returns. -/
structure ScanError.Returned (source : List Char) (d e : ScanError) : Prop where
  /-- The fault stays, with its character. -/
  fault : e.fault = d.fault
  /-- The line stays. -/
  line : e.line = d.line
  /-- The start moves by the returns before it. -/
  start : OffsetReturned source d.span.start e.span.start
  /-- The end moves by the returns before it. -/
  stop : OffsetReturned source d.span.stop e.span.stop

/-- The second finding is what becomes of the first one when its source gets returns. -/
inductive Finding.Returned (source : List Char) : Finding → Finding → Prop where
  /-- A token stays a token. -/
  | token {t u : Token} (h : t.Returned source u) : Returned source (token t) (token u)
  /-- An error stays an error. -/
  | error {d e : ScanError} (h : d.Returned source e) : Returned source (error d) (error e)

/-- What becomes of an element: its text gets returns. -/
def Element.returned : Element → Element
  | token kind lexeme => token kind (withReturns lexeme)
  | blank c => blank c
  | comment body => comment body
  | stray c => stray c
  | openString body => openString (withReturns body)

/-! ### Elements with returns -/

theorem withReturns_quoted (body : List Char) :
    withReturns ('"' :: body ++ ['"']) = '"' :: withReturns body ++ ['"'] := by
  rw [withReturns_append]
  rfl

theorem withReturns_of_solid {text : List Char} (h : ∀ c ∈ text, isBlank c = false) :
    withReturns text = text := by
  apply withReturns_of_not_mem
  intro newline
  cases h '\n' newline

theorem Lexeme.withReturns {kind : Kind} {lexeme : List Char} (h : Lexeme kind lexeme) :
    Lexeme kind (withReturns lexeme) := by
  rcases h.string_or_solid with ⟨rfl, body, free, rfl⟩ | ⟨-, solid⟩
  · rw [withReturns_quoted]
    exact .string (by rwa [mem_withReturns (by decide)])
  · rwa [withReturns_of_solid solid]

theorem Lexeme.literal?_withReturns {kind : Kind} {lexeme : List Char} (h : Lexeme kind lexeme) :
    kind.literal? (LoxLexer.withReturns lexeme) =
      (kind.literal? lexeme).map Literal.returned := by
  rcases h.string_or_solid with ⟨rfl, body, -, rfl⟩ | ⟨string, solid⟩
  · rw [withReturns_quoted]
    simp [Kind.literal?, Literal.returned, returned_ofList]
  · rw [withReturns_of_solid solid]
    cases kind with
    | string => exact absurd rfl string
    | number =>
      simp only [Kind.literal?, Option.map_map]
      rfl
    | _ => rfl

theorem Kind.Ends.withReturns {kind : Kind} {lexeme rest : List Char} (h : kind.Ends lexeme rest) :
    kind.Ends (withReturns lexeme) (withReturns rest) := by
  have ends : kind.Ends lexeme (LoxLexer.withReturns rest) := by
    refine h.of_alike (R := fun s t => t = LoxLexer.withReturns s) (fun text code => ?_) rfl
    exact exists_of_withReturns_eq_cons text.symm (by rintro rfl; cases code)
  refine { ends with fraction := fun number whole => ends.fraction number ?_ }
  rwa [mem_withReturns (by decide)] at whole

/-! ### The scan of a text with returns -/

theorem foundFrom_return (p : Place) (text : List Char) :
    foundFrom p ('\r' :: text) = foundFrom (p.after ['\r']) text :=
  foundFrom_append (.blank rfl : (Element.blank '\r').Fits text) p

/-- What is found in an element with returns and a text with returns. -/
theorem foundFrom_append_withReturns {e : Element} {rest : List Char} (fits : e.Fits rest)
    (p : Place) : foundFrom p (withReturns (e.text ++ rest)) =
      (Located.finding? ⟨p, e.returned⟩).toList ++
        foundFrom (p.after (withReturns e.text)) (withReturns rest) := by
  rw [withReturns_append]
  cases fits with
  | token valid ends =>
    exact foundFrom_append (.token valid.withReturns ends.withReturns) p
  | @blank c _ h =>
    have blank : (Element.blank c).Fits (withReturns rest) := .blank h
    by_cases newline : c = '\n'
    · subst newline
      have shape : p.after ['\r', '\n'] = (p.after ['\r']).after ['\n'] :=
        p.after_append ['\r'] ['\n']
      show foundFrom p ('\r' :: ('\n' :: withReturns rest)) = foundFrom (p.after ['\r', '\n']) _
      rw [foundFrom_return, shape]
      exact foundFrom_append blank _
    · rw [Element.text, withReturns_cons newline]
      exact foundFrom_append blank p
  | @comment body _ line ends =>
    rw [Element.text, withReturns_of_not_mem (by simpa using line)]
    cases rest with
    | nil => exact foundFrom_append (.comment line (by simp)) p
    | cons c rest =>
      -- the return in front of the newline joins the comment, and counts for nothing either way
      obtain rfl := ends c rfl
      have longer : (Element.comment (body ++ ['\r'])).Fits ('\n' :: withReturns rest) :=
        .comment (by simp [line]) (by simp)
      have found := foundFrom_append longer p
      rw [withReturns_newline, foundFrom_return, ← Place.after_append]
      simpa [Element.text, Located.finding?, Element.returned] using found
  | @stray c _ quote h =>
    have newline : c ≠ '\n' := by rintro rfl; cases h
    rw [Element.text, withReturns_cons newline]
    exact foundFrom_append (.stray quote h) p
  | @openString body h =>
    have quote : '"' ∉ withReturns body := by rwa [mem_withReturns (by decide)]
    exact foundFrom_append (.openString quote) p

/-- What an element counts for, behind some text, and what it counts for when both get returns. -/
theorem finding?_returned {e : Element} {rest : List Char} (fits : e.Fits rest)
    (before : List Char) :
    List.Forall₂ (Finding.Returned (before ++ (e.text ++ rest)))
      (Located.finding? ⟨Place.start.after before, e⟩).toList
      (Located.finding? ⟨Place.start.after (withReturns before), e.returned⟩).toList := by
  have offset : ∀ text, (Place.start.after text).offset = byteLength text :=
    fun _ => Nat.zero_add _
  have line : (Place.start.after (withReturns before)).line = (Place.start.after before).line := by
    simp only [Place.after, newlines_withReturns]
  have start : OffsetReturned (before ++ (e.text ++ rest)) (Place.start.after before).offset
      (Place.start.after (withReturns before)).offset :=
    ⟨before, _, rfl, offset _, offset _⟩
  have stop : OffsetReturned (before ++ (e.text ++ rest))
      ((Place.start.after before).offset + byteLength e.text)
      ((Place.start.after (withReturns before)).offset + byteLength (withReturns e.text)) :=
    ⟨before ++ e.text, rest, by simp, by simp [offset], by simp [offset]⟩
  cases fits with
  | @token _ text _ valid ends =>
    have lexeme := (returned_ofList text).symm
    exact .cons (.token ⟨rfl, line, lexeme, valid.literal?_withReturns, start, stop⟩) .nil
  | blank | comment => exact .nil
  | @stray c _ quote h =>
    have newline : c ≠ '\n' := by rintro rfl; cases h
    rw [Element.text, withReturns_cons newline] at stop
    simp only [byteLength_cons, byteLength_nil, Nat.add_zero, withReturns_nil] at stop
    exact .cons (.error ⟨rfl, line, start, stop⟩) .nil
  | @openString body h =>
    have last : ((Place.start.after (withReturns before)).after (withReturns ('"' :: body))).line =
        ((Place.start.after before).after ('"' :: body)).line := by
      simp only [Place.after, newlines_withReturns]
    exact .cons (.error ⟨rfl, last, start, stop⟩) .nil

/-- What is found in a text behind another, and what is found in it when both get returns. -/
theorem foundFrom_withReturns (before text : List Char) :
    List.Forall₂ (Finding.Returned (before ++ text)) (foundFrom (Place.start.after before) text)
      (foundFrom (Place.start.after (withReturns before)) (withReturns text)) := by
  induction text using text_induction generalizing before with
  | nil => simp
  | element e rest fits ih =>
    rw [foundFrom_append fits, foundFrom_append_withReturns fits]
    have later := ih (before ++ e.text)
    rw [List.append_assoc, Place.after_append, withReturns_append, Place.after_append] at later
    exact List.rel_append (finding?_returned fits before) later

/-- What a scan finds, and what it finds when the source gets returns. -/
theorem findings_returned (source : String) :
    List.Forall₂ (Finding.Returned source.toList) (scan source).findings
      (scan (returned source)).findings := by
  have text : (returned source).toList = withReturns source.toList := String.toList_ofList
  have found := foundFrom_withReturns [] source.toList
  have offset : OffsetReturned source.toList (Place.start.after source.toList).offset
      (Place.start.after (withReturns source.toList)).offset :=
    ⟨source.toList, [], (List.append_nil _).symm, Nat.zero_add _, Nat.zero_add _⟩
  have last : Token.Returned source.toList (Token.endOfText (Place.start.after source.toList))
      (Token.endOfText (Place.start.after (withReturns source.toList))) :=
    ⟨rfl, by simp only [Token.endOfText, Token.at, Place.after, newlines_withReturns], rfl, rfl,
      offset, offset⟩
  rw [scan, scan, text, findingsFrom_eq, findingsFrom_eq]
  exact List.rel_append found (.cons (.token last) .nil)

/-- **Carriage returns in front of the newlines change no scan**, but for the lexemes and the
literals of strings, which get them too, and for the spans, which move by those before them. All
kinds, numbers, lines and faults stay, and their order. -/
theorem scan_returned (source : String) :
    List.Forall₂ (Token.Returned source.toList) (scan source).tokens
        (scan (returned source)).tokens ∧
      List.Forall₂ (ScanError.Returned source.toList) (scan source).errors
        (scan (returned source)).errors := by
  have found := findings_returned source
  constructor
  · refine List.rel_filterMap (fun _ _ h => ?_) found
    cases h with
    | token h => exact .some h
    | error => exact .none
  · refine List.rel_filterMap (fun _ _ h => ?_) found
    cases h with
    | token => exact .none
    | error h => exact .some h

/-- A string over two lines gets a return inside, and the character behind it moves by two bytes. -/
example : (scan (returned "\"a\nb\"\n@")).tokens.map (fun t => (t.lexeme, t.line, t.span)) =
      [("\"a\r\nb\"", 1, ⟨0, 6⟩), ("", 3, ⟨9, 9⟩)] ∧
    (scan (returned "\"a\nb\"\n@")).errors = [⟨.unexpectedCharacter '@', 3, ⟨8, 1⟩⟩] := by
  decide +kernel

end LoxLexer
