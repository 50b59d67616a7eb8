import LoxLexer.Proofs.Scan.StringBody
import LoxLexer.Proofs.Scan.Partition

/-!
# Closing a string

A string that is never closed takes the rest of the source, and the remedy is a quote at the end.
That this is right is **`scan_closed`**: with any text without quotes and then a quote behind the
source, the one error is gone, what was dropped is a token with that text, and all that was found in
front of the string is found as before.
-/

namespace LoxLexer

/-- A string that is never closed comes from an element with the rest of the source as its body,
behind which there is nothing. -/
theorem exists_openString_of_mem_errors {source : String} {e : ScanError}
    (h : e ∈ (scan source).errors) (fault : e.fault = .unterminatedString) :
    ∃ es body, '"' ∉ body ∧ source.toList = es.flatMap Element.text ++ '"' :: body ∧
      elements source.toList = es ++ [.openString body] ∧
      Located.finding? ⟨Place.start.after (es.flatMap Element.text), .openString body⟩ =
        some (.error e) := by
  obtain ⟨es, d, fs, cut, found⟩ := exists_cut_of_mem_found (mem_errors.1 h)
  obtain ⟨fits, behind⟩ := fits_of_cut cut
  have whole := text_cut_elements cut
  generalize fs.flatMap Element.text = rest at fits behind whole
  cases fits with
  | @openString body free =>
    rw [elements_nil] at behind
    subst behind
    exact ⟨es, body, free, by simpa [Element.text] using whole, cut, found⟩
  | stray =>
    obtain rfl := Finding.error.inj (Option.some.inj found)
    cases fault
  | token | blank | comment => cases found

/-- In front of a string that is never closed the elements stay when the string is closed. -/
theorem elements_closed {es : List Element} {body : List Char} (free : '"' ∉ body)
    (h : elements (es.flatMap Element.text ++ '"' :: body) = es ++ [.openString body])
    {more : List Char} (free' : '"' ∉ more) :
    elements (es.flatMap Element.text ++ stringText (body ++ more)) =
      es ++ [.token .string (stringText (body ++ more))] := by
  have closed : elements (stringText (body ++ more)) =
      [.token .string (stringText (body ++ more))] := by
    have none : '"' ∉ body ++ more := by simp [free, free']
    have alone := elements_stringText none []
    rwa [List.append_nil, elements_nil] at alone
  have opened : elements ('"' :: body) = [.openString body] := by
    have alone := elements_append (Element.Fits.openString free)
    rwa [List.append_nil, elements_nil] at alone
  rw [← opened] at h
  rw [← closed]
  exact elements_before_quote h

/-- What is found in a text with a last element is found before it, or it is what it counts for. -/
theorem foundFrom_last {text : List Char} {es : List Element} {e : Element}
    (h : elements text = es ++ [e]) (p : Place) :
    foundFrom p text = found p es ++
      (Located.finding? ⟨p.after (es.flatMap Element.text), e⟩).toList := by
  rw [foundFrom, h, locate_append, List.filterMap_append, found, locate_cons, locate_nil,
    List.filterMap_cons]
  cases Located.finding? ⟨p.after (es.flatMap Element.text), e⟩ <;> rfl

theorem Token.endOfText_start (text : List Char) : Token.endOfText (Place.start.after text) =
    ⟨.endOfText, "", none, 1 + newlines text, ⟨byteLength text, byteLength text⟩⟩ := by
  simp [Token.endOfText, Token.at, Place.after, Place.start, Kind.literal?]

theorem toList_closed {front body : List Char} {source more : String}
    (text : source.toList = front ++ '"' :: body) :
    (source ++ more ++ "\"").toList = front ++ stringText (body ++ more.toList) := by
  simp [text, stringText]

/-- The token of a closed string reaches from its place to the end of the text. -/
theorem Token.at_closed {front body : List Char} {source more : String}
    (text : source.toList = front ++ '"' :: body) :
    Token.at (Place.start.after front) .string (stringText (body ++ more.toList)) =
      ⟨.string, "\"" ++ (String.ofList body ++ more) ++ "\"",
        some (.text (String.ofList body ++ more)), 1 + newlines front,
        ⟨byteLength front, byteLength (source ++ more ++ "\"").toList⟩⟩ := by
  have value : String.ofList (body ++ more.toList) = String.ofList body ++ more := by
    rw [String.ofList_append, String.ofList_toList]
  have offset : (Place.start.after front).offset = byteLength front := Nat.zero_add _
  have stop : byteLength (source ++ more ++ "\"").toList =
      byteLength front + byteLength (body ++ more.toList) + 2 := by
    rw [toList_closed text, byteLength_append front, byteLength_stringText, Nat.add_assoc]
  rw [Token.at_stringText, offset, value, stop]
  rfl

/-- **A quote at the end of the source closes a string that is not closed**, whatever text without
quotes comes before it. The errors are the others, unchanged, and the tokens are those of the source
and then the string, from the quote where it was reported up to the new end of the text. -/
theorem scan_closed {source : String} {e : ScanError} (h : e ∈ (scan source).errors)
    (fault : e.fault = .unterminatedString) {more : String} (free : '"' ∉ more.toList) :
    ∃ before body : String, source = before ++ "\"" ++ body ∧
      e.span.start = byteLength before.toList ∧
      (scan source).errors = (scan (source ++ more ++ "\"")).errors ++ [e] ∧
      (scan (source ++ more ++ "\"")).tokens = (scan source).properTokens ++
        [⟨.string, "\"" ++ (body ++ more) ++ "\"", some (.text (body ++ more)),
            1 + newlines before.toList,
            ⟨e.span.start, byteLength (source ++ more ++ "\"").toList⟩⟩,
          ⟨.endOfText, "", none, 1 + newlines (source ++ more).toList,
            ⟨byteLength (source ++ more ++ "\"").toList,
              byteLength (source ++ more ++ "\"").toList⟩⟩] := by
  obtain ⟨es, body, free', text, cut, reported⟩ := exists_openString_of_mem_errors h fault
  let front := es.flatMap Element.text
  have start : e.span.start = byteLength front :=
    (congrArg Span.start (span_of_finding? reported)).trans (Nat.zero_add _)
  have lines : newlines (source ++ more ++ "\"").toList = newlines (source ++ more).toList := by
    rw [String.toList_append, newlines_append]
    exact Nat.add_zero _
  have found := foundFrom_last cut Place.start
  have found' := foundFrom_last (elements_closed free' (text ▸ cut) free) Place.start
  rw [reported] at found
  rw [← toList_closed text] at found'
  refine ⟨String.ofList front, String.ofList body, ?_, by rw [start, String.toList_ofList], ?_, ?_⟩
  · rw [← String.toList_inj, text]
    simp [front]
  · rw [errors_scan, errors_scan, found, found', List.filterMap_append, List.filterMap_append]
    exact congrArg (· ++ [e]) (List.append_nil _).symm
  · rw [String.toList_ofList, start, ← Token.at_closed text, ← lines, ← Token.endOfText_start,
      tokens_scan, properTokens_scan, found, found', List.filterMap_append, List.filterMap_append,
      List.append_assoc]
    exact congrArg (· ++ _) (List.append_nil _).symm

/-- Behind a stray character, a string on two lines is closed on the third, after what would begin a
comment. -/
theorem scan_closed_stray :
    (⟨.unterminatedString, 2, ⟨2, 4⟩⟩ ∈ (scan "é\"a\nb").errors ∧ '"' ∉ "//\n".toList) ∧
      (scan "é\"a\nb").errors = (scan ("é\"a\nb" ++ "//\n" ++ "\"")).errors ++
        [⟨.unterminatedString, 2, ⟨2, 4⟩⟩] ∧
      ∃ before body : String, "é\"a\nb" = before ++ "\"" ++ body ∧
        2 = byteLength before.toList ∧
        (scan ("é\"a\nb" ++ "//\n" ++ "\"")).tokens = (scan "é\"a\nb").properTokens ++
          [⟨.string, "\"" ++ (body ++ "//\n") ++ "\"", some (.text (body ++ "//\n")),
              1 + newlines before.toList, ⟨2, 10⟩⟩,
            ⟨.endOfText, "", none, 3, ⟨10, 10⟩⟩] := by
  have mem : ⟨.unterminatedString, 2, ⟨2, 4⟩⟩ ∈ (scan "é\"a\nb").errors := by decide +kernel
  have free : '"' ∉ "//\n".toList := by decide
  obtain ⟨before, body, text, start, errors, tokens⟩ := scan_closed mem rfl free
  exact ⟨⟨mem, free⟩, errors, before, body, text, start, tokens⟩

end LoxLexer
