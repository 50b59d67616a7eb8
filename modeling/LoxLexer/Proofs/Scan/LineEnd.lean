import LoxLexer.Proofs.Scan.Partition
import LoxLexer.Token.Shift

/-!
# Scanning line by line

A line end outside of strings cuts a scan in two: what is found in a text, a newline and another
text is what is found in the first, and then what is found in the second alone, moved behind the
newline. **`scan_append_line`** says so of tokens and errors. A newline ends everything that the end
of the text ends, strings excepted (`Element.Fits.append_line`), so the elements of the first text
stay as they are.
-/

namespace LoxLexer

/-- An element that fits in front of a text fits in front of this text and a line end, unless it is
a string that is never closed. -/
theorem Element.Fits.append_line {e : Element} {rest : List Char} (fits : e.Fits rest)
    (closed : ∀ body, e ≠ .openString body) (b : List Char) : e.Fits (rest ++ '\n' :: b) := by
  apply fits.append
  · rintro - c hc
    exact (Option.some.inj hc).symm
  · rintro - c hc
    rw [← Option.some.inj hc]
    decide
  · exact fun body h => absurd h (closed body)

/-- What is found in two texts with a line end between them is what is found in the one, and then
what is found in the other from the next line on. -/
theorem foundFrom_append_line {p : Place} {a : List Char}
    (closed : ∀ e, .error e ∈ foundFrom p a → e.fault ≠ .unterminatedString) (b : List Char) :
    foundFrom p (a ++ '\n' :: b) = foundFrom p a ++ foundFrom (p.after (a ++ ['\n'])) b := by
  induction a using text_induction generalizing p with
  | nil =>
    have newline : (Element.blank '\n').Fits b := .blank rfl
    rw [foundFrom_nil]
    exact foundFrom_append newline p
  | element e rest fits ih =>
    rw [foundFrom_append fits] at closed ⊢
    have terminated : ∀ body, e ≠ .openString body := by
      rintro body rfl
      exact closed _ List.mem_cons_self rfl
    have later := ih fun d hd => closed d (List.mem_append_right _ hd)
    rw [List.append_assoc, foundFrom_append (fits.append_line terminated b), later,
      List.append_assoc, List.append_assoc e.text, Place.after_append p e.text]

/-- **A scan can be cut at every line end outside of strings.** The tokens and errors of the second
part are moved by the bytes and the lines of the first part and its newline. -/
theorem scan_append_line (a b : String)
    (closed : ∀ e ∈ (scan a).errors, e.fault ≠ .unterminatedString) :
    (scan (a ++ "\n" ++ b)).tokens = (scan a).properTokens ++
        (scan b).tokens.map (Token.shift (byteLength a.toList + 1) (newlines a.toList + 1)) ∧
      (scan (a ++ "\n" ++ b)).errors = (scan a).errors ++
        (scan b).errors.map
          (ScanError.shift (byteLength a.toList + 1) (newlines a.toList + 1)) := by
  let move := Finding.shift (byteLength a.toList + 1) (newlines a.toList + 1)
  have text : (a ++ "\n" ++ b).toList = a.toList ++ '\n' :: b.toList := by simp
  have found := foundFrom_append_line (fun e he => closed e (mem_errors.2 he)) b.toList
  have behind : findingsFrom (Place.start.after (a.toList ++ ['\n'])) b.toList =
      (findingsFrom Place.start b.toList).map move := by
    rw [findingsFrom_after, byteLength_append, newlines_append]
    rfl
  have all : (scan (a ++ "\n" ++ b)).findings = foundFrom Place.start a.toList ++
      (scan b).findings.map move := by
    rw [scan, text, findingsFrom_eq, found, scan, ← behind, findingsFrom_eq, ← Place.after_append,
      List.append_assoc, List.append_assoc]
    rfl
  constructor
  · rw [Scan.tokens, all, List.filterMap_append, Finding.filterMap_token?_shift, properTokens_scan,
      Scan.tokens]
  · rw [Scan.errors, all, List.filterMap_append, Finding.filterMap_error?_shift, errors_scan,
      Scan.errors]

/-- The point that ends the first line does not join the digit that begins the next one, and the
string that is never closed is reported behind the newline that it takes in. -/
theorem scan_append_line_point :
    (∀ e ∈ (scan "é!/1.").errors, e.fault ≠ .unterminatedString) ∧
      (scan ("é!/1." ++ "\n" ++ "5\n\"\n")).tokens.map (fun t => (t.kind, t.line, t.span)) =
        [(.bang, 1, ⟨2, 3⟩), (.slash, 1, ⟨3, 4⟩), (.number, 1, ⟨4, 5⟩), (.dot, 1, ⟨5, 6⟩),
          (.number, 2, ⟨7, 8⟩), (.endOfText, 4, ⟨11, 11⟩)] ∧
      (scan ("é!/1." ++ "\n" ++ "5\n\"\n")).errors =
        [⟨.unexpectedCharacter 'é', 1, ⟨0, 2⟩⟩, ⟨.unterminatedString, 4, ⟨9, 2⟩⟩] := by
  have closed : ∀ e ∈ (scan "é!/1.").errors, e.fault ≠ .unterminatedString := by decide +kernel
  obtain ⟨tokens, errors⟩ := scan_append_line "é!/1." "5\n\"\n" closed
  rw [tokens, errors]
  exact ⟨closed, by decide +kernel, by decide +kernel⟩

end LoxLexer
