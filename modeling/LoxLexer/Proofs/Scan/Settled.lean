import LoxLexer.Proofs.Scan.Partition
import Mathlib.Tactic.ByContra

/-!
# What more text cannot change

A scan looks at most two characters ahead, at a point and a digit behind a number, so text put
behind a source leaves alone what is found earlier: **`scan_append_settled`**. Only an element that
has nothing or a single point behind it can get longer. All that is found from the first such
element on ends in the last two bytes, or is a string that is never closed
(`unsettled_of_not_fits`); what is found before is the same in both texts
(`foundFrom_append_settled`).
-/

namespace LoxLexer

/-! ### Findings at the end -/

/-- Whether more text behind the source may change what is found: a token that ends in the last two
bytes before `stop`, or a string that is never closed. -/
def Finding.Unsettled (stop : Nat) : Finding → Prop
  | token found => stop < found.span.stop + 2
  | error found => found.fault = .unterminatedString

theorem foundFrom_point (p : Place) : foundFrom p ['.'] = [.token (Token.at p .dot ['.'])] := by
  have fits : (Element.token .dot ['.']).Fits [] := .token (.of_spelling? rfl) .nil
  have found := foundFrom_append fits p
  rwa [foundFrom_nil, List.append_nil] at found

/-- Where more text makes an element longer, all is unsettled that is found from there on. -/
theorem unsettled_of_not_fits {p : Place} {e : Element} {rest more : List Char} (fits : e.Fits rest)
    (longer : ¬ e.Fits (rest ++ more)) : ∀ f ∈ foundFrom p (e.text ++ rest),
      f.Unsettled (p.offset + byteLength (e.text ++ rest)) := by
  have short : rest = [] ∨ rest = ['.'] := by
    by_contra long
    rw [not_or] at long
    apply longer
    apply fits.append
    · exact fun nothing => absurd nothing long.1
    · exact fun point => absurd point long.2
    · rintro body rfl
      cases fits
      exact absurd rfl long.1
  have bytes : byteLength rest ≤ 1 := by rcases short with rfl | rfl <;> decide
  intro f hf
  rw [foundFrom_append fits, List.mem_append, Option.mem_toList] at hf
  rw [byteLength_append]
  rcases hf with hf | hf
  · -- a blank, a comment and a stray character leave nothing, or fit in front of every text
    cases fits with
    | @token kind lexeme _ valid ends =>
      obtain rfl := Option.some.inj hf
      show p.offset + (byteLength lexeme + byteLength rest) < p.offset + byteLength lexeme + 2
      omega
    | blank | comment => cases hf
    | stray quote h => exact absurd (.stray quote h) longer
    | openString =>
      obtain rfl := Option.some.inj hf
      rfl
  · rcases short with rfl | rfl
    · simp at hf
    · rw [foundFrom_point, List.mem_singleton] at hf
      subst hf
      show p.offset + (byteLength e.text + 1) < p.offset + byteLength e.text + 1 + 2
      omega

/-! ### The scan of a longer text -/

/-- What is found in a text is found in front of more text as well, in the same order, up to
findings that are all unsettled. -/
theorem foundFrom_append_settled (p : Place) (text more : List Char) :
    ∃ same last last', foundFrom p text = same ++ last ∧
      foundFrom p (text ++ more) = same ++ last' ∧
      ∀ f ∈ last, f.Unsettled (p.offset + byteLength text) := by
  induction text using text_induction generalizing p with
  | nil => exact ⟨[], [], foundFrom p more, by simp, rfl, by simp⟩
  | element e rest fits ih =>
    by_cases fits' : e.Fits (rest ++ more)
    · obtain ⟨same, last, last', found, found', unsettled⟩ := ih (p.after e.text)
      refine ⟨(Located.finding? ⟨p, e⟩).toList ++ same, last, last', ?_, ?_, ?_⟩
      · rw [foundFrom_append fits, found, List.append_assoc]
      · rw [List.append_assoc, foundFrom_append fits', found', List.append_assoc]
      · rw [byteLength_append, ← Nat.add_assoc]
        exact unsettled
    · exact ⟨[], _, _, rfl, rfl, unsettled_of_not_fits fits fits'⟩

/-- What does not come from the tail of a list keeps its index when the tail changes. -/
theorem getElem?_append_of_not_mem {α : Type} {same last : List α} {i : Nat} {x : α}
    (h : (same ++ last)[i]? = some x) (front : x ∉ last) (last' : List α) :
    (same ++ last')[i]? = some x := by
  by_cases hi : i < same.length
  · rwa [List.getElem?_append_left hi] at h ⊢
  · rw [List.getElem?_append_right (Nat.le_of_not_lt hi)] at h
    exact absurd (List.mem_of_getElem? h) front

/-- **Text put behind a source changes nothing that is settled.** Tokens that end at least two bytes
before the end of the source, and unexpected characters, stay as they are and keep their numbers. -/
theorem scan_append_settled (s t : String) :
    (∀ (i : Nat) (u : Token), (scan s).tokens[i]? = some u → u.kind ≠ .endOfText →
      u.span.stop + 2 ≤ byteLength s.toList → (scan (s ++ t)).tokens[i]? = some u) ∧
    ∀ (i : Nat) (e : ScanError) (c : Char), (scan s).errors[i]? = some e →
      e.fault = .unexpectedCharacter c → (scan (s ++ t)).errors[i]? = some e := by
  obtain ⟨same, last, last', found, found', unsettled⟩ :=
    foundFrom_append_settled Place.start s.toList t.toList
  have start : Place.start.offset = 0 := rfl
  rw [start, Nat.zero_add] at unsettled
  constructor
  · intro i u hu kind settled
    rw [tokens_scan, found, List.filterMap_append, List.append_assoc] at hu
    rw [tokens_scan, String.toList_append, found', List.filterMap_append, List.append_assoc]
    apply getElem?_append_of_not_mem hu
    rw [List.mem_append, mem_filterMap_token?, List.mem_singleton]
    rintro (late | rfl)
    · have : byteLength s.toList < u.span.stop + 2 := unsettled _ late
      omega
    · exact kind rfl
  · intro i e c he fault
    rw [errors_scan, found, List.filterMap_append] at he
    rw [errors_scan, String.toList_append, found', List.filterMap_append]
    apply getElem?_append_of_not_mem he
    rw [mem_filterMap_error?]
    intro late
    have : e.fault = .unterminatedString := unsettled _ late
    rw [this] at fault
    cases fault

/-- A digit behind the point makes one number of the last two bytes, and changes neither the name in
front of them nor the error. -/
theorem scan_append_settled_point :
    let name := Token.at ⟨2, 1⟩ .identifier ['a']
    let stray : ScanError := ⟨.unexpectedCharacter 'é', 1, ⟨0, 2⟩⟩
    ((scan "éa 1.").tokens[0]? = some name ∧ name.kind ≠ .endOfText ∧
      name.span.stop + 2 ≤ byteLength "éa 1.".toList ∧ (scan "éa 1.").errors[0]? = some stray ∧
      stray.fault = .unexpectedCharacter 'é') ∧
    (scan ("éa 1." ++ "5")).tokens[0]? = some name ∧
      (scan ("éa 1." ++ "5")).errors[0]? = some stray := by
  intro name stray
  have ht : (scan "éa 1.").tokens[0]? = some name := by decide +kernel
  have he : (scan "éa 1.").errors[0]? = some stray := by decide +kernel
  obtain ⟨tokens, errors⟩ := scan_append_settled "éa 1." "5"
  exact ⟨⟨ht, by decide, by decide, he, rfl⟩, tokens 0 name ht (by decide) (by decide),
    errors 0 stray 'é' he rfl⟩

end LoxLexer
