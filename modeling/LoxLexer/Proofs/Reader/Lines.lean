import LoxLexer.Proofs.Reader.Run
import LoxLexer.Proofs.Scan.Partition

/-!
# Line numbers

The line of an offset is one more than the newlines before it (`LineAt`), so an offset has one line
and later offsets have no earlier lines (`LineAt.le`). Tokens carry the line of their start,
whatever comes before them, and the counter of a reader is at every time the line of the next
character: **`scan_lines`**.
-/

namespace LoxLexer

/-- The offset lies between two characters of the text, or at an end of it, and is on this line. -/
def LineAt (text : List Char) (offset line : Nat) : Prop :=
  ∃ before behind, text = before ++ behind ∧ offset = byteLength before ∧ line = 1 + newlines before

namespace LineAt

variable {text : List Char} {first last line line' : Nat}

theorem le (h : LineAt text first line) (h' : LineAt text last line') (order : first ≤ last) :
    line ≤ line' := by
  obtain ⟨before, behind, rfl, rfl, rfl⟩ := h
  obtain ⟨before', behind', same, rfl, rfl⟩ := h'
  rcases List.append_eq_append_iff.1 same with ⟨more, rfl, -⟩ | ⟨more, rfl, -⟩
  · rw [newlines_append]
    omega
  · obtain rfl : more = [] := by
      rw [← byteLength_eq_zero_iff]
      rw [byteLength_append] at order
      omega
    exact Nat.le_of_eq (by rw [List.append_nil])

theorem unique (h : LineAt text first line) (h' : LineAt text first line') : line = line' :=
  Nat.le_antisymm (h.le h' (Nat.le_refl first)) (h'.le h (Nat.le_refl first))

end LineAt

/-- Every token carries the line of its start, the end of the text included. -/
theorem lineAt_of_mem_tokens {source : String} {t : Token} (h : t ∈ (scan source).tokens) :
    LineAt source.toList t.span.start t.line := by
  rw [tokens_scan, List.mem_append, mem_filterMap_token?, List.mem_singleton] at h
  rcases h with h | rfl
  · obtain ⟨before, e, after, text, -, he⟩ := exists_element_of_mem_foundFrom h
    obtain ⟨kind, lexeme, rfl, rfl⟩ := token_of_finding? he
    exact ⟨before, lexeme ++ after, by rw [text, List.append_assoc]; rfl, Nat.zero_add _, rfl⟩
  · exact ⟨source.toList, [], (List.append_nil _).symm, Nat.zero_add _, rfl⟩

/-- The counter of a reader is the line of the next character. -/
theorem Reader.Stands.lineAt {source before part rest : List Char} {r : Reader}
    (h : r.Stands source before part rest) : LineAt source r.current r.line :=
  ⟨before ++ part, rest, h.text, by rw [h.current, byteLength_append],
    by rw [h.line, newlines_append, Nat.add_assoc]⟩

/-- **Line numbers are right.** Every token carries the line that its span starts on, and at every
time of reading, up to the end of a whole scan, the counter is the line of the next character. Hence
along the tokens lines do not decrease. -/
theorem scan_lines (source : String) :
    (∀ t ∈ (scan source).tokens, LineAt source.toList t.span.start t.line) ∧
    (∀ steps, ∃ r, Reader.run? source.toList steps .fresh = some r ∧
      LineAt source.toList r.current r.line) ∧
    (∃ r, Reader.run? source.toList (Reader.enough source.toList) .fresh = some r ∧
      r.point = .done ∧ r.findings = (scan source).findings) ∧
    (scan source).tokens.Pairwise fun t u => t.line ≤ u.line := by
  refine ⟨fun t => lineAt_of_mem_tokens, fun steps => ?_, Reader.run?_scan source, ?_⟩
  · obtain ⟨r, before, part, rest, run, stands⟩ := (Reader.stands_fresh source.toList).run? steps
    exact ⟨r, run, stands.lineAt⟩
  · refine (pairwise_tokens source).imp_of_mem fun ht hu order => ?_
    exact (lineAt_of_mem_tokens ht).le (lineAt_of_mem_tokens hu) (Nat.le_of_lt order)

end LoxLexer
