import LoxLexer.Proofs.Scan.Partition
import LoxLexer.Proofs.Scan.Spaced

/-!
# Blanking what is no token

To blank a text outside of given spans is to put as many blanks as it has bytes in place of every
character there but newlines, so that all else keeps its line and its place. A text in which
everything but the tokens is made blank has the same tokens in the same places, and no errors:
**`scan_onlyTokens`**. Tokens stay as they are (`blankedFrom_of_inside`), all else becomes a
separator (`separator_blankedFrom`) of the same bytes and newlines (`Place.after_blankedFrom`), and
no token gets longer, because the blanked text begins with a blank or as the text itself does
(`head_blankedFrom`).
-/

namespace LoxLexer

/-! ### Blanked texts -/

/-- Whether an offset lies in one of the spans. -/
def inside (spans : List Span) (offset : Nat) : Bool :=
  spans.any fun s => s.start ≤ offset && offset < s.stop

theorem inside_iff {spans : List Span} {offset : Nat} :
    inside spans offset = true ↔ ∃ s ∈ spans, s.start ≤ offset ∧ offset < s.stop := by
  simp [inside]

/-- Blanks what lies outside of the spans in a text that begins at `offset`. -/
def blankedFrom (spans : List Span) (offset : Nat) : List Char → List Char
  | [] => []
  | c :: rest =>
    (if c = '\n' ∨ inside spans offset = true then [c] else List.replicate c.utf8Size ' ') ++
      blankedFrom spans (offset + c.utf8Size) rest

theorem blankedFrom_append (spans : List Span) (offset : Nat) (s t : List Char) :
    blankedFrom spans offset (s ++ t) =
      blankedFrom spans offset s ++ blankedFrom spans (offset + byteLength s) t := by
  induction s generalizing offset with
  | nil => rfl
  | cons c s ih =>
    rw [List.cons_append, blankedFrom, blankedFrom, ih, byteLength_cons, Nat.add_assoc,
      List.append_assoc]

/-- Blanks what lies outside of the spans in a text. -/
def blanked (spans : List Span) (text : List Char) : List Char := blankedFrom spans 0 text

theorem byteLength_spaces (n : Nat) : byteLength (List.replicate n ' ') = n := by
  induction n with
  | zero => rfl
  | succ n ih =>
    rw [List.replicate_succ, byteLength_cons, ih, Nat.add_comm]
    rfl

theorem separator_spaces (n : Nat) : Separator (List.replicate n ' ') := by
  induction n with
  | zero => exact .nil
  | succ n ih => exact .blank rfl ih

theorem Place.after_spaces (p : Place) {c : Char} (h : c ≠ '\n') :
    p.after (List.replicate c.utf8Size ' ') = p.after [c] := by
  simp [after, byteLength_spaces, newlines, List.count_replicate, h]

theorem Place.after_blankedFrom (p : Place) (spans : List Span) (offset : Nat)
    (text : List Char) : p.after (blankedFrom spans offset text) = p.after text := by
  induction text generalizing p offset with
  | nil => rfl
  | cons c rest ih =>
    have shape : c :: rest = [c] ++ rest := rfl
    rw [blankedFrom, Place.after_append, ih, shape, Place.after_append]
    split
    · rfl
    · next h =>
      rw [Place.after_spaces p fun newline => h (.inl newline)]

theorem blankedFrom_of_inside {spans : List Span} {offset : Nat} {text : List Char}
    (h : ∀ o, offset ≤ o → o < offset + byteLength text → inside spans o = true) :
    blankedFrom spans offset text = text := by
  induction text generalizing offset with
  | nil => rfl
  | cons c rest ih =>
    have pos := c.utf8Size_pos
    rw [byteLength_cons] at h
    rw [blankedFrom, if_pos (.inr (h offset (Nat.le_refl _) (by omega))),
      ih fun o le lt => h o (by omega) (by omega)]
    rfl

theorem separator_blankedFrom {spans : List Span} {offset : Nat} {text : List Char}
    (h : ∀ o, offset ≤ o → o < offset + byteLength text → inside spans o = false) :
    Separator (blankedFrom spans offset text) := by
  induction text generalizing offset with
  | nil => exact .nil
  | cons c rest ih =>
    have pos := c.utf8Size_pos
    rw [byteLength_cons] at h
    refine .append ?_ (ih fun o le lt => h o (by omega) (by omega))
    by_cases newline : c = '\n'
    · rw [if_pos (.inl newline), newline]
      exact .blank rfl .nil
    · rw [if_neg (by simp [newline, h offset (Nat.le_refl _) (by omega)])]
      exact separator_spaces _

/-- A blanked text begins with a blank, or with the same character and then with what is blanked
after it. -/
theorem head_blankedFrom {spans : List Span} {offset : Nat} {text after : List Char} {c : Char}
    (h : blankedFrom spans offset text = c :: after) (code : isBlank c = false) :
    ∃ rest, text = c :: rest ∧ after = blankedFrom spans (offset + c.utf8Size) rest := by
  cases text with
  | nil => cases h
  | cons d rest =>
    rw [blankedFrom] at h
    split at h
    · obtain ⟨rfl, rfl⟩ := List.cons.inj h
      exact ⟨rest, rfl, rfl⟩
    · obtain ⟨n, hn⟩ := Nat.exists_eq_succ_of_ne_zero (Nat.ne_of_gt d.utf8Size_pos)
      rw [hn, List.replicate_succ] at h
      obtain ⟨rfl, -⟩ := List.cons.inj h
      cases code

theorem Kind.Ends.blankedFrom {kind : Kind} {lexeme rest : List Char} (h : kind.Ends lexeme rest)
    (spans : List Span) (offset : Nat) : kind.Ends lexeme (blankedFrom spans offset rest) := by
  refine h.of_alike (R := fun s t => ∃ offset, t = LoxLexer.blankedFrom spans offset s)
    (fun ⟨offset, text⟩ code => ?_) ⟨offset, rfl⟩
  obtain ⟨rest, rfl, after⟩ := head_blankedFrom text.symm code
  exact ⟨rest, rfl, _, after⟩

/-! ### The spans of the tokens -/

/-- As far as a text goes that begins at a place, the spans hold the bytes of its tokens and no
others. -/
def HoldTokens (spans : List Span) (p : Place) (text : List Char) : Prop :=
  ∀ o, p.offset ≤ o → o < p.offset + byteLength text →
    (inside spans o = true ↔
      ∃ t, .token t ∈ foundFrom p text ∧ t.span.start ≤ o ∧ o < t.span.stop)

variable {spans : List Span} {p : Place} {e : Element} {rest : List Char}

theorem HoldTokens.after (h : HoldTokens spans p (e.text ++ rest)) (fits : e.Fits rest) :
    HoldTokens spans (p.after e.text) rest := by
  intro o le lt
  have le' : p.offset + byteLength e.text ≤ o := le
  have lt' : o < p.offset + byteLength e.text + byteLength rest := lt
  rw [h o (by omega) (by rw [byteLength_append]; omega)]
  constructor
  · rintro ⟨t, ht, start, stop⟩
    rw [foundFrom_append fits, List.mem_append, Option.mem_toList] at ht
    rcases ht with ht | ht
    · have span : t.span = _ := span_of_finding? ht
      rw [span] at stop
      simp only at stop
      omega
    · exact ⟨t, ht, start, stop⟩
  · rintro ⟨t, ht, start, stop⟩
    exact ⟨t, by rw [foundFrom_append fits]; exact List.mem_append_right _ ht, start, stop⟩

theorem HoldTokens.inside_token {t : Token} (h : HoldTokens spans p (e.text ++ rest))
    (fits : e.Fits rest) (he : Located.finding? ⟨p, e⟩ = some (.token t)) :
    ∀ o, p.offset ≤ o → o < p.offset + byteLength e.text → inside spans o = true := by
  intro o le lt
  have span : t.span = _ := span_of_finding? he
  refine (h o le (by rw [byteLength_append]; omega)).2 ⟨t, ?_, ?_, ?_⟩
  · rw [foundFrom_append fits, he]
    exact List.mem_append_left _ (by simp)
  · rw [span]
    exact le
  · rw [span]
    exact lt

theorem HoldTokens.not_inside (h : HoldTokens spans p (e.text ++ rest)) (fits : e.Fits rest)
    (he : ∀ t, Located.finding? ⟨p, e⟩ ≠ some (.token t)) :
    ∀ o, p.offset ≤ o → o < p.offset + byteLength e.text → inside spans o = false := by
  intro o le lt
  rw [Bool.eq_false_iff, ne_eq, h o le (by rw [byteLength_append]; omega)]
  rintro ⟨t, ht, start, stop⟩
  rw [foundFrom_append fits, List.mem_append, Option.mem_toList] at ht
  rcases ht with ht | ht
  · exact he t ht
  · have bounds : p.offset + byteLength e.text ≤ t.span.start := (span_bounds ht).1
    omega

/-! ### The scan of a blanked text -/

/-- In a text of which all but the tokens is blanked, the tokens are found and nothing else. -/
theorem foundFrom_blankedFrom {text : List Char} (h : HoldTokens spans p text) :
    foundFrom p (blankedFrom spans p.offset text) =
      ((foundFrom p text).filterMap Finding.token?).map .token := by
  induction text using text_induction generalizing p with
  | nil => simp [blankedFrom]
  | element e rest fits ih =>
    have later := ih (h.after fits)
    have next : (p.after e.text).offset = p.offset + byteLength e.text := rfl
    rw [blankedFrom_append, foundFrom_append fits, List.filterMap_append, List.map_append, ← later,
      next]
    by_cases token : ∃ t, Located.finding? ⟨p, e⟩ = some (.token t)
    · obtain ⟨t, he⟩ := token
      obtain ⟨kind, lexeme, rfl, rfl⟩ := token_of_finding? he
      rw [blankedFrom_of_inside (h.inside_token fits he), he]
      cases fits with
      | token valid ends => exact foundFrom_append (.token valid (ends.blankedFrom _ _)) p
    · have none : ∀ t, Located.finding? ⟨p, e⟩ ≠ some (.token t) := fun t ht => token ⟨t, ht⟩
      have skipped : (Located.finding? ⟨p, e⟩).toList.filterMap Finding.token? = [] := by
        cases he : Located.finding? ⟨p, e⟩ with
        | none => rfl
        | some f =>
          cases f with
          | token t => exact absurd he (none t)
          | error d => rfl
      rw [foundFrom_separator (separator_blankedFrom (h.not_inside fits none)),
        Place.after_blankedFrom, skipped]
      rfl

/-- The spans of the tokens of a scan hold its tokens, the end of the text being empty. -/
theorem holdTokens_scan (source : String) :
    HoldTokens ((scan source).tokens.map Token.span) Place.start source.toList := by
  intro o _ _
  rw [inside_iff]
  constructor
  · rintro ⟨s, hs, start, stop⟩
    obtain ⟨t, ht, rfl⟩ := List.mem_map.1 hs
    rw [tokens_scan, List.mem_append, mem_filterMap_token?, List.mem_singleton] at ht
    rcases ht with ht | rfl
    · exact ⟨t, ht, start, stop⟩
    · exact absurd (Nat.lt_of_le_of_lt start stop) (Nat.lt_irrefl _)
  · rintro ⟨t, ht, start, stop⟩
    refine ⟨t.span, List.mem_map_of_mem ?_, start, stop⟩
    rw [tokens_scan]
    exact List.mem_append_left _ (mem_filterMap_token?.2 ht)

/-- A source in which everything but the tokens is made blank. -/
def onlyTokens (source : String) : String :=
  String.ofList (blanked ((scan source).tokens.map Token.span) source.toList)

/-- **Blanking everything but the tokens leaves no error, and all tokens as they are**: their kinds,
lexemes, literals, lines and spans, and those of the end of the text. -/
theorem scan_onlyTokens (source : String) : (scan (onlyTokens source)).errors = [] ∧
    (scan (onlyTokens source)).tokens = (scan source).tokens := by
  have found : foundFrom Place.start (onlyTokens source).toList =
      ((foundFrom Place.start source.toList).filterMap Finding.token?).map .token := by
    rw [onlyTokens, String.toList_ofList]
    exact foundFrom_blankedFrom (holdTokens_scan source)
  have last : Place.start.after (onlyTokens source).toList = Place.start.after source.toList := by
    rw [onlyTokens, String.toList_ofList, blanked, Place.after_blankedFrom]
  constructor
  · simp [errors_scan, found, List.filterMap_map, Function.comp_def, Finding.error?]
  · rw [tokens_scan, tokens_scan, found, last]
    simp [List.filterMap_map, Function.comp_def, Finding.token?]

end LoxLexer
