import LoxLexer.Proofs.Scan.Findings

/-!
# Tokens are longest words

The word that begins a text is at least as long as every word of the grammar that the text begins
with (`length_le_cut`), and a text that is the word of one kind is of no other kind
(`Lexeme.kind_unique`). Hence **`scan_longest_words`**: at the start of each token stands a longest
word, and its text alone decides its kind and its literal.
-/

namespace LoxLexer

/-! ### No word is longer than what is cut off -/

theorem length_le_takeWhile_append {p : Char → Bool} {run : List Char}
    (all : ∀ c ∈ run, p c = true) (rest : List Char) :
    run.length ≤ ((run ++ rest).takeWhile p).length := by
  rw [List.takeWhile_append_of_pos all, List.length_append]
  exact Nat.le_add_right _ _

namespace Element

theorem length_cut_pos (c : Char) (rest : List Char) : 1 ≤ (cut c rest).1.text.length :=
  List.length_pos_iff.2 (text_cut_ne_nil c rest)

theorem length_name_le_cut {c : Char} {parts : List Char} (start : isWordStart c = true)
    (all : ∀ d ∈ parts, isWordPart d = true) (more : List Char) :
    (c :: parts).length ≤ (cut c (parts ++ more)).1.text.length := by
  rw [cut_of_isWordStart start]
  exact Nat.succ_le_succ (length_le_takeWhile_append all more)

theorem length_digits_le_cut {c : Char} {digits : List Char}
    (all : ∀ d ∈ c :: digits, d.isDigit = true) (more : List Char) :
    (c :: digits).length ≤ (cut c (digits ++ more)).1.text.length := by
  obtain ⟨first, all'⟩ := List.forall_mem_cons.1 all
  have run := length_le_takeWhile_append all' more
  rw [cut_of_isDigit first]
  simp only [cutNumber, text, List.length_append, List.length_cons]
  omega

theorem length_decimal_le_cut {c : Char} {digits fraction : List Char}
    (all : ∀ d ∈ c :: digits, d.isDigit = true) (nonempty : fraction ≠ [])
    (allFraction : ∀ d ∈ fraction, d.isDigit = true) (more : List Char) :
    (c :: digits ++ '.' :: fraction).length ≤
      (cut c (digits ++ '.' :: fraction ++ more)).1.text.length := by
  obtain ⟨d, ds, rfl⟩ := List.exists_cons_of_ne_nil nonempty
  obtain ⟨digit, allMore⟩ := List.forall_mem_cons.1 allFraction
  have run := length_le_takeWhile_append allMore more
  have h := cut_point all digit (ds ++ more)
  rw [List.append_assoc, show '.' :: d :: ds ++ more = '.' :: d :: (ds ++ more) from rfl, h]
  simp only [text, List.length_append, List.length_cons]
  omega

theorem length_comment_le_cut {body : List Char} (h : '\n' ∉ body) (more : List Char) :
    ('/' :: '/' :: body).length ≤ (cut '/' ('/' :: body ++ more)).1.text.length := by
  rw [cut_slash]
  exact Nat.succ_le_succ (Nat.succ_le_succ (length_le_takeWhile_append (ne_mark_of_not_mem h) more))

/-- The one text of a kind is not longer than what is cut off a text that begins with it. -/
theorem length_spelling_le_cut {kind : Kind} {spelling : String} {c : Char} {rest more : List Char}
    (h : kind.spelling? = some spelling) (text : spelling.toList ++ more = c :: rest) :
    spelling.toList.length ≤ (cut c rest).1.text.length := by
  cases kind with
  | keyword word =>
    obtain rfl := Option.some.inj h
    obtain ⟨d, parts, hs, start, all⟩ := word.spelling_name
    rw [hs] at text ⊢
    obtain ⟨rfl, rfl⟩ := List.cons.inj text
    exact length_name_le_cut start all more
  | bangEqual | equalEqual | lessEqual | greaterEqual =>
    obtain rfl := Option.some.inj h
    obtain ⟨rfl, rfl⟩ := List.cons.inj text
    exact Nat.le_refl 2
  | endOfText | identifier | string | number => cases h
  | _ =>
    obtain rfl := Option.some.inj h
    exact length_cut_pos c rest

/-- No word that a text begins with is longer than what is cut off the text. -/
theorem length_le_cut {word : List Char} (h : IsWord word) {c : Char} {rest more : List Char}
    (text : word ++ more = c :: rest) : word.length ≤ (cut c rest).1.text.length := by
  rcases h with ⟨kind, h⟩ | h
  · cases h with
    | fixed h => exact length_spelling_le_cut h text
    | identifier start parts _ =>
      obtain ⟨rfl, rfl⟩ := List.cons.inj text
      exact length_name_le_cut start parts more
    | whole nonempty all =>
      obtain ⟨d, ds, rfl⟩ := List.exists_cons_of_ne_nil nonempty
      obtain ⟨rfl, rfl⟩ := List.cons.inj text
      exact length_digits_le_cut all more
    | decimal nonempty all nonemptyFraction allFraction =>
      obtain ⟨d, ds, rfl⟩ := List.exists_cons_of_ne_nil nonempty
      obtain ⟨rfl, rfl⟩ := List.cons.inj text
      exact length_decimal_le_cut all nonemptyFraction allFraction more
    | @string body h =>
      have fits : (token .string ('"' :: body ++ ['"'])).Fits more :=
        .token (.string h) (.of_isClosed rfl)
      rw [cut_of_fits fits text]
      exact Nat.le_refl _
  · cases h with
    | line h =>
      obtain ⟨rfl, rfl⟩ := List.cons.inj text
      exact length_comment_le_cut h more

end Element

/-! ### A text decides its kind -/

theorem Lexeme.cut_eq {kind : Kind} {c : Char} {rest : List Char} (h : Lexeme kind (c :: rest)) :
    Element.cut c rest = (.token kind (c :: rest), []) :=
  Element.cut_of_fits (.token h .nil) (List.append_nil _)

theorem Lexeme.kind_unique {kind kind' : Kind} {text : List Char} (h : Lexeme kind text)
    (h' : Lexeme kind' text) : kind = kind' := by
  obtain ⟨c, rest, rfl⟩ := List.exists_cons_of_ne_nil h.ne_nil
  exact (Element.token.inj (Prod.mk.inj (h.cut_eq.symm.trans h'.cut_eq)).1).1

theorem Lexeme.not_isComment {kind : Kind} {text : List Char} (h : Lexeme kind text) :
    ¬ IsComment text := by
  rintro ⟨line⟩
  have hc := Element.cut_of_fits (.comment line (by simp)) (List.append_nil _)
  exact Element.noConfusion (Prod.mk.inj (h.cut_eq.symm.trans hc)).1

/-- The texts of words, reserved or not. -/
inductive IsName : List Char → Prop where
  /-- A letter or an underscore, then letters, digits and underscores. -/
  | word {c : Char} {rest : List Char} (start : isWordStart c = true)
      (parts : ∀ d ∈ rest, isWordPart d = true) : IsName (c :: rest)

theorem lexeme_keyword_iff {word : Keyword} {text : List Char} :
    Lexeme (.keyword word) text ↔ text = word.spelling.toList := by
  constructor
  · intro h
    cases h with
    | fixed h => rw [Option.some.inj h]
  · rintro rfl
    exact .fixed rfl

theorem lexeme_identifier_iff {text : List Char} : Lexeme .identifier text ↔
    IsName text ∧ ∀ word : Keyword, text ≠ word.spelling.toList := by
  constructor
  · intro h
    cases h with
    | fixed h => cases h
    | identifier start parts free => exact ⟨.word start parts, fun word h => free word h.symm⟩
  · rintro ⟨⟨start, parts⟩, free⟩
    exact .identifier start parts fun word h => free word h.symm

/-! ### Literals -/

theorem read?_whole {digits : List Char} (nonempty : digits ≠ [])
    (all : ∀ d ∈ digits, d.isDigit = true) :
    Decimal.read? digits = some ⟨Nat.ofDigitChars 10 digits 0, 0⟩ := by
  have ends : ∀ c ∈ ([] : List Char).head?, c.isDigit = false := by simp
  have ht := takeWhile_append_of_head all ends
  have hd := dropWhile_append_of_head all ends
  rw [List.append_nil] at ht hd
  simp only [Decimal.read?, ht, hd, if_neg nonempty]

theorem read?_decimal {digits fraction : List Char} (nonempty : digits ≠ [])
    (all : ∀ d ∈ digits, d.isDigit = true) (nonemptyFraction : fraction ≠ [])
    (allFraction : ∀ d ∈ fraction, d.isDigit = true) :
    Decimal.read? (digits ++ '.' :: fraction) =
      some ⟨Nat.ofDigitChars 10 (digits ++ fraction) 0, fraction.length⟩ := by
  have ends : ∀ c ∈ ('.' :: fraction).head?, c.isDigit = false := by simp
  have hf : fraction ≠ [] ∧ fraction.all Char.isDigit = true :=
    ⟨nonemptyFraction, List.all_eq_true.2 allFraction⟩
  simp only [Decimal.read?, takeWhile_append_of_head all ends, dropWhile_append_of_head all ends,
    if_neg nonempty, if_pos hf]

theorem Lexeme.exists_read? {text : List Char} (h : Lexeme .number text) :
    ∃ d, Decimal.read? text = some d := by
  cases h with
  | fixed h => cases h
  | whole nonempty all => exact ⟨_, read?_whole nonempty all⟩
  | decimal nonempty all nonemptyFraction allFraction =>
    exact ⟨_, read?_decimal nonempty all nonemptyFraction allFraction⟩

theorem isSome_literal?_iff {kind : Kind} {text : List Char} (h : Lexeme kind text) :
    (kind.literal? text).isSome = true ↔ kind = .number ∨ kind = .string := by
  cases kind with
  | number =>
    obtain ⟨d, hd⟩ := h.exists_read?
    simp [Kind.literal?, hd]
  | _ => simp [Kind.literal?]

/-! ### Longest words -/

/-- The word begins the text, and no longer word of the grammar does. -/
structure IsLongestWord (word text : List Char) : Prop where
  /-- It is a word of the grammar. -/
  isWord : IsWord word
  /-- The text begins with it. -/
  head : word <+: text
  /-- No word that the text begins with is longer. -/
  longest : ∀ other, IsWord other → other <+: text → other.length ≤ word.length

theorem Element.Fits.isLongestWord {kind : Kind} {lexeme rest : List Char}
    (h : (Element.token kind lexeme).Fits rest) : IsLongestWord lexeme (lexeme ++ rest) := by
  cases h with
  | token valid ends =>
    refine ⟨.inl ⟨kind, valid⟩, List.prefix_append _ _, fun other isWord ⟨more, text⟩ => ?_⟩
    obtain ⟨c, parts, rfl⟩ := List.exists_cons_of_ne_nil valid.ne_nil
    have length := Element.length_le_cut isWord text
    rwa [Element.cut_of_fits (.token valid ends) rfl] at length

/-- The token is read from the source by the grammar. -/
structure Token.ReadFrom (t : Token) (source : List Char) : Prop where
  /-- At the start of its span, its lexeme is the longest word. -/
  longest : ∃ before rest, source = before ++ rest ∧
    t.span = ⟨byteLength before, byteLength before + byteLength t.lexeme.toList⟩ ∧
    IsLongestWord t.lexeme.toList rest
  /-- The lexeme is not a comment. -/
  notComment : ¬ IsComment t.lexeme.toList
  /-- The kind is the one that has words like the lexeme. -/
  kind : ∀ kind, Lexeme kind t.lexeme.toList ↔ t.kind = kind
  /-- The kind is a reserved word's exactly if the lexeme is spelled like it. -/
  keyword : ∀ word : Keyword, t.kind = .keyword word ↔ t.lexeme = word.spelling
  /-- The kind is that of identifiers exactly if the lexeme is a word that is not reserved. -/
  identifier : t.kind = .identifier ↔
    IsName t.lexeme.toList ∧ ∀ word : Keyword, t.lexeme ≠ word.spelling
  /-- Numbers and strings have a literal, and no other tokens. -/
  literal : t.literal.isSome = true ↔ t.kind = .number ∨ t.kind = .string
  /-- The literal of a number is what the lexeme reads as. -/
  number : t.kind = .number → ∃ d, Decimal.read? t.lexeme.toList = some d ∧
    t.literal = some (.number d.toBinary64)
  /-- The literal of a string is the lexeme without its first and last character. -/
  string : t.kind = .string → t.literal = some (.text (String.ofList t.lexeme.toList.tail.dropLast))

/-- Every token but the end of the text is read by the grammar. -/
theorem readFrom_of_mem_foundFrom {source : List Char} {t : Token}
    (h : .token t ∈ foundFrom Place.start source) : t.ReadFrom source := by
  obtain ⟨before, e, after, rfl, fits, he⟩ := exists_element_of_mem_foundFrom h
  obtain ⟨kind, lexeme, rfl, rfl⟩ := token_of_finding? he
  have longest := fits.isLongestWord
  cases fits with
  | token valid ends =>
    have hk : ∀ k, Lexeme k lexeme ↔ kind = k :=
      fun k => ⟨valid.kind_unique, fun h => h ▸ valid⟩
    have hl : (Token.at (Place.start.after before) kind lexeme).lexeme.toList = lexeme :=
      String.toList_ofList
    constructor
    case longest =>
      rw [hl]
      exact ⟨before, lexeme ++ after, by simp [Element.text],
        by simp [Token.at, Place.start, Place.after], longest⟩
    case notComment => rw [hl]; exact valid.not_isComment
    case kind => rw [hl]; exact hk
    case keyword =>
      intro word
      rw [← String.toList_inj, hl, ← lexeme_keyword_iff, hk]
      rfl
    case identifier =>
      simp only [ne_eq, ← String.toList_inj, hl]
      rw [← lexeme_identifier_iff, hk]
      rfl
    case literal => exact isSome_literal?_iff valid
    case number =>
      intro hn
      obtain rfl : kind = .number := hn
      obtain ⟨d, hd⟩ := valid.exists_read?
      exact ⟨d, by rw [hl, hd], by simp [Token.at, Kind.literal?, hd]⟩
    case string =>
      intro hs
      obtain rfl : kind = .string := hs
      rw [hl]
      rfl

/-- The kind and the lexeme of a token decide its literal, and no token has the lexeme of the end of
the text. -/
theorem lexeme_of_mem_tokens {source : String} {t : Token} (h : t ∈ (scan source).tokens) :
    (Lexeme t.kind t.lexeme.toList ∨ t.kind = .endOfText ∧ t.lexeme.toList = []) ∧
      t.literal = t.kind.literal? t.lexeme.toList := by
  rw [tokens_scan, List.mem_append, mem_filterMap_token?, List.mem_singleton] at h
  rcases h with h | rfl
  · obtain ⟨before, e, after, -, fits, he⟩ := exists_element_of_mem_foundFrom h
    obtain ⟨kind, lexeme, rfl, rfl⟩ := token_of_finding? he
    cases fits with
    | token valid =>
      simp only [Token.at, String.toList_ofList]
      exact ⟨.inl valid, trivial⟩
  · exact ⟨.inr ⟨rfl, rfl⟩, rfl⟩

/-- **At the start of every token the longest word of the grammar is read, and its text alone
decides the kind and the literal**, also between two scans. -/
theorem scan_longest_words (source other : String) :
    (∀ t ∈ (scan source).tokens, t.kind ≠ .endOfText → t.ReadFrom source.toList) ∧
      ∀ t ∈ (scan source).tokens, ∀ u ∈ (scan other).tokens, t.lexeme = u.lexeme →
        t.kind = u.kind ∧ t.literal = u.literal := by
  constructor
  · intro t ht kind
    rw [tokens_scan, List.mem_append, mem_filterMap_token?, List.mem_singleton] at ht
    rcases ht with ht | rfl
    · exact readFrom_of_mem_foundFrom ht
    · exact absurd rfl kind
  · intro t ht u hu same
    obtain ⟨kt, lt⟩ := lexeme_of_mem_tokens ht
    obtain ⟨ku, lu⟩ := lexeme_of_mem_tokens hu
    rw [← same] at ku lu
    have kind : t.kind = u.kind := by
      rcases kt with kt | ⟨kt, empty⟩ <;> rcases ku with ku | ⟨ku, empty'⟩
      · exact kt.kind_unique ku
      · exact absurd empty' kt.ne_nil
      · exact absurd empty ku.ne_nil
      · rw [kt, ku]
    exact ⟨kind, by rw [lt, lu, kind]⟩

/-- A point joins the digits behind it to a number, and a point before a word does not; the word is
reserved in both sources. -/
theorem longest_word_before_point :
    let number := Token.at ⟨2, 1⟩ .number ['1', '.', '5']
    let word := Token.at ⟨6, 1⟩ (.keyword .orWord) ['o', 'r']
    let again := Token.at ⟨5, 2⟩ (.keyword .orWord) ['o', 'r']
    (number ∈ (scan "!=1.5.or").tokens ∧ number.ReadFrom "!=1.5.or".toList) ∧
      word ∈ (scan "!=1.5.or").tokens ∧ again ∈ (scan "//or\nor").tokens ∧
        word.lexeme = again.lexeme ∧ word.kind = again.kind ∧ word.literal = again.literal := by
  intro number word again
  have hn : number ∈ (scan "!=1.5.or").tokens := by decide +kernel
  have hw : word ∈ (scan "!=1.5.or").tokens := by decide +kernel
  have ha : again ∈ (scan "//or\nor").tokens := by decide +kernel
  obtain ⟨read, same⟩ := scan_longest_words "!=1.5.or" "//or\nor"
  exact ⟨⟨hn, read number hn nofun⟩, hw, ha, rfl, same word hw again ha rfl⟩

end LoxLexer
