import LoxLexer.Proofs.Scan.Findings
import Mathlib.Tactic.ByContra

/-!
# Reading back what is written without separators

Tokens written directly one after another are found again exactly if no two or three of them clash:
**`scan_joined_iff`**. A token ends before the next one unless there is a clash at its place
(`clash_cons_iff`), so the elements of the whole text are the tokens as written exactly if there is
no clash at any place (`elements_joined_iff`). That the first clash cannot be made good by what
follows, not even by a comment that swallows it, comes from the length of the text: tokens that make
up the whole text leave no room for other elements (`eq_tokens_of_text_eq`).
-/

namespace LoxLexer

/-! ### What a token begins with -/

/-- What the first character of a token says of its kind. -/
structure Kind.Begins (kind : Kind) (c : Char) : Prop where
  /-- Words and numbers, and no other tokens, begin with what may go on with a word. -/
  word : isWordPart c = (kind.isWord || kind = number)
  /-- Numbers alone begin with a digit. -/
  digit : c.isDigit = decide (kind = number)
  /-- Two kinds begin with `=`. -/
  equal : c = '=' ↔ kind = equal ∨ kind = equalEqual
  /-- One kind begins with a slash. -/
  slash : c = '/' ↔ kind = slash
  /-- One kind begins with a point. -/
  point : c = '.' ↔ kind = dot

theorem ne_of_class {p : Char → Bool} {c d : Char} (hc : p c = true) (hd : p d = false) :
    c ≠ d := by
  rintro rfl
  rw [hc] at hd
  cases hd

theorem Kind.Begins.of_isWord {kind : Kind} {c : Char} (h : kind.isWord = true)
    (start : isWordStart c = true) : kind.Begins c := by
  have part := isWordPart_of_isWordStart start
  have digit := not_isDigit_of_isWordStart start
  have equal : c ≠ '=' := ne_of_class start rfl
  have slash : c ≠ '/' := ne_of_class start rfl
  have point : c ≠ '.' := ne_of_class start rfl
  cases kind with
  | identifier | keyword word =>
    exact ⟨part, digit, by simp [equal], by simp [slash], by simp [point]⟩
  | _ => cases h

theorem Kind.Begins.of_isDigit {c : Char} (h : c.isDigit = true) : Kind.number.Begins c := by
  have equal : c ≠ '=' := ne_of_class h rfl
  have slash : c ≠ '/' := ne_of_class h rfl
  have point : c ≠ '.' := ne_of_class h rfl
  exact ⟨isWordPart_of_isDigit h, h, by simp [equal], by simp [slash], by simp [point]⟩

theorem Lexeme.begins {kind : Kind} {c : Char} {parts : List Char} (h : Lexeme kind (c :: parts)) :
    kind.Begins c := by
  generalize text : c :: parts = lexeme at h
  cases h with
  | fixed h =>
    cases kind with
    | keyword word =>
      obtain rfl := Option.some.inj h
      obtain ⟨d, more, hs, start, -⟩ := word.spelling_name
      rw [hs] at text
      obtain ⟨rfl, -⟩ := List.cons.inj text
      exact .of_isWord rfl start
    | endOfText | identifier | string | number => cases h
    | _ =>
      obtain rfl := Option.some.inj h
      obtain ⟨rfl, -⟩ := List.cons.inj text
      constructor <;> decide
  | identifier start _ _ =>
    obtain ⟨rfl, -⟩ := List.cons.inj text
    exact .of_isWord rfl start
  | whole nonempty all =>
    subst text
    exact .of_isDigit (all c List.mem_cons_self)
  | decimal nonempty all _ _ =>
    obtain ⟨d, ds, rfl⟩ := List.exists_cons_of_ne_nil nonempty
    obtain ⟨rfl, -⟩ := List.cons.inj text
    exact .of_isDigit (all c List.mem_cons_self)
  | string _ =>
    obtain ⟨rfl, -⟩ := List.cons.inj text
    constructor <;> decide

theorem Lexeme.text_of_dot {text : List Char} (h : Lexeme .dot text) : text = ['.'] := by
  cases h with
  | fixed h =>
    obtain rfl := Option.some.inj h
    rfl

/-- A written token has a first character, which says of its kind what it may. -/
theorem Written.exists_begins (w : Written) :
    ∃ c, w.kind.Begins c ∧ ∀ rest, (w.text ++ rest).head? = some c := by
  obtain ⟨c, parts, text⟩ := List.exists_cons_of_ne_nil w.valid.ne_nil
  have begins := (text ▸ w.valid : Lexeme w.kind (c :: parts)).begins
  exact ⟨c, begins, fun rest => by rw [text]; rfl⟩

theorem Written.text_of_dot {w : Written} (h : w.kind = .dot) : w.text = ['.'] :=
  (h ▸ w.valid : Lexeme .dot w.text).text_of_dot

/-! ### Two tokens -/

theorem Kind.runsInto_iff {first second : Kind} : first.runsInto second = true ↔
    (first.isWord = true ∧ (second.isWord || second = number) = true) ∨
      (first = number ∧ second = number) ∨
      (first.takesEqual = true ∧ (second = equal ∨ second = equalEqual)) ∨
      (first = slash ∧ second = slash) := by
  simp [runsInto, or_assoc]

section Neighbours

variable {w v : Written} {rest : List Char}

theorem Written.not_runsInto_of_ends (h : w.kind.Ends w.text (v.text ++ rest)) :
    ¬ w.kind.runsInto v.kind = true := by
  obtain ⟨c, begins, head⟩ := v.exists_begins
  intro runs
  rcases Kind.runsInto_iff.1 runs with ⟨word, next⟩ | ⟨number, next⟩ | ⟨takes, next⟩ | ⟨slash, next⟩
  · have part := h.word word c (head rest)
    rw [begins.word, next] at part
    cases part
  · have digit := h.digits number c (head rest)
    rw [begins.digit, next] at digit
    cases digit
  · rw [← begins.equal] at next
    exact h.operator takes (next ▸ head rest)
  · rw [← begins.slash] at next
    exact h.slash slash (next ▸ head rest)

/-- A token ends before another one that it does not run into, if the two are not the whole part and
the point of a number. -/
theorem Written.ends_append (apart : ¬ w.kind.runsInto v.kind = true)
    (fraction : w.kind = .number → '.' ∉ w.text → v.kind = .dot →
      ∀ d ∈ rest.head?, d.isDigit = false) : w.kind.Ends w.text (v.text ++ rest) := by
  obtain ⟨c, begins, head⟩ := v.exists_begins
  have first : ∀ d, (v.text ++ rest).head? = some d → c = d :=
    fun d hd => Option.some.inj ((head rest).symm.trans hd)
  rw [Kind.runsInto_iff, not_or, not_or, not_or] at apart
  obtain ⟨word, digits, operator, slash⟩ := apart
  constructor
  case word =>
    intro isWord d hd
    rw [← first d hd, begins.word, Bool.eq_false_iff]
    exact fun next => word ⟨isWord, next⟩
  case operator =>
    intro takes hd
    exact operator ⟨takes, begins.equal.1 (first '=' hd)⟩
  case slash =>
    intro isSlash hd
    exact slash ⟨isSlash, begins.slash.1 (first '/' hd)⟩
  case digits =>
    intro number d hd
    rw [← first d hd, begins.digit, decide_eq_false_iff_not]
    exact fun next => digits ⟨number, next⟩
  case fraction =>
    intro number whole d after hd
    have dot : v.kind = .dot := begins.point.1 (first '.' (by rw [hd]; rfl))
    rw [text_of_dot dot] at hd
    have next : rest = d :: after := (List.cons.inj hd).2
    exact fraction number whole dot d (by rw [next]; rfl)

end Neighbours

/-! ### Clashes -/

/-- The text of tokens written directly one after another. -/
def joined (ws : List Written) : List Char := ws.flatMap Written.text

@[simp] theorem joined_nil : joined [] = [] := rfl

@[simp] theorem joined_cons (w : Written) (ws : List Written) :
    joined (w :: ws) = w.text ++ joined ws := rfl

theorem not_clash_nil : ¬ Clash [] := by
  generalize none : ([] : List Written) = ws
  intro h
  cases h <;> simp at none

/-- A clash is at the first token, which then does not end before the others, or behind it. -/
theorem Clash.not_ends_or {w : Written} {ws : List Written} (h : Clash (w :: ws)) :
    ¬ w.kind.Ends w.text (joined ws) ∨ Clash ws := by
  generalize whole : w :: ws = all at h
  cases h with
  | @pair before after a b runs =>
    cases before with
    | nil =>
      obtain ⟨rfl, rfl⟩ := List.cons.inj whole
      exact .inl fun ends => Written.not_runsInto_of_ends ends runs
    | cons first before =>
      rw [(List.cons.inj whole).2]
      exact .inr (.pair runs)
  | @fraction before after a b c number plain point digits =>
    cases before with
    | nil =>
      obtain ⟨rfl, rfl⟩ := List.cons.inj whole
      obtain ⟨d, begins, head⟩ := c.exists_begins
      obtain ⟨more, text⟩ := List.head?_eq_some_iff.1 (head (joined after))
      left
      intro ends
      have digit := ends.fraction number plain d more (by
        rw [joined_cons, joined_cons, text, Written.text_of_dot point]
        rfl)
      rw [begins.digit, digits] at digit
      cases digit
    | cons first before =>
      rw [(List.cons.inj whole).2]
      exact .inr (.fraction number plain point digits)

theorem ends_of_not_clash {w : Written} {ws : List Written} (h : ¬ Clash (w :: ws)) :
    w.kind.Ends w.text (joined ws) := by
  cases ws with
  | nil => exact .nil
  | cons v vs =>
    refine Written.ends_append (fun runs => h (@Clash.pair [] vs w v runs))
      fun number plain point d hd => ?_
    cases vs with
    | nil => cases hd
    | cons u us =>
      obtain ⟨c, begins, head⟩ := u.exists_begins
      obtain rfl : c = d := Option.some.inj ((head (joined us)).symm.trans hd)
      rw [begins.digit, decide_eq_false_iff_not]
      exact fun digits => h (@Clash.fraction [] us w v u number plain point digits)

/-- A sequence has a clash exactly if its first token does not end before the others, or the others
have a clash. -/
theorem clash_cons_iff {w : Written} {ws : List Written} :
    Clash (w :: ws) ↔ ¬ w.kind.Ends w.text (joined ws) ∨ Clash ws := by
  constructor
  · exact Clash.not_ends_or
  · rintro (runs | later)
    · by_contra apart
      exact runs (ends_of_not_clash apart)
    · exact later.cons

/-! ### Elements -/

/-- The element that a written token is. -/
def Written.element (w : Written) : Element := .token w.kind w.text

theorem Written.fits_iff (w : Written) (rest : List Char) :
    w.element.Fits rest ↔ w.kind.Ends w.text rest := by
  constructor
  · intro h
    cases h with
    | token _ ends => exact ends
  · exact .token w.valid

/-- The elements are the tokens as written exactly if there is no clash. -/
theorem elements_joined_iff (ws : List Written) :
    elements (joined ws) = ws.map Written.element ↔ ¬ Clash ws := by
  induction ws with
  | nil => simp [not_clash_nil]
  | cons w ws ih =>
    have nonempty : w.element.text ≠ [] := w.valid.ne_nil
    rw [clash_cons_iff, not_or, Classical.not_not, ← ih, ← w.fits_iff,
      ← elements_append_eq_cons_iff nonempty]
    rfl

/-! ### Tokens that make up the whole text -/

/-- What is read of an element: the kind and the text of a token. -/
def Element.read? : Element → Option (Kind × List Char)
  | token kind lexeme => some (kind, lexeme)
  | _ => none

theorem length_read_le (es : List Element) :
    ((es.filterMap Element.read?).flatMap Prod.snd).length ≤ (es.flatMap Element.text).length := by
  induction es with
  | nil => simp
  | cons e es ih =>
    cases e <;> simp [List.filterMap_cons, Element.read?, Element.text] at ih ⊢ <;> omega

/-- If the tokens among some elements make up all of their text, there are no other elements. -/
theorem eq_tokens_of_text_eq {es : List Element} {ws : List Written}
    (nonempty : ∀ e ∈ es, e.text ≠ [])
    (read : es.filterMap Element.read? = ws.map fun w => (w.kind, w.text))
    (text : es.flatMap Element.text = joined ws) : es = ws.map Written.element := by
  induction es generalizing ws with
  | nil =>
    cases ws with
    | nil => rfl
    | cons w ws => cases read
  | cons e es ih =>
    obtain ⟨first, more⟩ := List.forall_mem_cons.1 nonempty
    cases he : e.read? with
    | some r =>
      cases e with
      | token kind lexeme =>
        cases ws with
        | nil => cases read
        | cons w ws =>
          obtain ⟨same, others⟩ := List.cons.inj read
          obtain ⟨rfl, rfl⟩ := Prod.mk.inj same
          rw [ih more others (List.append_cancel_left text)]
          rfl
      | _ => cases he
    | none =>
      -- the text of an element that is no token would be left over
      rw [List.filterMap_cons_none he] at read
      have shorter := length_read_le es
      have joins : (ws.map fun w => (w.kind, w.text)).flatMap Prod.snd = joined ws := by
        rw [List.flatMap_map, joined]
      have all := congrArg List.length text
      have pos := List.length_pos_iff.2 first
      rw [List.flatMap_cons, List.length_append] at all
      rw [read, joins] at shorter
      omega

/-- The kinds and lexemes of the tokens are those that are read of the elements. -/
theorem read_tokens (source : String) :
    (scan source).tokens.map (fun t => (t.kind, t.lexeme.toList)) =
      (elements source.toList).filterMap Element.read? ++ [(.endOfText, [])] := by
  have located : ∀ (p : Place) (es : List Element),
      (((locate p es).filterMap Located.finding?).filterMap Finding.token?).map
        (fun t => (t.kind, t.lexeme.toList)) = es.filterMap Element.read? := by
    intro p es
    induction es generalizing p with
    | nil => rfl
    | cons e es ih =>
      cases e <;> simp [List.filterMap_cons, Located.finding?, Finding.token?, Element.read?,
        Token.at, ih]
  rw [tokens_scan, List.map_append, foundFrom, located]
  rfl

theorem errors_locate_tokens (p : Place) (ws : List Written) :
    ((locate p (ws.map Written.element)).filterMap Located.finding?).filterMap Finding.error? =
      [] := by
  induction ws generalizing p with
  | nil => rfl
  | cons w ws ih =>
    rw [List.map_cons, locate_cons, Written.element]
    exact ih _

/-- **Tokens written without separators are read back if and only if no two or three of them
clash.** -/
theorem scan_joined_iff (ws : List Written) :
    ((scan (String.ofList (joined ws))).errors = [] ∧
      (scan (String.ofList (joined ws))).tokens.map (fun t => (t.kind, t.lexeme.toList)) =
        ws.map (fun w => (w.kind, w.text)) ++ [(.endOfText, [])]) ↔ ¬ Clash ws := by
  rw [← elements_joined_iff, read_tokens, String.toList_ofList, List.append_cancel_right_eq]
  constructor
  · rintro ⟨-, read⟩
    exact eq_tokens_of_text_eq (fun e => text_ne_nil_of_mem_elements) read (text_elements _)
  · intro h
    constructor
    · rw [errors_scan, foundFrom, String.toList_ofList, h, errors_locate_tokens]
    · rw [h, List.filterMap_map]
      exact congrFun List.filterMap_eq_map' ws

/-- A point between whole numbers joins them, and behind a fraction it is a token. -/
example : (scan "1.2").tokens.map Token.lexeme = ["1.2", ""] ∧
    (scan "1.5.2").tokens.map Token.lexeme = ["1.5", ".", "2", ""] := by decide +kernel

end LoxLexer
