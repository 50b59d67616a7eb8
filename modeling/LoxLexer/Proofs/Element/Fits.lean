import LoxLexer.Proofs.Element.FirstCharacter
import Mathlib.Tactic.SplitIfs

/-!
# Elements that fit

An element *fits* in front of a text if it is well-formed and nothing at the head of the text would
make it longer. That is said of each class of elements on its own, without cutting. The element at
the head of a text is the one that fits there: **`cut_eq_iff`**. Whether a token ends depends on two
characters behind it (`Kind.Ends.of_lookahead`).
-/

namespace LoxLexer

/-! ### Where tokens end -/

/-- The text `rest` does not make a token of this kind and text longer. -/
structure Kind.Ends (kind : Kind) (lexeme rest : List Char) : Prop where
  /-- A word ends before what is no part of words. -/
  word : kind.isWord = true → ∀ c ∈ rest.head?, isWordPart c = false
  /-- A single operator ends before all but `=`. -/
  operator : kind.takesEqual = true → rest.head? ≠ some '='
  /-- A slash ends before all but a slash. -/
  slash : kind = .slash → rest.head? ≠ some '/'
  /-- A number ends before what is no digit. -/
  digits : kind = .number → ∀ c ∈ rest.head?, c.isDigit = false
  /-- A number without a fraction does not end before a point and a digit. -/
  fraction : kind = .number → '.' ∉ lexeme → ∀ d after, rest = '.' :: d :: after → d.isDigit = false

/-- The kinds whose tokens are over at their last character, whatever follows. -/
def Kind.isClosed (kind : Kind) : Bool :=
  !kind.isWord && !kind.takesEqual && kind ≠ slash && kind ≠ number

theorem Kind.isWord_ofWord (word : List Char) : (ofWord word).isWord = true := by
  unfold ofWord
  split <;> rfl

namespace Kind.Ends

variable {kind : Kind} {lexeme rest : List Char}

theorem of_isClosed (h : kind.isClosed = true) : kind.Ends lexeme rest := by
  simp only [isClosed, Bool.and_eq_true, Bool.not_eq_true', decide_eq_true_eq] at h
  obtain ⟨⟨⟨word, operator⟩, slash⟩, number⟩ := h
  exact ⟨by simp [word], by simp [operator], fun h => absurd h slash, fun h => absurd h number,
    fun h => absurd h number⟩

theorem of_isWord (h : kind.isWord = true) (part : ∀ c ∈ rest.head?, isWordPart c = false) :
    kind.Ends lexeme rest := by
  cases kind with
  | identifier | keyword word => constructor <;> simp_all [takesEqual]
  | _ => simp [isWord, isKeyword] at h

theorem of_takesEqual (h : kind.takesEqual = true) (equal : rest.head? ≠ some '=') :
    kind.Ends lexeme rest := by
  cases kind with
  | bang | equal | less | greater => constructor <;> simp_all [isWord, isKeyword]
  | _ => simp [takesEqual] at h

theorem of_slash (h : rest.head? ≠ some '/') : Kind.slash.Ends lexeme rest := by
  constructor <;> simp_all [isWord, isKeyword, takesEqual]

theorem of_number (digits : ∀ c ∈ rest.head?, c.isDigit = false)
    (fraction : '.' ∉ lexeme → ∀ d after, rest = '.' :: d :: after → d.isDigit = false) :
    Kind.number.Ends lexeme rest :=
  ⟨by simp [isWord, isKeyword], by simp [takesEqual], by simp, fun _ => digits, fun _ => fraction⟩

theorem nil : kind.Ends lexeme [] := by
  constructor <;> simp

/-- A token that ends before one text ends before every other that begins with a blank or with the
same character, as long as no digit comes up behind a point. -/
theorem of_lookahead {rest' : List Char} (h : kind.Ends lexeme rest)
    (head : ∀ c ∈ rest'.head?, isBlank c = true ∨ c ∈ rest.head?)
    (point : ∀ d after, rest' = '.' :: d :: after → d.isDigit = true →
      ∃ after', rest = '.' :: d :: after') : kind.Ends lexeme rest' := by
  have same : ∀ c ∈ rest'.head?, isBlank c = false → c ∈ rest.head? := by
    intro c hc hb
    rcases head c hc with blank | same
    · rw [hb] at blank
      cases blank
    · exact same
  refine ⟨fun word c hc => ?_, fun takes hc => h.operator takes (same '=' hc rfl),
    fun slash hc => h.slash slash (same '/' hc rfl), fun number c hc => ?_,
    fun number whole d after hd => ?_⟩
  · rw [Bool.eq_false_iff]
    intro hp
    rw [h.word word c (same c hc (not_isBlank_of_isWordPart hp))] at hp
    cases hp
  · rw [Bool.eq_false_iff]
    intro digit
    have hp := isWordPart_of_isDigit digit
    rw [h.digits number c (same c hc (not_isBlank_of_isWordPart hp))] at digit
    cases digit
  · rw [Bool.eq_false_iff]
    intro digit
    obtain ⟨after', hrest⟩ := point d after hd digit
    rw [h.fraction number whole d after' hrest] at digit
    cases digit

/-- A token that ends before one text ends before every other that is like it: one that begins with
a blank, or with the same character and then goes on alike. -/
theorem of_alike {R : List Char → List Char → Prop} {rest' : List Char}
    (peel : ∀ {c : Char} {s t : List Char}, R s (c :: t) → isBlank c = false →
      ∃ s', s = c :: s' ∧ R s' t)
    (h : kind.Ends lexeme rest) (alike : R rest rest') : kind.Ends lexeme rest' := by
  refine h.of_lookahead (fun c hc => ?_) fun d after hd digit => ?_
  · obtain ⟨after, rfl⟩ := List.head?_eq_some_iff.1 hc
    cases code : isBlank c with
    | true => exact .inl rfl
    | false =>
      obtain ⟨more, rfl, -⟩ := peel alike code
      exact .inr rfl
  · subst hd
    obtain ⟨more, rfl, alike'⟩ := peel alike rfl
    obtain ⟨more', rfl, -⟩ := peel alike' (not_isBlank_of_isWordPart (isWordPart_of_isDigit digit))
    exact ⟨more', rfl⟩

end Kind.Ends

namespace Element

/-- The element may stand in front of the text: it is well-formed and ends where the text begins. -/
inductive Fits : Element → List Char → Prop where
  /-- A token has a text of its kind and ends. -/
  | token {kind : Kind} {lexeme rest : List Char} (valid : Lexeme kind lexeme)
      (ends : kind.Ends lexeme rest) : Fits (token kind lexeme) rest
  /-- A blank may stand anywhere. -/
  | blank {c : Char} {rest : List Char} (h : isBlank c = true) : Fits (blank c) rest
  /-- A comment ends with its line. -/
  | comment {body rest : List Char} (line : '\n' ∉ body) (ends : ∀ c ∈ rest.head?, c = '\n') :
      Fits (comment body) rest
  /-- A character that means nothing in code may stand anywhere. -/
  | stray {c : Char} {rest : List Char} (quote : c ≠ '"') (h : isCodeChar c = false) :
      Fits (stray c) rest
  /-- A string that is never closed ends with the source. -/
  | openString {body : List Char} (h : '"' ∉ body) : Fits (openString body) []

end Element

/-! ### More text -/

/-- A token ends before a longer text as before the shorter one, unless the shorter one is over or
its only character is a point: then it depends on how the longer one goes on. -/
theorem Kind.Ends.append {kind : Kind} {lexeme rest more : List Char} (h : kind.Ends lexeme rest)
    (nothing : rest = [] → ∀ c ∈ more.head?, isBlank c = true)
    (point : rest = ['.'] → ∀ c ∈ more.head?, c.isDigit = false) :
    kind.Ends lexeme (rest ++ more) := by
  refine h.of_lookahead (fun c hc => ?_) fun d after hd digit => ?_
  · cases rest with
    | nil => exact .inl (nothing rfl c hc)
    | cons first rest => exact .inr hc
  · rcases rest with _ | ⟨first, _ | ⟨second, rest⟩⟩
    · have := nothing rfl '.' (by rw [← List.nil_append more, hd]; rfl)
      exact absurd this (by decide)
    · obtain ⟨rfl, rfl⟩ : first = '.' ∧ more = d :: after := by simpa using hd
      rw [point rfl d rfl] at digit
      cases digit
    · obtain ⟨rfl, rfl, -⟩ : first = '.' ∧ second = d ∧ rest ++ more = after := by simpa using hd
      exact ⟨rest, rfl⟩

/-- An element fits in front of a longer text as in front of the shorter one, under the conditions
of `Kind.Ends.append`, where only a newline ends a comment, and only the end of the text a string
that is never closed. -/
theorem Element.Fits.append {e : Element} {rest more : List Char} (fits : e.Fits rest)
    (nothing : rest = [] → ∀ c ∈ more.head?, c = '\n')
    (point : rest = ['.'] → ∀ c ∈ more.head?, c.isDigit = false)
    (closed : ∀ body, e = .openString body → more = []) : e.Fits (rest ++ more) := by
  cases fits with
  | token valid ends =>
    exact .token valid (ends.append (fun h c hc => isBlank_iff.2 (by simp [nothing h c hc])) point)
  | blank h => exact .blank h
  | comment line ends =>
    refine .comment line ?_
    cases rest with
    | nil => exact nothing rfl
    | cons first rest => exact ends
  | stray quote h => exact .stray quote h
  | @openString body h =>
    rw [closed body rfl]
    exact .openString h

/-! ### What is cut off fits -/

theorem Kind.spelling?_of_ofSymbol? {c : Char} {kind : Kind} (h : Kind.ofSymbol? c = some kind) :
    kind.spelling? = some (String.ofList [c]) ∧ kind.isClosed = true := by
  unfold Kind.ofSymbol? at h
  split at h
  all_goals first | (obtain rfl := Option.some.inj h; decide) | cases h

theorem Kind.spelling?_of_ofOperator? {c : Char} {plain joined : Kind}
    (h : Kind.ofOperator? c = some (plain, joined)) :
    (plain.spelling? = some (String.ofList [c]) ∧ plain.takesEqual = true) ∧
      joined.spelling? = some (String.ofList [c, '=']) ∧ joined.isClosed = true := by
  unfold Kind.ofOperator? at h
  split at h
  all_goals first | (obtain ⟨rfl, rfl⟩ := Prod.mk.inj (Option.some.inj h); decide) | cases h

theorem Lexeme.of_spelling? {kind : Kind} {text : List Char}
    (h : kind.spelling? = some (String.ofList text)) : Lexeme kind text := by
  simpa using Lexeme.fixed h

theorem Keyword.spelling_name (word : Keyword) : ∃ c parts, word.spelling.toList = c :: parts ∧
    isWordStart c = true ∧ ∀ d ∈ parts, isWordPart d = true := by
  cases word <;> exact ⟨_, _, rfl, by decide, List.all_eq_true.1 (by decide)⟩

/-- What holds of every part of a word, of the point and of the marks of a kind holds of every
character of a token of this kind, unless it is a string. -/
theorem Lexeme.forall_mem {p : Char → Bool} {kind : Kind} {lexeme : List Char}
    (h : Lexeme kind lexeme) (string : kind ≠ .string)
    (part : ∀ c, isWordPart c = true → p c = true) (point : p '.' = true)
    (marks : kind.isKeyword = false → ∀ spelling, kind.spelling? = some spelling →
      spelling.toList.all p = true) : ∀ c ∈ lexeme, p c = true := by
  have digit : ∀ c : Char, c.isDigit = true → p c = true :=
    fun c hc => part c (isWordPart_of_isDigit hc)
  have name : ∀ {c : Char} {parts : List Char}, isWordStart c = true →
      (∀ d ∈ parts, isWordPart d = true) → ∀ d ∈ c :: parts, p d = true := by
    intro c parts start all
    exact List.forall_mem_cons.2
      ⟨part c (isWordPart_of_isWordStart start), fun d hd => part d (all d hd)⟩
  cases h with
  | fixed h =>
    cases kind with
    | keyword word =>
      obtain rfl := Option.some.inj h
      obtain ⟨d, parts, hs, start, all⟩ := word.spelling_name
      rw [hs]
      exact name start all
    | _ => exact List.all_eq_true.1 (marks rfl _ h)
  | identifier start parts _ => exact name start parts
  | whole _ all => exact fun c hc => digit c (all c hc)
  | decimal _ all _ allFraction =>
    rw [List.forall_mem_append, List.forall_mem_cons]
    exact ⟨fun c hc => digit c (all c hc), point, fun c hc => digit c (allFraction c hc)⟩
  | string => exact absurd rfl string

theorem Lexeme.not_isBlank {kind : Kind} {lexeme : List Char} (h : Lexeme kind lexeme)
    (string : kind ≠ .string) : ∀ c ∈ lexeme, isBlank c = false := by
  have solid := h.forall_mem (p := fun c => !isBlank c) string
    (fun c hc => by simp [not_isBlank_of_isWordPart hc]) rfl ?_
  · simpa using solid
  · intro keyword spelling hs
    cases kind with
    | keyword word => cases keyword
    | endOfText | identifier | string | number => cases hs
    | _ =>
      obtain rfl := Option.some.inj hs
      decide

/-- A token is a string with a body between its quotes, or it holds no blanks. -/
theorem Lexeme.string_or_solid {kind : Kind} {lexeme : List Char} (h : Lexeme kind lexeme) :
    (kind = .string ∧ ∃ body, '"' ∉ body ∧ lexeme = '"' :: body ++ ['"']) ∨
      (kind ≠ .string ∧ ∀ c ∈ lexeme, isBlank c = false) := by
  by_cases string : kind = .string
  · subst string
    cases h with
    | fixed spelling => cases spelling
    | string free => exact .inl ⟨rfl, _, free, rfl⟩
  · exact .inr ⟨string, h.not_isBlank string⟩

theorem Kind.ofWord_of_free {word : List Char} (free : ∀ w : Keyword, w.spelling.toList ≠ word) :
    Kind.ofWord word = .identifier := by
  have : Keyword.ofSpelling? (String.ofList word) = none := by
    rw [Keyword.ofSpelling?_eq_none_iff]
    intro w hw
    exact free w (by rw [hw, String.toList_ofList])
  rw [Kind.ofWord, this]

theorem Lexeme.ofWord {c : Char} {rest : List Char} (start : isWordStart c = true)
    (parts : ∀ d ∈ rest, isWordPart d = true) : Lexeme (Kind.ofWord (c :: rest)) (c :: rest) := by
  unfold Kind.ofWord
  split
  · next reserved h =>
    rw [Keyword.ofSpelling?_eq_some_iff] at h
    exact .of_spelling? (congrArg some h)
  · next h =>
    rw [Keyword.ofSpelling?_eq_none_iff] at h
    refine .identifier start parts fun word hw => h word ?_
    rw [← hw, String.ofList_toList]

namespace Element

theorem fits_cutOperator {c : Char} {plain joined : Kind}
    (h : Kind.ofOperator? c = some (plain, joined)) (rest : List Char) :
    (cutOperator plain joined c rest).1.Fits (cutOperator plain joined c rest).2 := by
  obtain ⟨⟨hp, takes⟩, hj, closed⟩ := Kind.spelling?_of_ofOperator? h
  unfold cutOperator
  split
  · exact .token (.of_spelling? hj) (.of_isClosed closed)
  · next alone =>
    refine .token (.of_spelling? hp) (.of_takesEqual takes fun equal => ?_)
    obtain ⟨after, rfl⟩ := List.head?_eq_some_iff.1 equal
    exact alone after rfl

theorem fits_cutSlash (rest : List Char) : (cutSlash rest).1.Fits (cutSlash rest).2 := by
  unfold cutSlash
  split
  · next after =>
    refine .comment (mark_not_mem_takeWhile _ _) fun c hc => ?_
    simpa using head_dropWhile _ after c hc
  · next alone =>
    refine .token (.of_spelling? rfl) (.of_slash fun slash => ?_)
    obtain ⟨after, rfl⟩ := List.head?_eq_some_iff.1 slash
    exact alone after rfl

theorem fits_cutString (rest : List Char) : (cutString rest).1.Fits (cutString rest).2 := by
  unfold cutString
  split
  · exact .token (.string (mark_not_mem_takeWhile _ _)) (.of_isClosed rfl)
  · exact .openString (mark_not_mem_takeWhile _ _)

theorem fits_cutFraction {digits rest : List Char} (nonempty : digits ≠ [])
    (all : ∀ d ∈ digits, d.isDigit = true) (ends : ∀ d ∈ rest.head?, d.isDigit = false) :
    (token .number (digits ++ (cutFraction rest).1)).Fits (cutFraction rest).2 := by
  unfold cutFraction
  split
  · next d after =>
    split
    · next digit =>
      have allFraction : ∀ e ∈ d :: after.takeWhile Char.isDigit, e.isDigit = true :=
        List.forall_mem_cons.2 ⟨digit, fun _ => of_mem_takeWhile⟩
      exact .token (.decimal nonempty all (by simp) allFraction)
        (.of_number (head_dropWhile _ _) (by simp))
    · next digit =>
      rw [List.append_nil]
      refine .token (.whole nonempty all) (.of_number ends fun _ e rest he => ?_)
      obtain ⟨rfl, -⟩ := List.cons.inj (List.cons.inj he).2
      simpa using digit
  · next point =>
    rw [List.append_nil]
    exact .token (.whole nonempty all) (.of_number ends fun _ d after h => absurd h (point d after))

theorem fits_cutNumber {c : Char} (h : c.isDigit = true) (rest : List Char) :
    (cutNumber c rest).1.Fits (cutNumber c rest).2 := by
  have all : ∀ d ∈ c :: rest.takeWhile Char.isDigit, d.isDigit = true :=
    List.forall_mem_cons.2 ⟨h, fun _ => of_mem_takeWhile⟩
  exact fits_cutFraction (List.cons_ne_nil _ _) all (head_dropWhile _ _)

theorem fits_cutWord {c : Char} (h : isWordStart c = true) (rest : List Char) :
    (cutWord c rest).1.Fits (cutWord c rest).2 :=
  .token (.ofWord h fun _ => of_mem_takeWhile)
    (.of_isWord (Kind.isWord_ofWord _) (head_dropWhile _ _))

/-- An element that is cut off fits in front of the text after it. -/
theorem fits_cut (c : Char) (rest : List Char) : (cut c rest).1.Fits (cut c rest).2 := by
  unfold cut
  split
  · next symbol =>
    obtain ⟨spelling, closed⟩ := Kind.spelling?_of_ofSymbol? symbol
    exact .token (.of_spelling? spelling) (.of_isClosed closed)
  next symbol =>
  split
  · next operator => exact fits_cutOperator operator rest
  next operator =>
  split_ifs with slash quote blank digit start
  · exact fits_cutSlash rest
  · exact fits_cutString rest
  · exact .blank blank
  · exact fits_cutNumber digit rest
  · exact fits_cutWord start rest
  · exact .stray quote (not_isCodeChar symbol operator slash blank digit start)

/-! ### What fits is cut off -/

theorem cut_name {c : Char} {parts after : List Char} (start : isWordStart c = true)
    (all : ∀ d ∈ parts, isWordPart d = true) (ends : ∀ d ∈ after.head?, isWordPart d = false) :
    cut c (parts ++ after) = (token (Kind.ofWord (c :: parts)) (c :: parts), after) := by
  rw [cut_of_isWordStart start, cutWord, takeWhile_append_of_head all ends,
    dropWhile_append_of_head all ends]

theorem cutOperator_plain {plain joined : Kind} {c : Char} {rest : List Char}
    (h : rest.head? ≠ some '=') : cutOperator plain joined c rest = (token plain [c], rest) := by
  unfold cutOperator
  split
  · exact absurd rfl h
  · rfl

theorem cutSlash_plain {rest : List Char} (h : rest.head? ≠ some '/') :
    cutSlash rest = (token .slash ['/'], rest) := by
  unfold cutSlash
  split
  · exact absurd rfl h
  · rfl

/-- The one text of a kind is cut off in front of everything that does not make it longer. -/
theorem cut_of_spelling? {kind : Kind} {spelling : String} {c : Char} {rest after : List Char}
    (h : kind.spelling? = some spelling) (ends : kind.Ends spelling.toList after)
    (text : spelling.toList ++ after = c :: rest) :
    cut c rest = (token kind spelling.toList, after) := by
  cases kind with
  | keyword word =>
    obtain rfl := Option.some.inj h
    obtain ⟨d, parts, hs, start, all⟩ := word.spelling_name
    have hw := Kind.ofWord_eq_keyword_iff.2 hs
    rw [hs] at text ⊢
    obtain ⟨rfl, rfl⟩ := List.cons.inj text
    rw [← hw]
    exact cut_name start all (ends.word rfl)
  | bang | equal | less | greater =>
    obtain rfl := Option.some.inj h
    obtain ⟨rfl, rfl⟩ := List.cons.inj text
    exact cutOperator_plain (ends.operator rfl)
  | slash =>
    obtain rfl := Option.some.inj h
    obtain ⟨rfl, rfl⟩ := List.cons.inj text
    exact cutSlash_plain (ends.slash rfl)
  | endOfText | identifier | string | number => cases h
  | _ =>
    obtain rfl := Option.some.inj h
    obtain ⟨rfl, rfl⟩ := List.cons.inj text
    rfl

theorem cut_whole {c : Char} {digits after : List Char} (all : ∀ d ∈ c :: digits, d.isDigit = true)
    (ends : Kind.number.Ends (c :: digits) after) :
    cut c (digits ++ after) = (token .number (c :: digits), after) := by
  have point : '.' ∉ c :: digits := fun h => absurd (all _ h) (by decide)
  obtain ⟨first, all'⟩ := List.forall_mem_cons.1 all
  rw [cut_of_isDigit first, cutNumber, takeWhile_append_of_head all' (ends.digits rfl),
    dropWhile_append_of_head all' (ends.digits rfl)]
  have fraction : cutFraction after = ([], after) := by
    unfold cutFraction
    split
    · next d rest =>
      rw [if_neg (by simp [ends.fraction rfl point d rest rfl])]
    · rfl
  simp [fraction]

theorem cut_point {c d : Char} {digits : List Char} (all : ∀ d ∈ c :: digits, d.isDigit = true)
    (digit : d.isDigit = true) (after : List Char) :
    cut c (digits ++ '.' :: d :: after) =
      (token .number (c :: digits ++ '.' :: d :: after.takeWhile Char.isDigit),
        after.dropWhile Char.isDigit) := by
  obtain ⟨first, all'⟩ := List.forall_mem_cons.1 all
  have point : ∀ e ∈ ('.' :: d :: after).head?, e.isDigit = false := by simp
  rw [cut_of_isDigit first, cutNumber, takeWhile_append_of_head all' point,
    dropWhile_append_of_head all' point]
  simp [cutFraction, digit]

theorem cut_decimal {c : Char} {digits fraction after : List Char}
    (all : ∀ d ∈ c :: digits, d.isDigit = true) (nonempty : fraction ≠ [])
    (allFraction : ∀ d ∈ fraction, d.isDigit = true)
    (ends : ∀ d ∈ after.head?, d.isDigit = false) :
    cut c (digits ++ '.' :: fraction ++ after) =
      (token .number (c :: digits ++ '.' :: fraction), after) := by
  obtain ⟨d, ds, rfl⟩ := List.exists_cons_of_ne_nil nonempty
  obtain ⟨digit, more⟩ := List.forall_mem_cons.1 allFraction
  have h := cut_point all digit (ds ++ after)
  rw [takeWhile_append_of_head more ends, dropWhile_append_of_head more ends] at h
  rw [List.append_assoc]
  exact h

theorem cutString_closed {body after : List Char} (h : '"' ∉ body) :
    cutString (body ++ '"' :: after) = (token .string ('"' :: body ++ ['"']), after) := by
  have ends : ∀ c ∈ ('"' :: after).head?, (c != '"') = false := by simp
  simp only [cutString, takeWhile_append_of_head (ne_mark_of_not_mem h) ends,
    dropWhile_append_of_head (ne_mark_of_not_mem h) ends]

theorem cutString_open {body : List Char} (h : '"' ∉ body) :
    cutString body = (openString body, []) := by
  have ends : ∀ c ∈ ([] : List Char).head?, (c != '"') = false := by simp
  have ht := takeWhile_append_of_head (ne_mark_of_not_mem h) ends
  have hd := dropWhile_append_of_head (ne_mark_of_not_mem h) ends
  rw [List.append_nil] at ht hd
  simp only [cutString, ht, hd]

theorem cutSlash_comment {body after : List Char} (h : '\n' ∉ body)
    (ends : ∀ c ∈ after.head?, c = '\n') :
    cutSlash ('/' :: body ++ after) = (comment body, after) := by
  have ends' : ∀ c ∈ after.head?, (c != '\n') = false := by simpa using ends
  simp only [List.cons_append, cutSlash, takeWhile_append_of_head (ne_mark_of_not_mem h) ends',
    dropWhile_append_of_head (ne_mark_of_not_mem h) ends']

theorem cut_of_fits {e : Element} {c : Char} {rest after : List Char} (h : e.Fits after)
    (text : e.text ++ after = c :: rest) : cut c rest = (e, after) := by
  cases h with
  | token valid ends =>
    cases valid with
    | fixed h => exact cut_of_spelling? h ends text
    | identifier start parts free =>
      obtain ⟨rfl, rfl⟩ := List.cons.inj text
      rw [← Kind.ofWord_of_free free]
      exact cut_name start parts (ends.word rfl)
    | whole nonempty all =>
      obtain ⟨d, ds, rfl⟩ := List.exists_cons_of_ne_nil nonempty
      obtain ⟨rfl, rfl⟩ := List.cons.inj text
      exact cut_whole all ends
    | decimal nonempty all nonemptyFraction allFraction =>
      obtain ⟨d, ds, rfl⟩ := List.exists_cons_of_ne_nil nonempty
      obtain ⟨rfl, rfl⟩ := List.cons.inj text
      exact cut_decimal all nonemptyFraction allFraction (ends.digits rfl)
    | @string body h =>
      obtain ⟨rfl, rfl⟩ := List.cons.inj text
      show cutString (body ++ ['"'] ++ after) = _
      rw [List.append_assoc]
      exact cutString_closed h
  | blank h =>
    obtain ⟨rfl, rfl⟩ := List.cons.inj text
    exact cut_of_isBlank h _
  | comment line ends =>
    obtain ⟨rfl, rfl⟩ := List.cons.inj text
    exact cutSlash_comment line ends
  | stray quote h =>
    obtain ⟨rfl, rfl⟩ := List.cons.inj text
    exact cut_of_not_isCodeChar quote h _
  | openString h =>
    obtain ⟨rfl, rfl⟩ := List.cons.inj text
    rw [cut_quote, List.append_eq, List.append_nil]
    exact cutString_open h

/-- **The element at the head of a text is the one that fits there.** -/
theorem cut_eq_iff {e : Element} {c : Char} {rest after : List Char} :
    cut c rest = (e, after) ↔ e.text ++ after = c :: rest ∧ e.Fits after := by
  constructor
  · intro h
    have text := text_cut c rest
    have fits := fits_cut c rest
    rw [h] at text fits
    exact ⟨text, fits⟩
  · rintro ⟨text, fits⟩
    exact cut_of_fits fits text

end Element

end LoxLexer
