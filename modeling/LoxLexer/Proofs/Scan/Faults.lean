import LoxLexer.Proofs.Scan.Findings

/-!
# The errors of a scan, found without tokens

The fault automaton runs over the text of an element and comes out of it in code, with the one error
that the element counts for, if any (`errors_append`). So over a whole text it finds what the scan
finds: **`errors_eq_automatonErrors`**.
-/

namespace LoxLexer

namespace Mode

/-! ### Runs of the automaton -/

/-- In code, a character that means something there is read over, unless it begins a comment. -/
theorem errors_code_cons {c : Char} (h : isCodeChar c = true) (rest : List Char)
    (slash : c = '/' → rest.head? ≠ some '/') (p : Place) :
    code.errors p (c :: rest) = code.errors (p.after [c]) rest := by
  have quote : c ≠ '"' := by rintro rfl; exact absurd h (by decide)
  have next : code.next p.offset c rest = code := by
    rw [Mode.next, if_neg quote, if_neg fun both => slash both.1 both.2]
  have rejects : code.rejects c = false := by simp [Mode.rejects, h]
  rw [errors, next, rejects, if_neg (by decide)]

theorem errors_code_append {run : List Char} (all : ∀ c ∈ run, isCodeChar c = true ∧ c ≠ '/')
    (rest : List Char) (p : Place) :
    code.errors p (run ++ rest) = code.errors (p.after run) rest := by
  induction run generalizing p with
  | nil => rfl
  | cons c run ih =>
    obtain ⟨⟨hc, slash⟩, more⟩ := List.forall_mem_cons.1 all
    rw [List.cons_append, errors_code_cons hc _ fun h => absurd h slash, ih more,
      ← Place.after_append]
    rfl

theorem errors_string_append {body : List Char} (h : '"' ∉ body) (quote : Nat) (rest : List Char)
    (p : Place) :
    (string quote).errors p (body ++ rest) = (string quote).errors (p.after body) rest := by
  induction body generalizing p with
  | nil => rfl
  | cons c body ih =>
    rw [List.mem_cons, not_or] at h
    have next : (string quote).next p.offset c (body ++ rest) = string quote :=
      if_neg (Ne.symm h.1)
    rw [List.cons_append, errors, next, if_neg (by simp [Mode.rejects]), ih h.2,
      ← Place.after_append]
    rfl

theorem errors_comment_append {body : List Char} (h : '\n' ∉ body) (rest : List Char) (p : Place) :
    comment.errors p (body ++ rest) = comment.errors (p.after body) rest := by
  induction body generalizing p with
  | nil => rfl
  | cons c body ih =>
    rw [List.mem_cons, not_or] at h
    have next : comment.next p.offset c (body ++ rest) = comment := if_neg (Ne.symm h.1)
    rw [List.cons_append, errors, next, if_neg (by simp [Mode.rejects]), ih h.2,
      ← Place.after_append]
    rfl

/-- At the end of its line, and at the end of the text, a comment is as good as code. -/
theorem errors_comment_eq {rest : List Char} (h : ∀ c ∈ rest.head?, c = '\n') (p : Place) :
    comment.errors p rest = code.errors p rest := by
  cases rest with
  | nil => rfl
  | cons c rest =>
    obtain rfl := h c rfl
    rfl

end Mode

/-! ### Runs over elements -/

theorem isCodeChar_of_isWordPart {c : Char} (h : isWordPart c = true) :
    isCodeChar c = true ∧ c ≠ '/' := by
  refine ⟨isCodeChar_iff.2 (.inl h), ?_⟩
  rintro rfl
  exact absurd h (by decide)

/-- A token that is no slash and no string has only characters of code, and no slash. -/
theorem isCodeChar_of_mem_lexeme {kind : Kind} {lexeme : List Char} (h : Lexeme kind lexeme)
    (slash : kind ≠ .slash) (string : kind ≠ .string) :
    ∀ c ∈ lexeme, isCodeChar c = true ∧ c ≠ '/' := by
  have code := h.forall_mem (p := fun c => isCodeChar c && c ≠ '/') string
    (fun c hc => by simp [isCodeChar_of_isWordPart hc]) rfl ?_
  · simpa using code
  · intro keyword spelling hs
    cases kind with
    | keyword word => cases keyword
    | slash => exact absurd rfl slash
    | endOfText | identifier | string | number => cases hs
    | _ =>
      obtain rfl := Option.some.inj hs
      decide

/-! ### Characters without a meaning -/

/-- Whether every character may be a part of the element: strings, closed or not, and comments. -/
def Element.isVerbatim : Element → Bool
  | token kind _ => kind = .string
  | comment _ => true
  | openString _ => true
  | blank _ => false
  | stray _ => false

/-- A character that means nothing in code is a part of strings and comments, or stands alone. -/
theorem Element.Fits.isVerbatim_or_eq_stray {e : Element} {rest : List Char} {c : Char}
    (fits : e.Fits rest) (mem : c ∈ e.text) (code : isCodeChar c = false) :
    e.isVerbatim = true ∨ e = .stray c := by
  cases fits with
  | @token kind lexeme _ valid ends =>
    by_cases string : kind = .string
    · exact .inl (decide_eq_true string)
    · have meant : isCodeChar c = true := by
        by_cases slash : kind = .slash
        · subst slash
          cases valid with
          | fixed h =>
            obtain rfl := Option.some.inj h
            obtain rfl : c = '/' := by simpa [text] using mem
            decide
        · exact (isCodeChar_of_mem_lexeme valid slash string c mem).1
      rw [code] at meant
      cases meant
  | blank h =>
    obtain rfl := List.mem_singleton.1 mem
    rw [Bool.eq_false_iff, ne_eq, isCodeChar_iff] at code
    exact absurd (.inr (.inl h)) code
  | comment | openString => exact .inl rfl
  | stray =>
    obtain rfl := List.mem_singleton.1 mem
    exact .inr rfl

/-- Where a character stands that means nothing in code, a scan reports it, or it is a part of a
string or a comment. -/
theorem unexpected_or_verbatim {source : String} {before after : List Char} {c : Char}
    (h : source.toList = before ++ c :: after) (code : isCodeChar c = false) :
    ⟨.unexpectedCharacter c, 1 + newlines before, ⟨byteLength before, c.utf8Size⟩⟩ ∈
        (scan source).errors ∨
      ∃ l ∈ locate Place.start (elements source.toList), l.element.isVerbatim = true ∧
        ∃ pre post, l.element.text = pre ++ c :: post ∧
          l.place.offset + byteLength pre = byteLength before := by
  obtain ⟨front, e, back, pre, post, cut, hbefore, text⟩ := exists_element_of_eq_append h
  have located : ⟨Place.start.after (front.flatMap Element.text), e⟩ ∈
      locate Place.start (elements source.toList) := by
    rw [cut, locate_append, locate_cons]
    exact List.mem_append_right _ List.mem_cons_self
  have mem : e ∈ elements source.toList := by
    rw [cut]
    exact List.mem_append_right _ List.mem_cons_self
  obtain ⟨rest, fits⟩ := exists_fits_of_mem_elements mem
  rcases fits.isVerbatim_or_eq_stray (by rw [text]; simp) code with verbatim | rfl
  · refine .inr ⟨_, located, verbatim, pre, post, text, ?_⟩
    simp [hbefore, Place.after, Place.start]
  · obtain rfl : pre = [] := by
      cases pre with
      | nil => rfl
      | cons d pre => simp [Element.text] at text
    left
    rw [errors_scan, mem_filterMap_error?, foundFrom, List.mem_filterMap]
    exact ⟨_, located, by simp [Located.finding?, hbefore, Place.after, Place.start]⟩

namespace Mode

theorem errors_token_append {kind : Kind} {lexeme rest : List Char} (valid : Lexeme kind lexeme)
    (ends : kind.Ends lexeme rest) (p : Place) :
    code.errors p (lexeme ++ rest) = code.errors (p.after lexeme) rest := by
  by_cases hs : kind = .slash
  · subst hs
    cases valid with
    | fixed h =>
      obtain rfl := Option.some.inj h
      exact errors_code_cons (by decide) rest (fun _ => ends.slash rfl) p
  by_cases hq : kind = .string
  · subst hq
    cases valid with
    | fixed h => cases h
    | @string body h =>
      -- the first quote leads into string mode, and the one behind the body out of it
      have opened : code.errors p ('"' :: (body ++ '"' :: rest)) =
          (string p.offset).errors (p.after ['"']) (body ++ '"' :: rest) := rfl
      have closed : (string p.offset).errors ((p.after ['"']).after body) ('"' :: rest) =
          code.errors (((p.after ['"']).after body).after ['"']) rest := rfl
      have shape : '"' :: body ++ ['"'] = ['"'] ++ body ++ ['"'] := rfl
      rw [List.append_assoc, List.singleton_append, List.cons_append, opened,
        errors_string_append h, closed, shape, Place.after_append, Place.after_append]
  · exact errors_code_append (isCodeChar_of_mem_lexeme valid hs hq) rest p

/-- Over an element the automaton finds the error that the element counts for. -/
theorem errors_append {e : Element} {rest : List Char} (fits : e.Fits rest) (p : Place) :
    code.errors p (e.text ++ rest) =
      (Located.finding? ⟨p, e⟩).toList.filterMap Finding.error? ++
        code.errors (p.after e.text) rest := by
  cases fits with
  | token valid ends => exact errors_token_append valid ends p
  | blank h =>
    refine errors_code_cons (isCodeChar_iff.2 (.inr (.inl h))) rest ?_ p
    rintro rfl
    exact absurd h (by decide)
  | @comment body _ line ends =>
    have opened : code.errors p ('/' :: ('/' :: body ++ rest)) =
        comment.errors (p.after ['/']) ('/' :: body ++ rest) := rfl
    have line' : '\n' ∉ '/' :: body := by simp [line]
    have run := errors_comment_append line' rest (p.after ['/'])
    rw [← Place.after_append, errors_comment_eq ends] at run
    exact opened.trans run
  | @stray c _ quote h =>
    have slash : c ≠ '/' := by rintro rfl; exact absurd h (by decide)
    have next : code.next p.offset c rest = code := by
      rw [Mode.next, if_neg quote, if_neg fun both => slash both.1]
    have rejects : code.rejects c = true := by simp [Mode.rejects, h, quote]
    rw [Element.text, List.singleton_append, errors, next, rejects, if_pos rfl]
    rfl
  | @openString body h =>
    have opened : code.errors p ('"' :: (body ++ [])) =
        (string p.offset).errors (p.after ['"']) (body ++ []) := rfl
    rw [errors_string_append h, ← Place.after_append] at opened
    have length : (p.after ('"' :: body)).offset - p.offset = byteLength ('"' :: body) :=
      Nat.add_sub_cancel_left ..
    refine opened.trans ?_
    rw [errors, List.singleton_append, length]
    rfl

/-- From every place on, the automaton finds the errors of the elements. -/
theorem errors_eq (p : Place) (text : List Char) :
    code.errors p text = (foundFrom p text).filterMap Finding.error? := by
  induction text using text_induction generalizing p with
  | nil => simp [errors]
  | element e rest fits ih =>
    rw [errors_append fits, foundFrom_append fits, List.filterMap_append, ih]

end Mode

/-- **The errors of every scan are those of the automaton**, in content and order. -/
theorem errors_eq_automatonErrors (source : String) :
    (scan source).errors = automatonErrors source := by
  rw [errors_scan, automatonErrors, Mode.errors_eq]

end LoxLexer
