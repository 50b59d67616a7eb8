import LoxLexer.Grammar.Written
import LoxLexer.Proofs.Scan.Findings

/-!
# Reading back what is written with separators

Tokens written one after another with separators between them are found again, each where it was
written, and nothing else is found: **`scan_spaced`**. Separators are passed over
(`foundFrom_separator`), and every token ends where a separator begins (`Kind.Ends.of_head`), a
slash before a comment excepted.
-/

namespace LoxLexer

/-! ### Separators -/

theorem Separator.head {sep : List Char} (h : Separator sep) :
    ∀ c ∈ sep.head?, isBlank c = true ∨ c = '/' := by
  cases h with
  | nil => simp
  | blank h _ => exact fun c hc => .inl (Option.some.inj hc ▸ h)
  | comment => exact fun c hc => .inr (Option.some.inj hc).symm

theorem LastSeparator.head {sep : List Char} (h : LastSeparator sep) :
    ∀ c ∈ sep.head?, isBlank c = true ∨ c = '/' := by
  rcases h with h | @⟨front, _, h, ⟨_⟩⟩
  · exact h.head
  · cases front with
    | nil => exact fun c hc => .inr (Option.some.inj hc).symm
    | cons c front => exact h.head

theorem foundFrom_separator {sep : List Char} (h : Separator sep) (p : Place) (rest : List Char) :
    foundFrom p (sep ++ rest) = foundFrom (p.after sep) rest := by
  induction h generalizing p with
  | nil => rfl
  | @blank c more h _ ih =>
    have step := foundFrom_append (.blank h : (Element.blank c).Fits (more ++ rest)) p
    rw [List.cons_append]
    refine step.trans ((ih _).trans ?_)
    rw [← Place.after_append]
    rfl
  | @comment body more h _ ih =>
    have fits : (Element.comment body).Fits ((Element.blank '\n').text ++ (more ++ rest)) :=
      .comment h (by simp [Element.text])
    have newline : (Element.blank '\n').Fits (more ++ rest) := .blank rfl
    have shape : '/' :: '/' :: body ++ '\n' :: more ++ rest =
        (Element.comment body).text ++ ((Element.blank '\n').text ++ (more ++ rest)) := by
      simp [Element.text]
    rw [shape, foundFrom_append fits, foundFrom_append newline]
    refine (ih _).trans ?_
    rw [← Place.after_append, ← Place.after_append]
    simp [Element.text]

theorem foundFrom_lastSeparator {sep : List Char} (h : LastSeparator sep) (p : Place) :
    foundFrom p sep = [] := by
  rcases h with h | @⟨front, _, h, @⟨body, line⟩⟩
  · have := foundFrom_separator h p []
    rwa [List.append_nil, foundFrom_nil] at this
  · have fits : (Element.comment body).Fits [] := .comment line (by simp)
    have := foundFrom_append fits (p.after front)
    rw [List.append_nil, foundFrom_nil] at this
    exact (foundFrom_separator h p _).trans this

/-! ### Tokens -/

/-- A token ends before a separator, unless the two are a slash and a comment. -/
theorem Kind.Ends.of_head {kind : Kind} {lexeme rest : List Char}
    (head : ∀ c ∈ rest.head?, isBlank c = true ∨ c = '/')
    (slash : kind = .slash → rest.head? ≠ some '/') : kind.Ends lexeme rest := by
  have part : ∀ c ∈ rest.head?, isWordPart c = false := by
    intro c hc
    rw [Bool.eq_false_iff]
    intro hp
    rcases head c hc with hb | rfl
    · rw [not_isBlank_of_isWordPart hp] at hb
      cases hb
    · exact absurd hp (by decide)
  have none : ∀ c : Char, isBlank c = false → c ≠ '/' → rest.head? ≠ some c := by
    intro c hb hs hc
    rcases head c hc with h | h
    · rw [hb] at h
      cases h
    · exact hs h
  refine ⟨fun _ => part, fun _ => none '=' rfl (by decide), slash, fun _ c hc => ?_, ?_⟩
  · rw [Bool.eq_false_iff]
    intro digit
    exact absurd (isWordPart_of_isDigit digit) (by simp [part c hc])
  · rintro - - d after rfl
    exact absurd rfl (none '.' rfl (by decide))

theorem foundFrom_written (w : Written) {rest : List Char} (h : w.kind.Ends w.text rest)
    (p : Place) : foundFrom p (w.text ++ rest) =
      .token (Token.at p w.kind w.text) :: foundFrom (p.after w.text) rest :=
  foundFrom_append (.token w.valid h) p

/-! ### Tokens with separators -/

/-- The directly following separator does not make the token the begin of a comment. -/
def Written.ApartFrom (w : Written) (sep : List Char) : Prop :=
  w.kind = .slash → sep.head? ≠ some '/'

/-- Tokens with the separators behind them, in front of a separator `trail` at the end. A separator
between two tokens is not empty, and behind the last token there is none but `trail`. -/
inductive Spaced (trail : List Char) : List (Written × List Char) → Prop where
  /-- No token at all. -/
  | nil : Spaced trail []
  /-- The last token. -/
  | last {w : Written} (apart : w.ApartFrom trail) : Spaced trail [(w, [])]
  /-- A token, a separator, and the next token. -/
  | next {w : Written} {sep : List Char} {item : Written × List Char}
      {items : List (Written × List Char)} (separator : Separator sep) (nonempty : sep ≠ [])
      (apart : w.ApartFrom sep) (more : Spaced trail (item :: items)) :
      Spaced trail ((w, sep) :: item :: items)

/-- The text of tokens with the separators behind them. -/
def spacedText (items : List (Written × List Char)) : List Char :=
  items.flatMap fun item => item.1.text ++ item.2

/-- The token that a scan finds where it is written behind the text `before`. -/
def Written.behind (w : Written) (before : List Char) : Token :=
  { kind := w.kind
    lexeme := String.ofList w.text
    literal := w.kind.literal? w.text
    line := 1 + newlines before
    span := ⟨byteLength before, byteLength before + byteLength w.text⟩ }

/-- The tokens where they are written, the first of them behind the text `before`. -/
def writtenTokens (before : List Char) : List (Written × List Char) → List Token
  | [] => []
  | (w, sep) :: items => w.behind before :: writtenTokens (before ++ w.text ++ sep) items

theorem at_after_start (w : Written) (before : List Char) :
    Token.at (Place.start.after before) w.kind w.text = w.behind before := by
  simp [Token.at, Written.behind, Place.start, Place.after]

/-- Behind every text, the tokens are found where they are written. -/
theorem foundFrom_spaced {trail : List Char} {items : List (Written × List Char)}
    (h : Spaced trail items) (last : LastSeparator trail) (before : List Char) :
    foundFrom (Place.start.after before) (spacedText items ++ trail) =
      (writtenTokens before items).map .token := by
  induction h generalizing before with
  | nil => exact foundFrom_lastSeparator last _
  | @last w apart =>
    have ends : w.kind.Ends w.text trail := .of_head last.head apart
    simp only [spacedText, List.flatMap_cons, List.flatMap_nil, List.append_nil]
    rw [foundFrom_written w ends, foundFrom_lastSeparator last, at_after_start]
    rfl
  | @next w sep item items separator nonempty apart _ ih =>
    obtain ⟨c, more, rfl⟩ := List.exists_cons_of_ne_nil nonempty
    have ends : w.kind.Ends w.text (c :: more ++ (spacedText (item :: items) ++ trail)) :=
      .of_head separator.head apart
    rw [spacedText, List.flatMap_cons, ← spacedText, List.append_assoc, List.append_assoc,
      foundFrom_written w ends, foundFrom_separator separator, ← Place.after_append,
      ← Place.after_append, ih, at_after_start]
    simp [writtenTokens]

/-- **Tokens written with separators are read back**, each with its kind, its lexeme and its literal
at the place where it is written, and there is no error. -/
theorem scan_spaced {lead trail : List Char} {items : List (Written × List Char)}
    (first : Separator lead) (h : Spaced trail items) (last : LastSeparator trail) :
    let text := lead ++ spacedText items ++ trail
    (scan (String.ofList text)).errors = [] ∧
      (scan (String.ofList text)).tokens = writtenTokens lead items ++
        [⟨.endOfText, "", none, 1 + newlines text, ⟨byteLength text, byteLength text⟩⟩] := by
  intro text
  have found : foundFrom Place.start text = (writtenTokens lead items).map .token := by
    rw [show text = lead ++ (spacedText items ++ trail) from List.append_assoc ..,
      foundFrom_separator first, foundFrom_spaced h last]
  rw [errors_scan, tokens_scan, String.toList_ofList, found]
  constructor
  · simp [List.filterMap_map, Function.comp_def, Finding.error?]
  · simp [List.filterMap_map, Function.comp_def, Finding.token?, Token.endOfText, Token.at,
      Kind.literal?, Place.start, Place.after]

/-- A name, a slash in front of a comment on the next line, and a string that looks like a comment,
with quotes in the comments. -/
theorem scan_spaced_slash_comment :
    (scan "\ta//\"\n/\n//x\n\"//\" //\"").errors = [] ∧
      (scan "\ta//\"\n/\n//x\n\"//\" //\"").tokens =
        [⟨.identifier, "a", none, 1, ⟨1, 2⟩⟩, ⟨.slash, "/", none, 2, ⟨6, 7⟩⟩,
          ⟨.string, "\"//\"", some (.text "//"), 4, ⟨12, 16⟩⟩,
          ⟨.endOfText, "", none, 4, ⟨20, 20⟩⟩] := by
  have name : Lexeme .identifier ['a'] := .identifier (by decide) nofun fun word => by
    cases word <;> decide
  have slash : Lexeme .slash ['/'] := .of_spelling? rfl
  have string : Lexeme .string ['"', '/', '/', '"'] := @Lexeme.string ['/', '/'] (by decide)
  have first : Separator ['\t'] := .blank rfl .nil
  have behindName : Separator ['/', '/', '"', '\n'] := @Separator.comment ['"'] _ (by decide) .nil
  have behindSlash : Separator ['\n', '/', '/', 'x', '\n'] :=
    .blank rfl (@Separator.comment ['x'] _ (by decide) .nil)
  have last : LastSeparator [' ', '/', '/', '"'] :=
    .open (.blank rfl .nil) (@IsComment.line ['"'] (by decide))
  obtain ⟨items, spaced, text, tokens⟩ : ∃ items, Spaced [' ', '/', '/', '"'] items ∧
      ['\t'] ++ spacedText items ++ [' ', '/', '/', '"'] =
        "\ta//\"\n/\n//x\n\"//\" //\"".toList ∧
      writtenTokens ['\t'] items =
        [⟨.identifier, "a", none, 1, ⟨1, 2⟩⟩, ⟨.slash, "/", none, 2, ⟨6, 7⟩⟩,
          ⟨.string, "\"//\"", some (.text "//"), 4, ⟨12, 16⟩⟩] :=
    ⟨[(⟨_, _, name⟩, _), (⟨_, _, slash⟩, _), (⟨_, _, string⟩, [])],
      .next behindName (by simp) nofun
        (.next behindSlash (by simp) (fun _ => by simp) (.last nofun)),
      rfl, rfl⟩
  have h := scan_spaced first spaced last
  simp only [text, tokens, String.ofList_toList] at h
  exact ⟨h.1, h.2⟩

end LoxLexer
