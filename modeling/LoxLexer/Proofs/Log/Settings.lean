import LoxLexer.Log.Event
import LoxLexer.Proofs.Element.FirstCharacter

/-!
# Plain log settings

Most settings have one directive: a level alone, or the begin of a target, an equals sign and a
level. A level is a word in letters of either case, or a number. **`admittedBy_of_plain`** says what
such a setting admits of a scan, in terms of targets and levels alone. A scope that cannot be read
leaves the standard filter, which logs none of the events; such a scope does not begin their targets
either, so the rule is the same.
-/

namespace LoxLexer

/-! ### Words for limits -/

theorem isAlpha_of_isAlpha_toLower {c : Char} (h : c.toLower.isAlpha = true) :
    c.isAlpha = true := by
  by_cases upper : c.isUpper = true
  · exact Bool.or_eq_true_iff.2 (.inl upper)
  · have same : c.toLower = c := dif_neg fun inside => upper (decide_eq_true inside)
    rwa [same] at h

/-- The numbers of limits. -/
def Limit.numbers : List (String × Limit) :=
  [("0", off), ("1", upTo .error), ("2", upTo .warn), ("3", upTo .info), ("4", upTo .debug),
    ("5", upTo .trace)]

/-- The word stands for the limit: it is its name, in letters of either case, or its number. -/
def Limit.SpelledAs (limit : Limit) (word : String) : Prop :=
  (String.ofList (word.toList.map Char.toLower), limit) ∈ Limit.words ∨
    (word, limit) ∈ Limit.numbers

instance (limit : Limit) (word : String) : Decidable (limit.SpelledAs word) :=
  inferInstanceAs (Decidable (_ ∨ _))

theorem Limit.isAlpha_of_mem_words {limit : Limit} {word : String}
    (h : (String.ofList (word.toList.map Char.toLower), limit) ∈ words) :
    ∀ c ∈ word.toList, c.isAlpha = true := by
  have table : words.all (fun entry => entry.1.toList.all Char.isAlpha) = true := by decide
  have letters := List.all_eq_true.1 table _ h
  intro c hc
  rw [String.toList_ofList] at letters
  exact isAlpha_of_isAlpha_toLower
    (List.all_eq_true.1 letters c.toLower (List.mem_map_of_mem hc))

namespace Limit.SpelledAs

variable {limit : Limit} {word : String}

theorem isAlphanum (h : limit.SpelledAs word) : ∀ c ∈ word.toList, c.isAlphanum = true := by
  intro c hc
  rcases h with name | number
  · exact Bool.or_eq_true_iff.2 (.inl (isAlpha_of_mem_words name c hc))
  · have table : numbers.all (fun entry => entry.1.toList.all Char.isAlphanum) = true := by decide
    exact List.all_eq_true.1 (List.all_eq_true.1 table _ number) c hc

theorem ne_nil (h : limit.SpelledAs word) : word.toList ≠ [] := by
  rcases h with name | number
  · have table : words.all (fun entry => entry.1.toList ≠ []) = true := by decide
    simpa using List.all_eq_true.1 table _ name
  · have table : numbers.all (fun entry => entry.1.toList ≠ []) = true := by decide
    simpa using List.all_eq_true.1 table _ number

theorem exists_head (h : limit.SpelledAs word) :
    ∃ c rest, word.toList = c :: rest ∧ c.isAlphanum = true := by
  obtain ⟨c, rest, text⟩ := List.exists_cons_of_ne_nil h.ne_nil
  exact ⟨c, rest, text, h.isAlphanum c (by rw [text]; exact List.mem_cons_self)⟩

theorem not_mem_comma (h : limit.SpelledAs word) : ',' ∉ word.toList := by
  intro comma
  cases h.isAlphanum ',' comma

theorem read? (h : limit.SpelledAs word) : Limit.read? word.toList = some limit := by
  obtain ⟨c, rest, text⟩ := List.exists_cons_of_ne_nil h.ne_nil
  rcases h with name | number
  · have alpha := isAlpha_of_mem_words name c (by rw [text]; exact List.mem_cons_self)
    have plus : c ≠ '+' := by rintro rfl; cases alpha
    have digit : c.isDigit = false := not_isDigit_of_isWordStart (by simp [isWordStart, alpha])
    have none : readNumber? word.toList = none := by simp [readNumber?, text, plus, digit]
    have table : words.all (fun entry => words.lookup entry.1 = some entry.2) = true := by decide
    have found := List.all_eq_true.1 table _ name
    rw [Limit.read?, none]
    simpa using found
  · have table : numbers.all (fun entry => Limit.read? entry.1.toList = some entry.2) = true := by
      decide
    simpa using List.all_eq_true.1 table _ number

end Limit.SpelledAs

/-! ### Directives -/

theorem not_isSpacing_of_isAlphanum {c : Char} (h : c.isAlphanum = true) :
    isSpacing c = false := by
  have bounds : 48 ≤ c.toNat ∧ c.toNat ≤ 122 := by
    rcases Bool.or_eq_true_iff.1 h with letter | digit
    · rcases Bool.or_eq_true_iff.1 letter with upper | lower
      · obtain ⟨first, last⟩ := of_decide_eq_true upper
        exact ⟨Nat.le_trans (by decide) (UInt32.le_iff_toNat_le.1 first),
          Nat.le_trans (UInt32.le_iff_toNat_le.1 last) (by decide)⟩
      · obtain ⟨first, last⟩ := Bool.and_eq_true_iff.1 lower
        exact ⟨Nat.le_trans (by decide) (UInt32.le_iff_toNat_le.1 (of_decide_eq_true first)),
          UInt32.le_iff_toNat_le.1 (of_decide_eq_true last)⟩
    · obtain ⟨first, last⟩ := Bool.and_eq_true_iff.1 digit
      exact ⟨UInt32.le_iff_toNat_le.1 (of_decide_eq_true first),
        Nat.le_trans (UInt32.le_iff_toNat_le.1 (of_decide_eq_true last)) (by decide)⟩
  have apart : spacingRanges.all (fun r => r.2 < 48 || 122 < r.1) = true := by decide
  rw [Bool.eq_false_iff, ne_eq, isSpacing, inRanges_iff]
  rintro ⟨r, hr, first, last⟩
  have outside := List.all_eq_true.1 apart r hr
  simp only [Bool.or_eq_true, decide_eq_true_eq] at outside
  omega

namespace Directive

/-- The text begins with a character that a directive may begin with, and not with spacing. -/
def Opens (text : List Char) : Prop :=
  ∃ c ∈ text.head?, isOpening c = true ∧ isSpacing c = false

/-- The text has neither an equals sign nor a bracket, with which a scope ends. -/
def IsScope (text : List Char) : Prop := ∀ c ∈ text, c ≠ '=' ∧ c ≠ '['

variable {text : List Char}

theorem Opens.begins (h : Opens text) : begins text = true ∧ text.head?.any isSpacing = false := by
  obtain ⟨c, hc, opening, spacing⟩ := h
  obtain ⟨rest, rfl⟩ := List.head?_eq_some_iff.1 hc
  simp [Directive.begins, opening, spacing]

theorem Opens.of_prefix {longer : List Char} (h : Opens longer) (nonempty : text ≠ [])
    (begins : text <+: longer) : Opens text := by
  obtain ⟨c, hc, both⟩ := h
  obtain ⟨d, rest, rfl⟩ := List.exists_cons_of_ne_nil nonempty
  obtain ⟨more, rfl⟩ := begins
  exact ⟨c, hc, both⟩

/-- A text that does not open so does not begin as a directive, or begins with spacing. -/
theorem head_of_not_opens (h : ¬ Opens text) (begins : begins text = true) :
    text.head?.any isSpacing = true := by
  cases text with
  | nil => cases begins
  | cons c rest =>
    cases spacing : isSpacing c with
    | true => exact spacing
    | false =>
      have opening : isOpening c = true := by simpa [Directive.begins, spacing] using begins
      exact absurd ⟨c, rfl, opening, spacing⟩ h

theorem IsScope.takeWhile {R : List Char} (h : IsScope text)
    (ends : R = [] ∨ R.head? = some '=') :
    (text ++ R).takeWhile (fun c => c ≠ '=' ∧ c ≠ '[') = text ∧
      (text ++ R).dropWhile (fun c => c ≠ '=' ∧ c ≠ '[') = R := by
  have all : ∀ c ∈ text, decide (c ≠ '=' ∧ c ≠ '[') = true :=
    fun c hc => decide_eq_true (h c hc)
  have head : ∀ c ∈ R.head?, decide (c ≠ '=' ∧ c ≠ '[') = false := by
    intro c hc
    rcases ends with rfl | equals
    · cases hc
    · obtain rfl := Option.some.inj (equals.symm.trans hc)
      rfl
  exact ⟨takeWhile_append_of_head all head, dropWhile_append_of_head all head⟩

variable {limit : Limit} {word : String}

theorem opens_of_spelledAs (h : limit.SpelledAs word) : Opens word.toList := by
  obtain ⟨c, rest, text, alphanum⟩ := h.exists_head
  have alphanumeric : isAlphanumeric c = true := isAlphanumeric_of_isAlphanum alphanum
  exact ⟨c, by rw [text]; rfl, by simp [isOpening, alphanumeric],
    not_isSpacing_of_isAlphanum alphanum⟩

theorem read?_level (h : limit.SpelledAs word) : read? word.toList = some (.everywhere limit) := by
  have scope : IsScope word.toList := by
    intro c hc
    have alphanum := h.isAlphanum c hc
    constructor <;> rintro rfl <;> cases alphanum
  have ends := (scope.takeWhile (.inl rfl)).2
  rw [List.append_nil] at ends
  rw [read?, ends, if_neg (by simp [(opens_of_spelledAs h).begins])]
  simp only [ofWord, h.read?]

/-- What a scope and an equals sign are read as, with what follows. -/
theorem read?_append_equal (scope : IsScope text) (word : List Char) :
    read? (text ++ '=' :: word) =
      if begins (text ++ '=' :: word) = true ∧
          (text ++ '=' :: word).head?.any isSpacing = false then
        (readLimit? ('=' :: word)).map fun limit => ⟨String.ofList text, .trivial, limit⟩
      else none := by
  obtain ⟨ends, rest'⟩ := scope.takeWhile (R := '=' :: word) (.inr rfl)
  rw [read?, ends, rest']
  cases begins (text ++ '=' :: word) <;> cases (text ++ '=' :: word).head?.any isSpacing <;>
    cases limited : readLimit? ('=' :: word) <;> simp [limited]

/-- A scope, an equals sign and a word for a limit are a directive if they open as one. -/
theorem read?_scope (h : limit.SpelledAs word) (scope : IsScope text) (opens : Opens text) :
    read? (text ++ '=' :: word.toList) = some ⟨String.ofList text, .trivial, limit⟩ := by
  have opens' : Opens (text ++ '=' :: word.toList) := by
    obtain ⟨c, hc, both⟩ := opens
    obtain ⟨more, rfl⟩ := List.head?_eq_some_iff.1 hc
    exact ⟨c, rfl, both⟩
  have limited : readLimit? ('=' :: word.toList) = some limit := by
    obtain ⟨c, more, text', -⟩ := h.exists_head
    rw [← h.read?, text']
    rfl
  rw [read?_append_equal scope, if_pos opens'.begins, limited]
  rfl

theorem read?_scope_eq_none (nonempty : text ≠ []) (scope : IsScope text) (opens : ¬ Opens text)
    (word : List Char) : read? (text ++ '=' :: word) = none := by
  have opens' : ¬ Opens (text ++ '=' :: word) := by
    obtain ⟨c, more, rfl⟩ := List.exists_cons_of_ne_nil nonempty
    exact opens
  rw [read?_append_equal scope, if_neg]
  rintro ⟨begun, spaced⟩
  rw [head_of_not_opens opens' begun] at spaced
  cases spaced

end Directive

/-! ### Settings -/

theorem Filter.ofSetting_eq {text : String} (nonempty : text.toList ≠ [])
    (single : ',' ∉ text.toList) : Filter.ofSetting (some text) =
      ((Directive.read? text.toList).map fun d => ⟨[d]⟩).getD .standard := by
  have texts : (segments ',' text.toList).filter (· ≠ []) = [text.toList] := by
    simp [segments_of_not_mem single, nonempty]
  rw [Filter.ofSetting, Option.bind_some, Filter.read?, texts]
  cases read : Directive.read? text.toList <;> simp [read]

theorem Filter.admits_scope (scope target : String) (limit : Limit) (fields : List String)
    (level : Level) : (⟨[⟨scope, .trivial, limit⟩]⟩ : Filter).admits target fields level =
      (scope.toList.isPrefixOf target.toList && limit.admits level) := by
  cases begins : scope.toList.isPrefixOf target.toList <;>
    simp [Filter.admits, Directive.concerns, Filter.mostSpecific?, begins]

/-- A plain log setting, and the targets and levels that it admits. -/
inductive PlainSetting : Option String → (String → Level → Bool) → Prop where
  /-- Without a setting, warnings and errors are logged. -/
  | unset : PlainSetting none fun _ level => (Limit.upTo .warn).admits level
  /-- A level is a limit for all targets. -/
  | level {limit : Limit} {word : String} (h : limit.SpelledAs word) :
    PlainSetting (some word) fun _ level => limit.admits level
  /-- A text, an equals sign and a level are a limit for the targets that begin with the text. -/
  | scope {limit : Limit} {word scope : String} (h : limit.SpelledAs word) (nonempty : scope ≠ "")
    (plain : ∀ c ∈ scope.toList, c ≠ ',' ∧ c ≠ '=' ∧ c ≠ '[') :
    PlainSetting (some (scope ++ "=" ++ word)) fun target level =>
      scope.toList.isPrefixOf target.toList && limit.admits level

/-- The targets of events open as directives do, and their levels are none that is always logged. -/
theorem Event.opens_target (e : Event) :
    Directive.Opens e.target.toList ∧ (Limit.upTo .warn).admits e.level = false := by
  cases e <;> exact ⟨⟨'l', by simp [target], by decide, by decide⟩, rfl⟩

/-- **A plain setting admits the events whose target and level it says.** -/
theorem admittedBy_of_plain {setting : Option String} {rule : String → Level → Bool}
    (h : PlainSetting setting rule) (e : Event) :
    e.admittedBy (.ofSetting setting) = rule e.target e.level := by
  cases h with
  | unset => exact Filter.admits_everywhere _ _ _ _
  | @level limit word h =>
    rw [Filter.ofSetting_eq h.ne_nil h.not_mem_comma, Directive.read?_level h]
    exact Filter.admits_everywhere _ _ _ _
  | @scope limit word scope h nonempty plain =>
    have text : (scope ++ "=" ++ word).toList = scope.toList ++ '=' :: word.toList := by simp
    have nonempty' : scope.toList ≠ [] := by simpa using nonempty
    have single : ',' ∉ scope.toList ++ '=' :: word.toList := by
      simp only [List.mem_append, List.mem_cons, not_or]
      exact ⟨fun comma => (plain ',' comma).1 rfl, by decide, h.not_mem_comma⟩
    have isScope : Directive.IsScope scope.toList := fun c hc => (plain c hc).2
    rw [Filter.ofSetting_eq (by simp [text]) (by rwa [text]), text]
    by_cases opens : Directive.Opens scope.toList
    · rw [Directive.read?_scope h isScope opens, String.ofList_toList]
      exact Filter.admits_scope _ _ _ _ _
    · rw [Directive.read?_scope_eq_none nonempty' isScope opens]
      obtain ⟨first, quiet⟩ := e.opens_target
      have apart : scope.toList.isPrefixOf e.target.toList = false := by
        rw [Bool.eq_false_iff, ne_eq, List.isPrefixOf_iff_prefix]
        intro begins
        exact opens (first.of_prefix nonempty' begins)
      calc e.admittedBy .standard = (Limit.upTo .warn).admits e.level :=
            Filter.admits_everywhere _ _ _ _
        _ = (scope.toList.isPrefixOf e.target.toList && limit.admits e.level) := by
            rw [quiet, apart, Bool.false_and]

end LoxLexer
