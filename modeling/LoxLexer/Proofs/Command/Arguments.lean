import LoxLexer.Command.Arguments
import Mathlib.Data.List.Induction
import Mathlib.Data.List.Pairwise
import Mathlib.Data.List.TakeWhile

/-!
# What arguments ask for

Arguments are read word by word, but what they ask for can be said of all words at once: which of
them stand before the word `--`, which of these are options or requests for help, and in what order.
Either the words are accepted, and then **`read_of_accepted`** says what they ask for, or one of
them is the first that is refused, and then **`read_of_refused`** says why; there is no third case
(`accepted_or_refused`).
-/

namespace LoxLexer

/-! ### Words -/

/-- The word asks for help. -/
def IsHelp (word : String) : Prop := word = "--help" ∨ word = "help"

/-- The word asks for the version. -/
def IsVersion (word : String) : Prop := word = "-v" ∨ word = "--version"

/-- The word is an option: it begins with a hyphen and does not ask for help. -/
def IsOption (word : String) : Prop := word.toList.head? = some '-' ∧ ¬ IsHelp word

/-- The word is an option that there is. -/
def IsKnown (word : String) : Prop := IsVersion word ∨ word = "--verbose"

instance (word : String) : Decidable (IsHelp word) := inferInstanceAs (Decidable (_ ∨ _))

instance (word : String) : Decidable (IsVersion word) := inferInstanceAs (Decidable (_ ∨ _))

instance (word : String) : Decidable (IsOption word) := inferInstanceAs (Decidable (_ ∧ _))

instance (word : String) : Decidable (IsKnown word) := inferInstanceAs (Decidable (_ ∨ _))

theorem IsKnown.isOption {word : String} (h : IsKnown word) : IsOption word := by
  rcases h with (rfl | rfl) | rfl <;> decide

theorem IsHelp.not_isOption {word : String} (h : IsHelp word) : ¬ IsOption word :=
  fun option => option.2 h

/-! ### Lists of words -/

/-- The words before the word `--`, among which options are looked for. -/
def optionWords (words : List String) : List String := words.takeWhile (· ≠ "--")

/-- The words behind the word `--`. -/
def plainWords (words : List String) : List String := (words.dropWhile (· ≠ "--")).tail

/-- The scripts that the words name: those before the word `--` that are neither options nor ask for
help, and all behind it. -/
def scriptWords (words : List String) : List String :=
  (optionWords words).filter (fun word => ¬ IsHelp word ∧ ¬ IsOption word) ++ plainWords words

/-- The words can be read: all options among them are known, and none stands behind a request for
help. -/
structure Accepted (words : List String) : Prop where
  /-- There are these options. -/
  known : ∀ word ∈ words, IsOption word → IsKnown word
  /-- Help is asked for behind the options. -/
  helpLast : words.Pairwise fun before behind => IsHelp before → ¬ IsOption behind

/-- The words are refused at the first one that cannot be read. -/
inductive Refused : List String → Refusal → Prop where
  /-- It is an unknown option. -/
  | unknownOption {front back : List String} {word : String} (accepted : Accepted front)
      (noHelp : ∀ w ∈ front, ¬ IsHelp w) (option : IsOption word) (unknown : ¬ IsKnown word) :
      Refused (front ++ word :: back) (.unknownOption word)
  /-- It is an option behind a request for help. -/
  | optionAfterHelp {front back : List String} {word : String} (accepted : Accepted front)
      (help : ∃ w ∈ front, IsHelp w) (option : IsOption word) :
      Refused (front ++ word :: back) .optionAfterHelp

/-- The words ask for the prompt: they can be read, and ask for nothing else and name no script. -/
structure AsksForPrompt (words : List String) : Prop where
  /-- The words can be read. -/
  accepted : Accepted (optionWords words)
  /-- Help is not asked for. -/
  noHelp : ∀ word ∈ optionWords words, ¬ IsHelp word
  /-- The version is not asked for. -/
  noVersion : ∀ word ∈ optionWords words, ¬ IsVersion word
  /-- There is no script. -/
  noScript : scriptWords words = []

/-- One more word is accepted if it is no option, or a known one and help is not asked for yet. -/
theorem accepted_append_singleton {words : List String} {word : String} :
    Accepted (words ++ [word]) ↔
      Accepted words ∧ (IsOption word → IsKnown word ∧ ∀ w ∈ words, ¬ IsHelp w) := by
  constructor
  · rintro ⟨known, helpLast⟩
    obtain ⟨before, -, last⟩ := List.pairwise_append.1 helpLast
    refine ⟨⟨fun w hw => known w (List.mem_append_left _ hw), before⟩, fun option => ?_⟩
    exact ⟨known word (by simp) option, fun w hw help => last w hw word (by simp) help option⟩
  · rintro ⟨⟨known, helpLast⟩, last⟩
    constructor
    case known =>
      intro w hw option
      rcases List.mem_append.1 hw with hw | hw
      · exact known w hw option
      · obtain rfl := List.mem_singleton.1 hw
        exact (last option).1
    case helpLast =>
      refine List.pairwise_append.2 ⟨helpLast, List.pairwise_singleton _ _, fun w hw v hv => ?_⟩
      obtain rfl := List.mem_singleton.1 hv
      exact fun help option => (last option).2 w hw help

theorem Refused.append {words : List String} {r : Refusal} (h : Refused words r)
    (more : List String) : Refused (words ++ more) r := by
  cases h with
  | unknownOption accepted noHelp option unknown =>
    rw [List.append_assoc]
    exact .unknownOption accepted noHelp option unknown
  | optionAfterHelp accepted help option =>
    rw [List.append_assoc]
    exact .optionAfterHelp accepted help option

/-- **Words are accepted, or one of them is the first that is refused.** -/
theorem accepted_or_refused (words : List String) : Accepted words ∨ ∃ r, Refused words r := by
  induction words using List.reverseRecOn with
  | nil => exact .inl ⟨by simp, List.Pairwise.nil⟩
  | append_singleton words word ih =>
    rcases ih with accepted | ⟨r, refused⟩
    · by_cases option : IsOption word
      · by_cases help : ∃ w ∈ words, IsHelp w
        · exact .inr ⟨_, .optionAfterHelp accepted help option⟩
        · have noHelp : ∀ w ∈ words, ¬ IsHelp w := fun w hw asks => help ⟨w, hw, asks⟩
          by_cases known : IsKnown word
          · exact .inl (accepted_append_singleton.2 ⟨accepted, fun _ => ⟨known, noHelp⟩⟩)
          · exact .inr ⟨_, .unknownOption accepted noHelp option known⟩
      · exact .inl (accepted_append_singleton.2 ⟨accepted, fun h => absurd h option⟩)
    · exact .inr ⟨r, refused.append [word]⟩

/-- What words ask for: the first check that applies decides. -/
inductive Asked (words : List String) : Prop where
  /-- They are refused. -/
  | refused {r : Refusal} (refused : Refused (optionWords words) r)
  /-- They ask for help. -/
  | help (accepted : Accepted (optionWords words)) (help : ∃ word ∈ optionWords words, IsHelp word)
  /-- They ask for the version. -/
  | version (accepted : Accepted (optionWords words))
      (noHelp : ∀ word ∈ optionWords words, ¬ IsHelp word)
      (version : ∃ word ∈ optionWords words, IsVersion word)
  /-- They name several scripts. -/
  | several (accepted : Accepted (optionWords words))
      (noHelp : ∀ word ∈ optionWords words, ¬ IsHelp word)
      (noVersion : ∀ word ∈ optionWords words, ¬ IsVersion word)
      (several : 2 ≤ (scriptWords words).length)
  /-- They name one script. -/
  | script {path : String} (accepted : Accepted (optionWords words))
      (noHelp : ∀ word ∈ optionWords words, ¬ IsHelp word)
      (noVersion : ∀ word ∈ optionWords words, ¬ IsVersion word)
      (script : scriptWords words = [path])
  /-- They ask for the prompt. -/
  | prompt (asks : AsksForPrompt words)

/-- One of the checks applies. -/
theorem asked (words : List String) : Asked words := by
  rcases accepted_or_refused (optionWords words) with accepted | ⟨r, refused⟩
  case inr => exact .refused refused
  by_cases help : ∃ word ∈ optionWords words, IsHelp word
  · exact .help accepted help
  have noHelp : ∀ word ∈ optionWords words, ¬ IsHelp word := by simpa using help
  by_cases version : ∃ word ∈ optionWords words, IsVersion word
  · exact .version accepted noHelp version
  have noVersion : ∀ word ∈ optionWords words, ¬ IsVersion word := by simpa using version
  match scripts : scriptWords words with
  | [] => exact .prompt ⟨accepted, noHelp, noVersion, scripts⟩
  | [path] => exact .script accepted noHelp noVersion scripts
  | first :: second :: more => exact .several accepted noHelp noVersion (by simp [scripts])

theorem Refused.mem {words : List String} {word : String}
    (h : Refused words (.unknownOption word)) : word ∈ words := by
  cases h with
  | unknownOption => simp

theorem mem_of_mem_optionWords {words : List String} {word : String}
    (h : word ∈ optionWords words) : word ∈ words :=
  (List.takeWhile_sublist _).subset h

theorem mem_of_mem_scriptWords {words : List String} {word : String}
    (h : word ∈ scriptWords words) : word ∈ words := by
  rcases List.mem_append.1 h with early | late
  · exact mem_of_mem_optionWords (List.mem_filter.1 early).1
  · exact (List.dropWhile_sublist _).subset (List.mem_of_mem_tail late)

/-! ### Reading -/

namespace Reading

/-- What is read in words before the word `--`. -/
def ofWords (words : List String) : Reading :=
  ⟨words.any (IsHelp ·), false, ⟨words.any (IsVersion ·), words.any (· = "--verbose"),
    words.filter fun word => ¬ IsHelp word ∧ ¬ IsOption word⟩⟩

theorem help_ofWords {words : List String} :
    (ofWords words).help = true ↔ ∃ w ∈ words, IsHelp w := by
  simp [ofWords]

/-- One word more asks for help, for the version or for the log, or names a script. -/
theorem ofWords_append_singleton (words : List String) (word : String) :
    ofWords (words ++ [word]) = ⟨(ofWords words).help || decide (IsHelp word), false,
      ⟨(ofWords words).options.version || decide (IsVersion word),
        (ofWords words).options.verbose || decide (word = "--verbose"),
        (ofWords words).options.scripts ++
          if ¬ IsHelp word ∧ ¬ IsOption word then [word] else []⟩⟩ := by
  simp [ofWords, List.filter_cons]

theorem word_of_not_isOption {word : String} (h : ¬ IsOption word) (words : List String) :
    (ofWords words).word word = .ok (ofWords (words ++ [word])) := by
  have version : ¬ IsVersion word := fun version => h (IsKnown.isOption (.inl version))
  have verbose : word ≠ "--verbose" := fun verbose => h (IsKnown.isOption (.inr verbose))
  rw [ofWords_append_singleton]
  by_cases help : IsHelp word
  · rw [Reading.word, if_pos ⟨by simp [ofWords], help⟩]
    simp [help, version, verbose]
    rfl
  · have hyphen : word.toList.head? ≠ some '-' := fun hyphen => h ⟨hyphen, help⟩
    rw [Reading.word, if_neg fun both => help both.2, if_neg fun both => hyphen both.2]
    simp [help, h, version, verbose]
    rfl

theorem word_of_isOption {word : String} (h : IsOption word) (words : List String) :
    (ofWords words).word word = (ofWords words).option word := by
  rw [Reading.word, if_neg fun both => h.2 both.2, if_pos ⟨by simp [ofWords], h.1⟩]

theorem word_of_isKnown {word : String} {words : List String} (known : IsKnown word)
    (noHelp : ∀ w ∈ words, ¬ IsHelp w) :
    (ofWords words).word word = .ok (ofWords (words ++ [word])) := by
  have option := known.isOption
  have noHelp' : (ofWords words).help = false := by simpa [ofWords] using noHelp
  rw [word_of_isOption option, ofWords_append_singleton]
  have ended : word ≠ "--" := by
    rintro rfl
    exact absurd known (by decide)
  rw [Reading.option, if_neg ended, if_neg (by simp [noHelp'])]
  rcases known with version | rfl
  · have verbose : word ≠ "--verbose" := by
      rintro rfl
      exact absurd version (by decide)
    have named : word = "-v" ∨ word = "--version" := version
    rw [if_pos named]
    simp [option, option.2, version, verbose]
    rfl
  · have version : ¬ IsVersion "--verbose" := by decide
    rw [if_neg (by decide), if_pos rfl]
    simp [option, option.2, version]
    rfl

theorem word_of_unknown {word : String} {words : List String} (option : IsOption word)
    (ne : word ≠ "--") (unknown : ¬ IsKnown word) (noHelp : ∀ w ∈ words, ¬ IsHelp w) :
    (ofWords words).word word = .error (.unknownOption word) := by
  have noHelp' : (ofWords words).help = false := by simpa [ofWords] using noHelp
  have version : ¬ (word = "-v" ∨ word = "--version") := fun version => unknown (.inl version)
  have verbose : word ≠ "--verbose" := fun verbose => unknown (.inr verbose)
  rw [word_of_isOption option, Reading.option, if_neg ne, if_neg (by simp [noHelp']),
    if_neg version, if_neg verbose]

/-- Behind a request for help every option but the word `--` is refused. -/
theorem word_of_help {word : String} {words : List String} (option : IsOption word)
    (ne : word ≠ "--") (help : ∃ w ∈ words, IsHelp w) :
    (ofWords words).word word = .error .optionAfterHelp := by
  rw [word_of_isOption option, Reading.option, if_neg ne, if_pos (help_ofWords.2 help)]

theorem foldlM_word_of_accepted {words : List String} (accepted : Accepted words) :
    words.foldlM word start = .ok (ofWords words) := by
  induction words using List.reverseRecOn with
  | nil => rfl
  | append_singleton words word ih =>
    obtain ⟨before, last⟩ := accepted_append_singleton.1 accepted
    rw [List.foldlM_append, ih before]
    by_cases option : IsOption word
    · exact (bind_pure _).trans (word_of_isKnown (last option).1 (last option).2)
    · exact (bind_pure _).trans (word_of_not_isOption option words)

theorem foldlM_word_of_ended (words : List String) (r : Reading) (ended : r.ended = true) :
    words.foldlM word r = .ok { r with options.scripts := r.options.scripts ++ words } := by
  induction words generalizing r with
  | nil => simp [pure, Except.pure]
  | cons first words ih =>
    have read : r.word first = .ok { r with options.scripts := r.options.scripts ++ [first] } := by
      rw [word, if_neg (by simp [ended]), if_neg (by simp [ended])]
    rw [List.foldlM_cons, read]
    refine (ih { r with options.scripts := r.options.scripts ++ [first] } ended).trans ?_
    rw [List.append_assoc]
    rfl

end Reading

/-- The words are those before the word `--`, and then nothing, or this word and those behind it. -/
theorem eq_optionWords_append (words : List String) :
    ∃ rest, words = optionWords words ++ rest ∧
      (rest = [] ∧ plainWords words = [] ∨ rest = "--" :: plainWords words) := by
  refine ⟨words.dropWhile (· ≠ "--"), List.takeWhile_append_dropWhile.symm, ?_⟩
  rw [plainWords]
  cases ends : words.dropWhile (· ≠ "--") with
  | nil => exact .inl ⟨rfl, rfl⟩
  | cons mark behind =>
    have head := List.head?_dropWhile_not (· ≠ "--") words
    rw [ends] at head
    obtain rfl : mark = "--" := by simpa using head
    exact .inr rfl

theorem ne_of_mem_optionWords {words : List String} {word : String}
    (h : word ∈ optionWords words) : word ≠ "--" := by
  simpa using List.mem_takeWhile_imp h

/-- Behind accepted words, the word `--` and words behind it name scripts. -/
theorem Reading.foldlM_word_of_accepted_optionWords {words : List String}
    (accepted : Accepted (optionWords words)) :
    ∃ ended, words.foldlM Reading.word Reading.start =
      .ok ⟨(ofWords (optionWords words)).help, ended,
        ⟨(ofWords (optionWords words)).options.version,
          (ofWords (optionWords words)).options.verbose, scriptWords words⟩⟩ := by
  obtain ⟨rest, all, ends⟩ := eq_optionWords_append words
  have read : words.foldlM Reading.word Reading.start =
      rest.foldlM Reading.word (ofWords (optionWords words)) := by
    conv_lhs => rw [all, List.foldlM_append, foldlM_word_of_accepted accepted]
    rfl
  rw [read, scriptWords]
  rcases ends with ⟨rfl, none⟩ | rfl
  · exact ⟨false, by rw [none, List.append_nil]; rfl⟩
  · have mark : (ofWords (optionWords words)).word "--" =
        .ok { ofWords (optionWords words) with ended := true } := by
      rw [word_of_isOption (by decide), option, if_pos rfl]
    rw [List.foldlM_cons, mark]
    exact ⟨true, foldlM_word_of_ended _ { ofWords (optionWords words) with ended := true } rfl⟩

theorem Reading.foldlM_word_of_error {front : List String} {word : String} {r r' : Reading}
    {e : Refusal} (read : front.foldlM Reading.word r = .ok r') (refused : r'.word word = .error e)
    (back : List String) : (front ++ word :: back).foldlM Reading.word r = .error e := by
  simp only [List.foldlM_append, read, List.foldlM_cons, refused, bind, Except.bind]

theorem Request.read_eq (words : List String) : Request.read words =
    (words.foldlM Reading.word Reading.start).map fun r =>
      if r.help then .help else .run r.options := by
  rw [Request.read]
  cases words.foldlM Reading.word Reading.start <;> rfl

/-- **What accepted words ask for**: help, or a run with the options that are named before the word
`--`, on the scripts named. -/
theorem read_of_accepted {words : List String} (accepted : Accepted (optionWords words)) :
    Request.read words = .ok (if ∃ w ∈ optionWords words, IsHelp w then .help
      else .run ⟨(optionWords words).any (IsVersion ·), (optionWords words).any (· = "--verbose"),
        scriptWords words⟩) := by
  obtain ⟨ended, read⟩ := Reading.foldlM_word_of_accepted_optionWords accepted
  rw [Request.read_eq, read, Except.map]
  by_cases help : ∃ w ∈ optionWords words, IsHelp w
  · rw [if_pos help, if_pos (Reading.help_ofWords.2 help)]
  · rw [if_neg help, if_neg (mt Reading.help_ofWords.1 help)]
    rfl

/-- **Why words are refused**: for the first word that is. -/
theorem read_of_refused {words : List String} {r : Refusal}
    (refused : Refused (optionWords words) r) : Request.read words = .error r := by
  obtain ⟨rest, all, -⟩ := eq_optionWords_append words
  have ends : ∀ word ∈ optionWords words, word ≠ "--" := fun word => ne_of_mem_optionWords
  generalize optionWords words = before at refused all ends
  subst all
  have stops {front back : List String} {word : String} (accepted : Accepted front)
      (refused : (Reading.ofWords front).word word = .error r) :
      Request.read (front ++ word :: back ++ rest) = .error r := by
    have read := Reading.foldlM_word_of_accepted accepted
    rw [Request.read_eq, List.append_assoc, List.cons_append,
      Reading.foldlM_word_of_error read refused, Except.map]
  cases refused with
  | unknownOption accepted noHelp option unknown =>
    exact stops accepted (Reading.word_of_unknown option (ends _ (by simp)) unknown noHelp)
  | optionAfterHelp accepted help option =>
    exact stops accepted (Reading.word_of_help option (ends _ (by simp)) help)

end LoxLexer
