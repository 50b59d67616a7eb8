import LoxLexer.Command.Run
import LoxLexer.Proofs.Scan.LongestMatch

/-!
# Reading the printed tokens

What a scan prints tells its tokens: **`scan_print_eq_iff`**. A line of the output need not be a
token, because the text of a string may hold newlines and look like other tokens. But the name of a
kind ends at the first blank, a lexeme ends at a quote or at the next blank (`lexeme_inj`), and kind
and lexeme decide what else is printed. So the first token is known before the end of its text, and
with it where the next one begins (`Token.printed_append_inj`).
-/

namespace LoxLexer

/-! ### Names and lexemes -/

theorem Kind.name_inj {j k : Kind} (h : j.name = k.name) : j = k := by
  have found := ofName?_name j
  rw [h, ofName?_name k] at found
  exact (Option.some.inj found).symm

theorem Kind.name_solid (kind : Kind) : ∀ c ∈ kind.name.toList, isBlank c = false := by
  have solid : all.all (fun k => k.name.toList.all fun c => !isBlank c) = true := by
    decide +kernel
  simpa using List.all_eq_true.1 solid kind kind.mem_all

/-- Two texts without characters of a class, in front of texts that begin with one or are empty, are
equal if all together is. -/
theorem run_inj {p : Char → Bool} {s t r q : List Char} (hs : ∀ c ∈ s, p c = true)
    (ht : ∀ c ∈ t, p c = true) (hr : ∀ c ∈ r.head?, p c = false) (hq : ∀ c ∈ q.head?, p c = false)
    (h : s ++ r = t ++ q) : s = t ∧ r = q := by
  have same : s = t := by
    rw [← takeWhile_append_of_head hs hr, h, takeWhile_append_of_head ht hq]
  subst same
  exact ⟨rfl, List.append_cancel_left h⟩

/-- The lexemes of a kind, that of the end of the text included. -/
def Kind.HasLexeme (kind : Kind) (lexeme : List Char) : Prop :=
  Lexeme kind lexeme ∨ kind = .endOfText ∧ lexeme = []

theorem Kind.HasLexeme.string_or_solid {kind : Kind} {lexeme : List Char}
    (h : kind.HasLexeme lexeme) :
    (kind = .string ∧ ∃ body, '"' ∉ body ∧ lexeme = '"' :: body ++ ['"']) ∨
      (kind ≠ .string ∧ ∀ c ∈ lexeme, isBlank c = false) := by
  rcases h with h | ⟨rfl, rfl⟩
  · exact h.string_or_solid
  · exact .inr ⟨by decide, by simp⟩

/-- Two lexemes of one kind in front of blanks are equal if they begin the same text. -/
theorem lexeme_inj {kind : Kind} {v w r q : List Char} (hv : kind.HasLexeme v)
    (hw : kind.HasLexeme w) (hr : ∀ c ∈ r.head?, isBlank c = true)
    (hq : ∀ c ∈ q.head?, isBlank c = true) (h : v ++ r = w ++ q) : v = w ∧ r = q := by
  rcases hv.string_or_solid with ⟨string, body, free, rfl⟩ | ⟨string, solid⟩
  · obtain ⟨-, body', free', rfl⟩ := hw.string_or_solid.resolve_right fun other => other.1 string
    rw [List.append_assoc, List.append_assoc] at h
    obtain ⟨rfl, rest⟩ := run_inj (p := (· != '"')) (ne_mark_of_not_mem free)
      (ne_mark_of_not_mem free') (by simp) (by simp) (List.cons.inj h).2
    exact ⟨rfl, (List.cons.inj rest).2⟩
  · obtain ⟨-, solid'⟩ := hw.string_or_solid.resolve_left fun other => string other.1
    exact run_inj (p := fun c => !isBlank c) (by simpa using solid) (by simpa using solid')
      (by simpa using hr) (by simpa using hq) h

/-! ### One token -/

/-- A token without its place: its kind, its lexeme and its literal. -/
def Token.content (t : Token) : Kind × String × Option Literal := (t.kind, t.lexeme, t.literal)

/-- The kind and the lexeme of a token belong together, and its literal follows from them. -/
structure Token.IsRead (t : Token) : Prop where
  /-- The lexeme is one of the kind. -/
  lexeme : t.kind.HasLexeme t.lexeme.toList
  /-- The literal is that of the kind and the lexeme. -/
  literal : t.literal = t.kind.literal? t.lexeme.toList

/-- The text of a token in the output, with its newline. -/
def Token.printed (t : Token) : List Char := (t.display ++ "\n").toList

/-- What follows the lexeme: a blank and the literal, if there is one, and a newline. -/
def Token.printedEnd (t : Token) : List Char :=
  (t.literal.map fun literal => ' ' :: literal.display.toList).getD [] ++ ['\n']

theorem Token.printed_eq (t : Token) :
    t.printed = t.kind.name.toList ++ ' ' :: (t.lexeme.toList ++ t.printedEnd) := by
  rcases t with ⟨kind, lexeme, _ | literal, line, span⟩ <;>
    simp [printed, display, printedEnd]

theorem Token.isBlank_head_printedEnd (t : Token) (rest : List Char) :
    ∀ c ∈ (t.printedEnd ++ rest).head?, isBlank c = true := by
  rcases t with ⟨kind, lexeme, _ | literal, line, span⟩ <;> simp [printedEnd] <;> rfl

/-- **The first token of an output is known**, and so is where the next one begins. -/
theorem Token.printed_append_inj {t u : Token} {r q : List Char} (ht : t.IsRead) (hu : u.IsRead)
    (h : t.printed ++ r = u.printed ++ q) : t.content = u.content ∧ r = q := by
  simp only [printed_eq, List.append_assoc, List.cons_append] at h
  have blank : ∀ s : List Char, ∀ c ∈ (' ' :: s).head?, (!isBlank c) = false := by
    intro s c hc
    obtain rfl := Option.some.inj hc
    rfl
  obtain ⟨name, rest⟩ := run_inj (p := fun c => !isBlank c) (by simpa using t.kind.name_solid)
    (by simpa using u.kind.name_solid) (blank _) (blank _) h
  have kind : t.kind = u.kind := Kind.name_inj (String.toList_inj.1 name)
  have valid := hu.lexeme
  rw [← kind] at valid
  obtain ⟨lexeme, last⟩ := lexeme_inj ht.lexeme valid (t.isBlank_head_printedEnd r)
    (u.isBlank_head_printedEnd q) (List.cons.inj rest).2
  have literal : t.literal = u.literal := by rw [ht.literal, hu.literal, kind, lexeme]
  refine ⟨by rw [content, content, kind, String.toList_inj.1 lexeme, literal], ?_⟩
  rw [printedEnd, printedEnd, literal] at last
  exact List.append_cancel_left last

/-! ### All tokens -/

theorem Token.printed_ne_nil (t : Token) : t.printed ≠ [] := by
  simp [printed_eq]

theorem printed_inj {ts us : List Token} (hts : ∀ t ∈ ts, t.IsRead) (hus : ∀ u ∈ us, u.IsRead)
    (h : ts.flatMap Token.printed = us.flatMap Token.printed) :
    ts.map Token.content = us.map Token.content := by
  induction ts generalizing us with
  | nil =>
    cases us with
    | nil => rfl
    | cons u us => simp [u.printed_ne_nil] at h
  | cons t ts ih =>
    cases us with
    | nil => simp [t.printed_ne_nil] at h
    | cons u us =>
      obtain ⟨ht, hts⟩ := List.forall_mem_cons.1 hts
      obtain ⟨hu, hus⟩ := List.forall_mem_cons.1 hus
      obtain ⟨first, others⟩ := Token.printed_append_inj ht hu h
      rw [List.map_cons, List.map_cons, first, ih hts hus others]

theorem toList_print (s : Scan) : s.print.toList = s.tokens.flatMap Token.printed := by
  rw [Scan.print, String.toList_join, List.flatMap_map]
  rfl

theorem isRead_of_mem_tokens {source : String} {t : Token} (h : t ∈ (scan source).tokens) :
    t.IsRead :=
  ⟨(lexeme_of_mem_tokens h).1, (lexeme_of_mem_tokens h).2⟩

theorem print_eq_of_contents {s s' : Scan}
    (h : s.tokens.map Token.content = s'.tokens.map Token.content) : s.print = s'.print := by
  let line : Kind × String × Option Literal → String := fun (kind, lexeme, literal) =>
    (Token.mk kind lexeme literal 0 ⟨0, 0⟩).display ++ "\n"
  have printed : ∀ s : Scan, s.print = String.join ((s.tokens.map Token.content).map line) := by
    intro s
    rw [Scan.print, List.map_map]
    rfl
  rw [printed, printed, h]

/-- **Two scans print the same if and only if they have the same kinds, lexemes and literals** in
the same order. -/
theorem scan_print_eq_iff (a b : String) : (scan a).print = (scan b).print ↔
    (scan a).tokens.map Token.content = (scan b).tokens.map Token.content := by
  constructor
  · intro h
    rw [← String.toList_inj, toList_print, toList_print] at h
    exact printed_inj (fun t => isRead_of_mem_tokens) (fun u => isRead_of_mem_tokens) h
  · exact print_eq_of_contents

/-- The text of a string may look like the end of the output, and is printed twice. -/
example : (scan "\"x\nEOF \"").print = "STRING \"x\nEOF \" x\nEOF \nEOF \n" := by decide +kernel

end LoxLexer
