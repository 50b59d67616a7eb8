import LoxLexer.Proofs.Command.Script
import LoxLexer.Proofs.Log.Settings
import LoxLexer.Proofs.Scan.Partition

/-!
# The log of a run

What happens during the scan of a script is told as it is found, tokens and errors together in the
order of the source. **`run_logs`** says so of every script, and that a run logs the events whose
target and level its setting admits and no others, so that a run at trace level logs them all.
-/

namespace LoxLexer

/-! ### The record of a scan -/

/-- The part of the source that an event tells of. -/
def Event.span? : Event → Option Span
  | token found => some found.span
  | error found => some found.span
  | _ => none

/-- The events tell what a scan found. -/
structure Scan.ToldBy (s : Scan) (told : List Event) : Prop where
  /-- The tokens are told in their order. -/
  tokens : told.filterMap Event.token? = s.tokens
  /-- So are the errors. -/
  errors : told.filterMap Event.error? = s.errors
  /-- Each event tells of a token, with its text and position, or of an error, with its line and
  message. -/
  messages : ∀ e ∈ told,
    (∃ t, e = .token t ∧
      e.message = "token token=" ++ t.display ++ " position=" ++ t.position) ∨
    ∃ d, e = .error d ∧
      e.message = "lexical error line=" ++ toString d.line ++ " error=" ++ d.message
  /-- What is told of later starts later in the source. -/
  ordered : (told.filterMap Event.span?).Pairwise fun a b => a.start < b.start

/-- The events tell the scan of a script: it is opened, with the number of its bytes, then what is
found is told, the end of the text last, and the scan is finished, with the number of its tokens and
the line of the last one. -/
def TellsScript (path source : String) (events : List Event) : Prop :=
  ∃ told last, events = .opened path source.toUTF8.size ::
      (told ++ [.token last, .finished (scan source).tokens.length last.line]) ∧
    last.kind = .endOfText ∧ (scan source).ToldBy (told ++ [.token last])

theorem filterMap_span?_ofFinding (fs : List Finding) :
    (fs.map Event.ofFinding).filterMap Event.span? = fs.map Finding.span := by
  rw [List.filterMap_map, ← List.filterMap_eq_map]
  exact List.filterMap_congr fun f _ => by cases f <;> rfl

/-- All findings start one after the other, the end of the text last. -/
theorem pairwise_findings (source : String) :
    (scan source).findings.Pairwise fun f g => f.span.start < g.span.start := by
  rw [scan, findingsFrom_eq, List.pairwise_append]
  refine ⟨?_, List.pairwise_singleton _ _, fun f hf g hg => ?_⟩
  · refine (pairwise_foundFrom _ _).imp_of_mem fun hf _ behind => ?_
    exact Nat.lt_of_lt_of_le (span_bounds hf).2.1 behind
  · have bounds := span_bounds hf
    rw [List.mem_singleton.1 hg]
    exact Nat.lt_of_lt_of_le bounds.2.1 bounds.2.2

/-- The events of its findings tell a scan. -/
theorem scan_toldBy (source : String) :
    (scan source).ToldBy ((scan source).findings.map Event.ofFinding) := by
  constructor
  case tokens => exact filterMap_token?_ofFinding _
  case errors => exact filterMap_error?_ofFinding _
  case messages =>
    intro e he
    obtain ⟨f, -, rfl⟩ := List.mem_map.1 he
    cases f with
    | token t => exact .inl ⟨t, rfl, rfl⟩
    | error d => exact .inr ⟨d, rfl, rfl⟩
  case ordered =>
    rw [filterMap_span?_ofFinding, List.pairwise_map]
    exact pairwise_findings source

/-- All that happens during the scan of a script tells it. -/
theorem scriptEvents_tell (path source : String) :
    TellsScript path source (scriptEvents path source) := by
  have found : (scan source).findings.map Event.ofFinding =
      (foundFrom Place.start source.toList).map Event.ofFinding ++
        [.token (Token.endOfText (Place.start.after source.toList))] := by
    rw [scan, findingsFrom_eq, List.map_append]
    rfl
  refine ⟨_, Token.endOfText (Place.start.after source.toList), ?_, rfl, found ▸ scan_toldBy source⟩
  rw [scriptEvents, found, List.cons_append, List.append_assoc]
  rfl

/-! ### What is admitted of it -/

/-- What a run logs: the targets and levels that it admits, by its option and its log setting. -/
inductive Logs : Bool → Option String → (String → Level → Bool) → Prop where
  /-- With `--verbose` all but single tokens is logged, whatever the setting. -/
  | verbose (setting : Option String) :
    Logs true setting fun _ level => (Limit.upTo .debug).admits level
  /-- Without it the setting decides. -/
  | plain {setting : Option String} {rule : String → Level → Bool} (h : PlainSetting setting rule) :
    Logs false setting rule

theorem Logs.admittedBy {verbose : Bool} {setting : Option String} {rule : String → Level → Bool}
    (h : Logs verbose setting rule) (path : String) (e : Event) :
    e.admittedBy ((scriptOptions verbose path).filter setting) = rule e.target e.level := by
  cases h with
  | verbose => exact Filter.admits_everywhere _ _ _ _
  | plain h => exact admittedBy_of_plain h e

/-- **A run on a script logs, of all that happens during its scan and in the order of the source,
the part that its setting admits, which at trace level is the whole.** -/
theorem run_logs {files : Files} {path source : String} (held : files.Holds path source.toUTF8)
    (drawing : Drawing) :
    ∃ record, TellsScript path source record ∧
      (∀ words verbose setting rule, AsksFor words verbose path → Logs verbose setting rule →
        ∃ o, run setting files words drawing = some o ∧
          o.events = record.filter fun e => rule e.target e.level) ∧
      ∀ words word, AsksFor words false path → Limit.everything.SpelledAs word →
        ∃ o, run (some word) files words drawing = some o ∧ o.events = record := by
  have admitted : ∀ words verbose setting rule, AsksFor words verbose path →
      Logs verbose setting rule → ∃ o, run setting files words drawing = some o ∧
        o.events = (scriptEvents path source).filter fun e => rule e.target e.level := by
    intro words verbose setting rule asked logs
    refine ⟨_, run_script asked held setting drawing, ?_⟩
    rw [events_scanScript]
    exact List.filter_congr fun e _ => logs.admittedBy path e
  refine ⟨scriptEvents path source, scriptEvents_tell path source, admitted, ?_⟩
  intro words word asked spelled
  obtain ⟨o, ran, events⟩ := admitted words false (some word) _ asked (.plain (.level spelled))
  refine ⟨o, ran, events.trans (List.filter_eq_self.2 fun e _ => ?_)⟩
  exact Limit.admits_everything e.level

/-- A script with a token and an error, run with a limit for the scanner alone. -/
theorem run_logs_scanner :
    ∃ record, TellsScript "a.lox" "1 @" record ∧
      ∃ o, run (some ("lox_scan" ++ "=" ++ "Debug")) (Directory.mk [("a.lox", "1 @".toUTF8)])
          ["a.lox"] .outline = some o ∧
        o.events = record.filter fun e =>
          "lox_scan".toList.isPrefixOf e.target.toList && (Limit.upTo .debug).admits e.level := by
  have held : (Directory.mk [("a.lox", "1 @".toUTF8)]).reach.Holds "a.lox" "1 @".toUTF8 :=
    Directory.holds_iff.2 ⟨by decide, by decide, rfl⟩
  have debug : (Limit.upTo .debug).SpelledAs "Debug" := by decide
  have plain : ∀ c ∈ "lox_scan".toList, c ≠ ',' ∧ c ≠ '=' ∧ c ≠ '[' := by simp
  obtain ⟨record, tells, logged, -⟩ := run_logs held .outline
  exact ⟨record, tells, logged ["a.lox"] false _ _ rfl (.plain (.scope debug (by decide) plain))⟩

end LoxLexer
