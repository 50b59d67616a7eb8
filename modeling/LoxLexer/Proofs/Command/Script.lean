import LoxLexer.Proofs.Command.Reporters
import LoxLexer.Proofs.Scan.Findings

/-!
# Running a script

A run that is asked for one script, where there is a text at its path, has the outcome of the scan
of that text: **`run_script`**. What is written then is written about one event after another
(`notes_scanScript`): whatever the filter, the part of the events that it admits is logged
(`events_scanScript`), and all errors are reported (`reports_scanScript`).
-/

namespace LoxLexer

/-! ### Reading -/

/-- There are these bytes at a path. -/
def Files.Holds (files : Files) (path : String) (bytes : ByteArray) : Prop :=
  files.bytes path = .ok bytes

theorem Files.Holds.read {files : Files} {path : String} {bytes : ByteArray}
    (h : files.Holds path bytes) : files.read path = readText bytes := by
  rw [Files.read, h]
  rfl

theorem readText_toUTF8 (text : String) : readText text.toUTF8 = .ok text := by
  have valid : String.fromUTF8? text.toUTF8 = some text := dif_pos text.isValidUTF8
  rw [readText, valid]

/-- In a directory the path leads to a file with these bytes. -/
structure Directory.LeadsTo (dir : Directory) (path : String) (bytes : ByteArray) : Prop where
  /-- There is a path. -/
  nonempty : path ≠ ""
  /-- The path is not too long. -/
  short : path.utf8ByteSize < 4096
  /-- Name by name it leads to the file. -/
  leads : (names path).foldlM dir.follow (origin path) = .ok (.file bytes)

/-- What can be read in a directory are the files that paths lead to. -/
theorem Directory.holds_iff {dir : Directory} {path : String} {bytes : ByteArray} :
    dir.reach.Holds path bytes ↔ dir.LeadsTo path bytes := by
  change dir.walk path = .ok bytes ↔ _
  rw [walk]
  constructor
  · intro h
    split_ifs at h with empty long
    cases leads : (names path).foldlM dir.follow (origin path) with
    | error e =>
      rw [leads] at h
      cases h
    | ok spot =>
      rw [leads] at h
      cases spot with
      | inside | above => cases h
      | file found =>
        obtain rfl := Except.ok.inj h
        exact ⟨empty, Nat.not_le.1 long, leads⟩
  · rintro ⟨nonempty, short, leads⟩
    rw [if_neg nonempty, if_neg (Nat.not_le.2 short), leads]
    rfl

/-! ### The run -/

/-- The options of a run on one script, with the log of the scan or without. -/
def scriptOptions (verbose : Bool) (path : String) : Options := ⟨false, verbose, [path]⟩

/-- The words ask for such a run. -/
def AsksFor (words : List String) (verbose : Bool) (path : String) : Prop :=
  Request.read words = .ok (.run (scriptOptions verbose path))

/-- **A run on a script that can be read has the outcome of the scan of its text.** -/
theorem run_script {files : Files} {words : List String} {verbose : Bool} {path source : String}
    (asked : AsksFor words verbose path) (held : files.Holds path source.toUTF8)
    (setting : Option String) (drawing : Drawing) :
    run setting files words drawing =
      some (scanScript drawing ((scriptOptions verbose path).filter setting) path source) := by
  have planned : plan setting words =
      .script ((scriptOptions verbose path).filter setting) path := by
    rw [plan, asked]
    rfl
  have read : files.read path = .ok source := by rw [held.read, readText_toUTF8]
  simp only [run, planned, read, runScript]

/-! ### What is written -/

/-- The token that an event tells of. -/
def Event.token? : Event → Option Token
  | token found => some found
  | _ => none

theorem filterMap_token?_ofFinding (fs : List Finding) :
    (fs.map Event.ofFinding).filterMap Event.token? = fs.filterMap Finding.token? := by
  rw [List.filterMap_map]
  exact List.filterMap_congr fun f _ => by cases f <;> rfl

theorem filterMap_error?_ofFinding (fs : List Finding) :
    (fs.map Event.ofFinding).filterMap Event.error? = fs.filterMap Finding.error? := by
  rw [List.filterMap_map]
  exact List.filterMap_congr fun f _ => by cases f <;> rfl

/-- All that happens during the scan of a script, in order. -/
def scriptEvents (path source : String) : List Event :=
  .opened path source.utf8ByteSize :: (scan source).findings.map Event.ofFinding ++
    [.finished (scan source).tokens.length (lastLine source)]

theorem filterMap_error?_scriptEvents (path source : String) :
    (scriptEvents path source).filterMap Event.error? = (scan source).errors := by
  rw [scriptEvents, List.filterMap_append, List.filterMap_cons, filterMap_error?_ofFinding]
  exact List.append_nil _

theorem Event.ofFinding_injective : Function.Injective Event.ofFinding := by
  intro f g h
  cases f <;> cases g <;> cases h <;> rfl

/-- What is found happens, and of tokens and errors nothing else does. -/
theorem ofFinding_mem_scriptEvents {path source : String} {f : Finding} :
    Event.ofFinding f ∈ scriptEvents path source ↔ f ∈ (scan source).findings := by
  rw [scriptEvents, List.cons_append, List.mem_cons, List.mem_append,
    List.mem_map_of_injective Event.ofFinding_injective]
  cases f <;> simp [Event.ofFinding]

theorem token_mem_scriptEvents {path source : String} {t : Token} :
    Event.token t ∈ scriptEvents path source ↔ t ∈ (scan source).tokens :=
  (ofFinding_mem_scriptEvents (f := .token t)).trans mem_filterMap_token?.symm

theorem error_mem_scriptEvents {path source : String} {d : ScanError} :
    Event.error d ∈ scriptEvents path source ↔ d ∈ (scan source).errors :=
  (ofFinding_mem_scriptEvents (f := .error d)).trans mem_filterMap_error?.symm

theorem Event.filterMap_event?_written (filter : Filter) {diagnostic : ScanError → Note}
    (drawn : ∀ d, (diagnostic d).event? = none) (e : Event) :
    (e.written filter diagnostic).filterMap Note.event? =
      (Option.guard (fun e => e.admittedBy filter) e).toList := by
  have logged : (Note.event e).event? = some e := rfl
  have reported (r : Report) : (Note.report r).event? = none := rfl
  cases admitted : e.admittedBy filter <;> cases found : e.error? <;>
    simp [written, notes, admitted, found, logged, drawn, reported, Option.guard]

/-- The drawing of an error in a script. -/
def Drawing.note (drawing : Drawing) (path source : String) (d : ScanError) : Note :=
  .diagnostic (drawing.draw d path source)

variable (drawing : Drawing) (filter : Filter) (path source : String)

/-- What is written about the scan of a script is what is written about each event. -/
theorem notes_scanScript : (scanScript drawing filter path source).notes =
    (scriptEvents path source).flatMap (Event.written filter (drawing.note path source)) := by
  have alone (e : Event) (h : e.error? = none) :
      e.written filter (drawing.note path source) = e.notes filter := by
    simp [Event.written, h]
  have found := ConsoleReporter.notes_foldl_take filter (((ConsoleReporter.new drawing).log filter
    (.opened path source.utf8ByteSize)).setSource path source) (scan source).findings
  change _ ++ (Event.finished _ _).notes filter = _
  rw [found, scriptEvents, List.flatMap_append, List.flatMap_cons, List.flatMap_map,
    List.flatMap_singleton, alone (.opened _ _) rfl, alone (.finished _ _) rfl]
  rfl

/-- **What is logged is the part of the whole record that the filter admits.** -/
theorem events_scanScript : (scanScript drawing filter path source).events =
    (scriptEvents path source).filter (·.admittedBy filter) := by
  rw [Outcome.events, notes_scanScript, List.filterMap_flatMap, ← List.filterMap_eq_filter,
    List.filterMap_eq_flatMap_toList]
  exact congrArg (List.flatMap · _)
    (funext (Event.filterMap_event?_written filter (fun _ => rfl)))

/-- The console reporter of a script agrees with a log that was empty. -/
theorem agrees_scanScript : ((((ConsoleReporter.new drawing).log filter
    (.opened path source.utf8ByteSize)).setSource path source).takeScan filter source).Agrees
      (ErrorLog.empty.addScan (scan source)) :=
  (((ConsoleReporter.Agrees.new drawing).log _).setSource path source).takeScan source

/-- All errors are reported, whatever is logged. -/
theorem reports_scanScript : (scanScript drawing filter path source).notes.filterMap Note.report? =
    (ErrorLog.empty.addScan (scan source)).reports :=
  (agrees_scanScript drawing filter path source).reports

/-- The exit status says whether there are any. -/
theorem exitStatus_scanScript : (scanScript drawing filter path source).exitStatus =
    if (ErrorLog.empty.addScan (scan source)).hadError then 65 else 0 :=
  congrArg (fun failed : Bool => if failed then 65 else 0)
    (agrees_scanScript drawing filter path source).hadError

end LoxLexer
