import LoxLexer.Log.Level
import LoxLexer.Text.Class
import LoxLexer.Text.Lines

/-!
# Log filters

A log record has a target, the name of the part that wrote it, and fields, which have names. A
filter is a list of directives. Of those that concern a record the most specific one decides whether
it is logged, and a record that none concerns is not. A setting for the filter is a text, directives
with commas between them.

A directive limits the records of some targets: it has a scope, the text with which these begin, and
maybe a condition on the records, that they were written within a span of some name, or that they
have some field. It is written as

* a limit alone, for all targets, or a scope alone, which admits everything;
* a scope, maybe a condition between square brackets, and maybe an equals sign and a limit.

A condition is the name of a span, or a field between curly brackets, or both.
-/

namespace LoxLexer

/-- What is asked of a field. -/
structure FieldTest where
  /-- The name of the field. -/
  name : String
  /-- The value of the field, if one is asked for. -/
  value? : Option String
  deriving DecidableEq, Repr

/-- What is asked of a record besides its target. -/
structure Condition where
  /-- The span within which the record was written, if one is asked for. -/
  span? : Option String
  /-- The field that the record has, if one is asked for. -/
  field? : Option FieldTest
  deriving DecidableEq, Repr

/-- A limit on the records of some targets. -/
structure Directive where
  /-- The text with which these targets begin. -/
  scope : String
  /-- What else is asked of the records. -/
  condition : Condition
  /-- Which levels of these records are logged. -/
  limit : Limit
  deriving DecidableEq, Repr

/-! ### What a directive says -/

/-- Whether a record with these fields meets a condition. No record is written within a span here,
and values are only asked of spans, so a condition with either is never met. -/
def Condition.meets (c : Condition) (fields : List String) : Bool :=
  c.span?.isNone &&
    match c.field? with
    | none => true
    | some test => test.value?.isNone && fields.contains test.name

/-- The condition that every record meets. -/
def Condition.trivial : Condition := ⟨none, none⟩

@[simp] theorem Condition.meets_trivial (fields : List String) :
    Condition.trivial.meets fields = true := rfl

/-- The name of the field that is asked for; without one it is empty. -/
def Condition.fieldName (c : Condition) : String := (c.field?.map FieldTest.name).getD ""

namespace Directive

/-- A limit on all records. -/
def everywhere (limit : Limit) : Directive := ⟨"", .trivial, limit⟩

/-- Whether a directive concerns the records of this target with these fields. -/
def concerns (d : Directive) (target : String) (fields : List String) : Bool :=
  d.scope.toList.isPrefixOf target.toList && d.condition.meets fields

@[simp] theorem concerns_everywhere (limit : Limit) (target : String) (fields : List String) :
    (everywhere limit).concerns target fields = true := by
  simp [everywhere, concerns]

/-- Whether a directive gives way to a later one that concerns the same record: the longer scope
decides, then having a field and the order of field names, and the later one if all are equal. -/
def givesWay (d later : Directive) : Bool :=
  if d.scope.length = later.scope.length then d.condition.fieldName ≤ later.condition.fieldName
  else d.scope.length < later.scope.length

/-- The one of two directives that the other gives way to. -/
def orLater (d later : Directive) : Directive := if d.givesWay later then later else d

end Directive

/-! ### How a directive is written -/

/-- Reads the name of a field, or a name, an equals sign and a value. -/
def FieldTest.ofText (text : List Char) : FieldTest :=
  let name := text.takeWhile (· ≠ '=')
  match text.dropWhile (· ≠ '=') with
  | [] => ⟨String.ofList name, none⟩
  | _ :: value => ⟨String.ofList name, some (String.ofList value)⟩

/-- Reads a field up to the brackets that close it and the condition, and gives the rest. -/
def FieldTest.read? (text : List Char) : Option (FieldTest × List Char) :=
  let field := text.takeWhile (· ≠ '\x7d')
  match text.dropWhile (· ≠ '\x7d') with
  | _ :: ']' :: rest => if field = [] then none else some (ofText field, rest)
  | _ => none

/-- Reads a condition up to the bracket that closes it, and gives the rest. -/
def Condition.read? (text : List Char) : Option (Condition × List Char) :=
  let name := text.takeWhile fun c => c ≠ ']' ∧ c ≠ '\x7b'
  match text.dropWhile fun c => c ≠ ']' ∧ c ≠ '\x7b' with
  | [] => none
  | ']' :: rest => some (⟨some (String.ofList name), none⟩, rest)
  | _ :: more =>
    let span? := if name = [] then none else some (String.ofList name)
    (FieldTest.read? more).map fun (field, rest) => (⟨span?, some field⟩, rest)

namespace Directive

/-- A character with which a directive may begin. -/
def isOpening (c : Char) : Bool :=
  c = '[' || c = '-' || c = ':' || c = '_' || isAlphanumeric c

/-- Whether a text begins as a directive does, maybe after spacing. -/
def begins (text : List Char) : Bool := (text.dropWhile isSpacing).head?.any isOpening

/-- The directive of a single word, which is a limit or a scope. -/
def ofWord (word : List Char) : Directive :=
  match Limit.read? word with
  | some limit => everywhere limit
  | none => ⟨String.ofList word, .trivial, .everything⟩

/-- Reads what follows scope and condition: an equals sign and a limit, or else only spacing. -/
def readLimit? : List Char → Option Limit
  | ['='] => some .everything
  | '=' :: word => Limit.read? word
  | rest => if rest.all isSpacing then some .everything else none

/-- Reads a directive. Spacing before it belongs to its scope, and then no limit may follow. -/
def read? (text : List Char) : Option Directive :=
  let scope := text.takeWhile fun c => c ≠ '=' ∧ c ≠ '['
  if ¬ begins text then none
  else match text.dropWhile fun c => c ≠ '=' ∧ c ≠ '[' with
    | [] => some (ofWord text)
    | '[' :: more => do
      let (condition, ending) ← Condition.read? more
      if text.head?.any isSpacing ∧ ending.head? = some '=' then none
      else return ⟨String.ofList scope, condition, ← readLimit? ending⟩
    | ending => do
      if text.head?.any isSpacing then none
      else return ⟨String.ofList scope, .trivial, ← readLimit? ending⟩

end Directive

/-! ### Filters -/

/-- What is logged. -/
structure Filter where
  /-- The directives, in the order given. -/
  directives : List Directive
  deriving DecidableEq, Repr

namespace Filter

/-- The same limit for all records. -/
def everywhere (limit : Limit) : Filter := ⟨[.everywhere limit]⟩

/-- What is logged when nothing else is asked for. -/
def standard : Filter := everywhere (.upTo .warn)

/-- The most specific of some directives, of equal ones the last. -/
def mostSpecific? : List Directive → Option Directive
  | [] => none
  | first :: others => some (others.foldl Directive.orLater first)

@[simp] theorem mostSpecific?_singleton (d : Directive) : mostSpecific? [d] = some d := rfl

/-- Whether records of this target, with these fields and of this level, are logged. -/
def admits (f : Filter) (target : String) (fields : List String) (level : Level) : Bool :=
  (mostSpecific? (f.directives.filter (·.concerns target fields))).any (·.limit.admits level)

@[simp] theorem admits_everywhere (limit : Limit) (target : String) (fields : List String)
    (level : Level) : (everywhere limit).admits target fields level = limit.admits level := by
  simp [everywhere, admits]
  rfl

/-- Reads a setting, if all its directives can be read; without any of them only errors are
logged. -/
def read? (setting : String) : Option Filter := do
  let texts := (segments ',' setting.toList).filter (· ≠ [])
  match ← texts.mapM Directive.read? with
  | [] => return everywhere (.upTo .error)
  | directives => return ⟨directives⟩

/-- The filter for an optional setting; one that cannot be read counts as none. -/
def ofSetting (setting : Option String) : Filter := (setting.bind read?).getD standard

end Filter

end LoxLexer
