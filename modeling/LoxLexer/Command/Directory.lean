import LoxLexer.Text.Lines

/-!
# Reading a script

What the command reads, it reads at a path: there are bytes, or there is a cause why not. A script
is what these bytes are the encoding of. All that a run can read is given as `Files`; a directory,
in which a path is walked name by name, is one way to have them.
-/

namespace LoxLexer

/-- Why the script at a path cannot be read. -/
inductive ReadError where
  /-- Nothing is there. -/
  | missing
  /-- The path leads through a file. -/
  | notDirectory
  /-- The path leads to a directory. -/
  | isDirectory
  /-- The path, or a name in it, is too long. -/
  | nameTooLong
  /-- The bytes of the file are not text. -/
  | notText
  /-- Some other cause, in words, which make up a single line. -/
  | other (description : String) (singleLine : '\n' ∉ description.toList)
  deriving DecidableEq, Repr

/-- The cause in words. -/
def ReadError.message : ReadError → String
  | missing => "No such file or directory (os error 2)"
  | notDirectory => "Not a directory (os error 20)"
  | isDirectory => "Is a directory (os error 21)"
  | nameTooLong => "File name too long (os error 36)"
  | notText => "stream did not contain valid UTF-8"
  | other description _ => description

/-- Reads the bytes of a file as text. -/
def readText (bytes : ByteArray) : Except ReadError String :=
  match String.fromUTF8? bytes with
  | some text => .ok text
  | none => .error .notText

/-- All that a run can read, at relative, absolute and upward paths alike. -/
structure Files where
  /-- The bytes at a path. -/
  bytes : String → Except ReadError ByteArray

/-- The text of the script at a path. -/
def Files.read (files : Files) (path : String) : Except ReadError String :=
  files.bytes path >>= readText

/-! ### Directories -/

/-- A directory without directories in it. -/
structure Directory where
  /-- The files, by name. -/
  files : List (String × ByteArray)

namespace Directory

/-- Where a path has led so far. -/
inductive Spot where
  /-- In the directory. -/
  | inside
  /-- In a directory above it. -/
  | above
  /-- At a file with these bytes. -/
  | file (bytes : ByteArray)

/-- The names between the slashes of a path, empty ones included. -/
def names (path : String) : List String := (segments '/' path.toList).map String.ofList

/-- Follows one name of a path. Outside of the directory nothing is known but directories. -/
def follow (dir : Directory) (spot : Spot) (name : String) : Except ReadError Spot :=
  match spot with
  | .file _ => .error .notDirectory
  | .above =>
    if name = "" ∨ name = "." ∨ name = ".." then .ok .above
    else if 255 < name.utf8ByteSize then .error .nameTooLong
    else .error .missing
  | .inside =>
    if name = "" ∨ name = "." then .ok .inside
    else if name = ".." then .ok .above
    else if 255 < name.utf8ByteSize then .error .nameTooLong
    else match dir.files.lookup name with
      | some bytes => .ok (.file bytes)
      | none => .error .missing

/-- Where a path begins. -/
def origin (path : String) : Spot := if path.toList.head? = some '/' then .above else .inside

/-- The bytes at a path that is walked from the directory on. -/
def walk (dir : Directory) (path : String) : Except ReadError ByteArray :=
  if path = "" then .error .missing
  else if 4096 ≤ path.utf8ByteSize then .error .nameTooLong
  else do
    match ← (names path).foldlM dir.follow (origin path) with
    | .file bytes => return bytes
    | _ => .error .isDirectory

/-- What a run in the directory can read, if no script lies outside of it. -/
def reach (dir : Directory) : Files := ⟨dir.walk⟩

instance : Coe Directory Files := ⟨reach⟩

end Directory

end LoxLexer
