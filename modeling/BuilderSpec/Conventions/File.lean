/-
Conventions kept in a file: loading them, and falling back on the standard ones where there is
no file.
-/
import BuilderSpec.Conventions.Document
import BuilderSpec.Event

namespace BuilderSpec.Conventions

/-- What is found at a path. -/
inductive PathState where
  | missing
  | directory
  | file (content : ByteArray)

/-- Why a path gives no text. -/
inductive ReadFailure where
  | notFound
  | isDirectory
  | notUtf8
deriving DecidableEq

def ReadFailure.text : ReadFailure → String
  | notFound => "No such file or directory (os error 2)"
  | isDirectory => "Is a directory (os error 21)"
  | notUtf8 => "stream did not contain valid UTF-8"

/-- The text found at a path. -/
def PathState.read : PathState → Except ReadFailure String
  | missing => .error .notFound
  | directory => .error .isDirectory
  | file content =>
    match String.fromUTF8? content with
    | some text => .ok text
    | none => .error .notUtf8

/-- Why conventions cannot be loaded. -/
inductive LoadError where
  | unreadable (failure : ReadFailure)
  | document (e : DocumentError)
deriving DecidableEq

/-- What is wrong with the file at `path`, if it could not be read. -/
def ReadFailure.message (path : String) (failure : ReadFailure) : String :=
  "failed to read conventions from " ++ path ++ ": " ++ failure.text

/-- Loads conventions; those that are found are reported. -/
def load (path : PathState) : Reported (Except LoadError Conventions) :=
  match path.read with
  | .error failure => .silent (.error (.unreadable failure))
  | .ok text =>
    match ofToml text with
    | .error e => .silent (.error (.document e))
    | .ok c => ⟨.ok c, [.conventionsLoaded c]⟩

/-- What is recorded of an event on the way to the conventions at `path`: its level, its message, and the
path before what it carries itself. -/
def recordAt (path : String) (e : Event) : String × String × List (String × String) :=
  (e.level, e.message, ("path", path) :: e.fields)

/-- Loads conventions, or gives the standard ones if nothing is found at the path. -/
def loadOrStandard (path : PathState) : Reported (Except LoadError Conventions) :=
  match path with
  | .missing => .silent (.ok standard)
  | found => load found

end BuilderSpec.Conventions
