import Haml.Data.Basic
import Haml.FileSystem
import Haml.Glob.Name

/-!
# Searching for files

A search pattern is a relative path whose components may be name patterns; a component of two stars
stands for a directory and all directories below it. A slash at the end asks for directories.
-/

namespace Haml.Glob

/-- A component of a search pattern. -/
inductive Step where
  /-- Stay where the search is. -/
  | stay
  /-- Go to a directory itself and to each directory below it. -/
  | below
  /-- Go to the entry of a name. -/
  | name (name : Text)
  /-- Go to the entries whose names fit. -/
  | names (pieces : List Piece)
deriving DecidableEq, Repr

/-- Why a value is no search pattern. -/
inductive Error where
  /-- A value that counts as absent, shown as it is written. -/
  | absent (shown : Text)
  /-- A value that is not a text and cannot be read as one. -/
  | notText
  /-- A mapping. -/
  | notIndexable
  /-- A list with a slash among its items, or a pattern that stays at its start. -/
  | notSearchable
  /-- A pattern that is the start itself. -/
  | noComponent
  /-- A pattern that does not start from a directory. -/
  | anchored
  /-- Two stars next to other characters. -/
  | starsInName
  /-- The search itself fails. -/
  | failed (error : FileError)
deriving DecidableEq, Repr

/-- The text of an error. -/
def Error.message : Error → Text
  | absent shown => "Unacceptable pattern: ".toList ++ shown
  | notText => "A search pattern must be a text.".toList
  | notIndexable => "A mapping is no search pattern.".toList
  | notSearchable => "The pattern cannot be searched for.".toList
  | noComponent => "The pattern has no component.".toList
  | anchored => "Non-relative patterns are unsupported".toList
  | starsInName => "Invalid pattern: '**' can only be an entire path component".toList
  | failed error => error.message

/-- Whether a text has two stars next to each other. -/
def hasTwoStars : Text → Bool
  | '*' :: '*' :: _ => true
  | _ :: rest => hasTwoStars rest
  | [] => false

/-- The step of one component. -/
def Step.ofText (part : Text) : Except Error Step :=
  if part == "**".toList then .ok .below
  else if hasTwoStars part then .error .starsInName
  else if isPattern part then .ok (.names (pieces part))
  else .ok (.name part)

/-- The steps of a pattern. -/
def steps (pattern : Text) : Except Error (List Step) := do
  let path := Path.ofText pattern
  if path.anchor != .relative then throw .anchored
  let last := if FileSystem.endsInSlash pattern then [Step.stay] else []
  if path.parts.isEmpty then throw (if last.isEmpty then .noComponent else .notSearchable)
  return (← path.parts.mapM Step.ofText) ++ last

/-- The steps of a value. -/
def stepsOfData (pattern : Data) : Except Error (List Step) :=
  if !pattern.isPresent then .error (.absent pattern.repr)
  else
    match pattern with
    | .text t => steps t
    | .mapping _ => .error .notIndexable
    | .list items =>
      let isSlash : Data → Bool
        | .text ['/'] => true
        | _ => false
      .error (if items.any isSlash then .notSearchable else .notText)
    | _ => .error .notText

/-- Whether a path leads to an entry, or to a directory if only those count. A name that is too long
makes the search fail; any other path that leads nowhere does not. -/
def leads (files : FileSystem) (directoryOnly : Bool) (path : Path) : Except Error Bool :=
  match files.find path with
  | .ok (.directory _) => .ok true
  | .ok (.file _ _) => .ok (!directoryOnly)
  | .error .tooLong => .error (.failed ⟨.tooLong, path.text⟩)
  | _ => .ok false

/-- The paths that steps lead to from a directory. All but the last step lead to directories. -/
def follow (files : FileSystem) : List Step → Path → Except Error (List Path)
  | [], path => .ok [path]
  | .stay :: _, path => .ok [path]
  | .below :: rest, path => do
    return (← (files.directoriesFrom path).mapM (follow files rest)).flatten
  | .name name :: rest, path => do
    let next := path.child name
    if ← leads files (!rest.isEmpty) next then follow files rest next else return []
  | .names pieces :: rest, path => do
    let found := ((files.namesIn path).filter (fits pieces)).map path.child
    let entered := found.filter fun next => rest.isEmpty || files.isDirectory next
    return (← entered.mapM (follow files rest)).flatten

/-- The paths below a directory that a pattern stands for. -/
def search (files : FileSystem) (root : Path) (pattern : Data) : Except Error (List Path) := do
  let steps ← stepsOfData pattern
  if files.isDirectory root then follow files steps root else return []

/-- The paths that one of several patterns stands for, each once. -/
def searchAll (files : FileSystem) (root : Path) (patterns : List Data) :
    Except Error (List Path) := do
  return (← patterns.mapM (search files root)).flatten.eraseDups

end Haml.Glob
