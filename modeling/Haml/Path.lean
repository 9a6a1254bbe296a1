import Haml.Text.Quoted

/-!
# Paths

A path is an anchor and a list of components. Reading one drops empty components and single dots, so
that no path has them; two slashes at the start are kept apart from one, as more than two are not.
Double dots stay: they mean something only where there is a file system.
-/

namespace Haml

/-- Where a path starts. -/
inductive Anchor where
  | relative
  | slash
  | doubleSlash
deriving DecidableEq, Repr

/-- The anchor as it is written. -/
def Anchor.text : Anchor → Text
  | relative => []
  | slash => ['/']
  | doubleSlash => ['/', '/']

/-- Whether a text can be a component of a path: it is neither empty nor a single dot, and there is
no slash in it. -/
def Path.isComponent (part : Text) : Bool := !part.isEmpty && part != ['.'] && !part.contains '/'

/-- A path without empty components and single dots. -/
@[ext]
structure Path where
  /-- Where it starts. -/
  anchor : Anchor
  /-- Its components. -/
  parts : List Text
  /-- None of them is empty, a single dot or has a slash in it. -/
  clean : ∀ part ∈ parts, Path.isComponent part
deriving DecidableEq, Repr

namespace Path

/-- The path of the working directory. -/
def here : Path := ⟨.relative, [], by simp⟩

/-- The anchor of a written path. -/
def anchorOf (t : Text) : Anchor :=
  match (t.takeWhile (· == '/')).length with
  | 0 => .relative
  | 2 => .doubleSlash
  | _ => .slash

/-- The path that a text writes. -/
def ofText (t : Text) : Path :=
  ⟨anchorOf t, (List.splitOn '/' t).filter isComponent, fun _ h => (List.mem_filter.mp h).2⟩

/-- Anchor and components, with nothing for the empty path. -/
def plainText (path : Path) : Text := path.anchor.text ++ List.intercalate ['/'] path.parts

/-- The path as it is shown: a dot for the empty path. -/
def text (path : Path) : Text :=
  match path.plainText with
  | [] => ['.']
  | t => t

/-- The path from `path` on; an anchored path starts anew. -/
def join (path next : Path) : Path :=
  if next.anchor == .relative then
    ⟨path.anchor, path.parts ++ next.parts, fun part h =>
      (List.mem_append.mp h).elim (path.clean part) (next.clean part)⟩
  else next

/-- The path of an entry of a directory. -/
def child (path : Path) (name : Text) : Path := path.join (ofText name)

/-- The last component. -/
def name (path : Path) : Text := path.parts.getLast?.getD []

/-- The path without its last component. -/
def parent (path : Path) : Path :=
  ⟨path.anchor, path.parts.dropLast, fun part h => path.clean part (List.dropLast_subset _ h)⟩

/-- The position of the dot that starts a name's suffix: the last one, unless it starts or ends the
name. -/
def suffixStart? (name : Text) : Option Nat :=
  let after := (name.reverse.takeWhile (· != '.')).length
  let i := name.length - after - 1
  if name.contains '.' && 0 < i && 0 < after then some i else none

/-- A name without its suffix. -/
def stem (name : Text) : Text :=
  match suffixStart? name with
  | some i => name.take i
  | none => name

/-- Why a path cannot be named. -/
inductive Error where
  /-- The path has no last component. -/
  | emptyName (path : Path)
  /-- The path is not inside the base directory. -/
  | outside (path base : Path)
deriving DecidableEq, Repr

/-- The text of an error. -/
def Error.message : Error → Text
  | .emptyName path =>
    "PurePosixPath(".toList ++ Text.quote path.text ++ ") has an empty name".toList
  | .outside path base =>
    Text.quote path.text ++ " is not in the subpath of ".toList ++ Text.quote base.plainText ++
      " OR one path is relative and the other is absolute.".toList

/-- The path from a base directory on. -/
def relativeTo (path base : Path) : Except Error Path :=
  if path.anchor == base.anchor && base.parts.isPrefixOf path.parts then
    .ok ⟨.relative, path.parts.drop base.parts.length, fun part h =>
      path.clean part (List.mem_of_mem_drop h)⟩
  else .error (.outside path base)

/-- The components with the suffix of the last one dropped. What is left of that one may be a single
dot. -/
def bareParts (path : Path) : Except Error (List Text) :=
  match path.parts.getLast? with
  | none => .error (.emptyName path)
  | some name => .ok (path.parts.dropLast ++ [stem name])

end Path

end Haml
