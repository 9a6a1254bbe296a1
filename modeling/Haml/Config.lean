import Haml.Path
import Haml.Settings

/-!
# Project configuration

Which templates a project compiles into which files, which files it watches, and with which options.
Relative paths start from the directory of the configuration file.
-/

namespace Haml

/-- A template and the file that its module is written to. -/
structure WritePair where
  /-- The template. -/
  src : Path
  /-- The module file. -/
  dst : Path
deriving DecidableEq, Repr

/-- A project. -/
structure Config where
  /-- The options of all its templates. -/
  options : Options
  /-- The directory that template names start from. -/
  base : Option Path
  /-- The templates to compile, in order. -/
  write : List WritePair
  /-- The patterns of further files to watch. -/
  watch : List Data
  /-- The directory of the configuration. -/
  root : Path

namespace Config

/-- Why a configuration is refused. -/
inductive Error where
  | invalid (error : ConfigError)
  /-- A value of a type that has no reading here. -/
  | illTyped
deriving DecidableEq, Repr

/-- The directory that template names start from: the base, or else the root. -/
def nameBase (config : Config) : Path := config.base.getD config.root

/-- The path that a value writes, from a directory on. -/
def pathFrom (root : Path) : Data → Except Error Path
  | .text t => .ok (root.join (Path.ofText t))
  | _ => .error .illTyped

/-- The pair of one entry. -/
def writePair (root : Path) (entry : Data) : Except Error WritePair :=
  match entry with
  | .mapping entries =>
    match Data.get? entries "src".toList, Data.get? entries "dst".toList with
    | some src, some dst => do return ⟨← pathFrom root src, ← pathFrom root dst⟩
    | _, _ => .error (.invalid .incompleteEntry)
  | _ => .error (.invalid .incompleteEntry)

/-- The values that one can go through: the items of a list, the characters of a text, the keys of a
mapping. A value that counts as absent has none. -/
def iterate (data : Data) : Except Error (List Data) :=
  if !data.isPresent then .ok []
  else
    match data with
    | .list items => .ok items
    | .text t => .ok (t.map fun c => .text [c])
    | .mapping entries => .ok (entries.map fun entry => .text entry.1)
    | _ => .error .illTyped

/-- The patterns to watch: one text stands for a list of one. -/
def watchPatterns (data : Data) : Except Error (List Data) :=
  match data with
  | .text (c :: rest) => .ok [.text (c :: rest)]
  | _ => iterate data

/-- The value of a setting; nothing if it is not given. -/
def setting (data : Data) (key : String) : Data :=
  match data with
  | .mapping entries => (Data.get? entries key.toList).getD .null
  | _ => .null

/-- The pairs that a value gives. -/
def pairsFrom (root : Path) (value : Data) : Except Error (List WritePair) :=
  iterate value >>= fun items => items.mapM (writePair root)

/-- The base directory that a value gives, if it gives one. -/
def baseFrom (root : Path) (value : Data) : Except Error (Option Path) :=
  if value.isPresent then (pathFrom root value).map some else pure none

/-- The configuration that data gives, for files in a directory. -/
def ofData (data : Data) (root : Path) : Except Error Config :=
  match data with
  | .null | .mapping _ => do
    let options ← (Options.ofData (setting data "options")).mapError .invalid
    let write ← pairsFrom root (setting data "write")
    let base ← baseFrom root (setting data "base")
    let watch ← watchPatterns (setting data "watch")
    return { options, base, write, watch, root }
  | _ => .error (.invalid .configNotMapping)

end Config

end Haml
