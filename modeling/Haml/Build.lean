import Haml.Compile
import Haml.Config
import Haml.Data.Json
import Haml.Glob.Search
import Haml.TemplateName

/-!
# Building projects

Compiling template files, one by one or all those of a configuration. A template that cannot be read
or has an error is skipped and reported, and the others are still built; any other failure stops the
build where it is.
-/

namespace Haml

/-- Why an operation on files fails. -/
inductive Failure where
  | compile (failure : CompileFailure)
  | path (error : Path.Error)
  | file (error : FileError)
  | config (error : Config.Error)
  | pattern (error : Glob.Error)
  /-- The user asked to stop. -/
  | interrupt
deriving DecidableEq, Repr

namespace Failure

/-- The text of a failure. -/
def message : Failure → Text
  | compile failure => failure.message
  | path error => error.message
  | file error => error.message
  | config (.invalid error) => error.message
  | config .illTyped => "A value of the configuration has the wrong type.".toList
  | pattern error => error.message
  | interrupt => []

/-- Whether a build skips a template for the failure: it has an error, or it cannot be read. -/
def isSkipped : Failure → Bool
  | compile (.template _) => true
  | file error => error.fault.isOfSystem
  | _ => false

/-- Whether the failure is one of the configuration or of a file, so that another attempt may
succeed. -/
def isRetried : Failure → Bool
  | config (.invalid _) => true
  | file error => error.fault.isOfSystem
  | _ => false

/-- Whether the program reports the failure and ends. -/
def isReported (failure : Failure) : Bool := failure.isSkipped || failure.isRetried

end Failure

/-- The module of the template file at a path. Its name, unless one is given, follows from the path
below the base directory. -/
def compileFile (options : Options) (files : FileSystem) (path : Path) (base : Option Path)
    (nameSpace name : Text) : Except Failure Text := do
  let name ← if name.isEmpty then (templateName path base).mapError .path else pure name
  let source ← (files.read path).mapError .file
  (compile options source name nameSpace).mapError .compile

/-- A pair whose template was skipped. -/
structure Skipped where
  /-- The pair. -/
  pair : WritePair
  /-- Why. -/
  failure : Failure
deriving DecidableEq, Repr

/-- What a build did. -/
structure BuildReport where
  /-- The file system afterwards. -/
  files : FileSystem
  /-- The pairs that were skipped. -/
  skipped : List Skipped
  /-- What happened, one line for each pair. -/
  log : List Text
  /-- Why the build stopped early. -/
  stopped : Option Failure
deriving DecidableEq, Repr

namespace BuildReport

/-- The report of a build that has nothing to do. -/
def nothing (files : FileSystem) : BuildReport := ⟨files, [], [], none⟩

/-- The report of a build that stopped. -/
def stop (files : FileSystem) (failure : Failure) : BuildReport := ⟨files, [], [], some failure⟩

/-- The report with a skipped pair before all others. -/
def skip (pair : WritePair) (failure : Failure) (report : BuildReport) : BuildReport :=
  { report with
    skipped := ⟨pair, failure⟩ :: report.skipped
    log := ("Failed to compile ".toList ++ pair.src.text ++ ": ".toList ++ failure.message) ::
      report.log }

/-- The report with a written pair before all others. -/
def written (pair : WritePair) (report : BuildReport) : BuildReport :=
  { report with
    log := ("Compiled ".toList ++ pair.src.text ++ " -> ".toList ++ pair.dst.text) :: report.log }

end BuildReport

/-- Builds pairs in order, with template names starting from a base directory if there is one. -/
def build (options : Options) (base : Option Path) (files : FileSystem) :
    List WritePair → BuildReport
  | [] => .nothing files
  | pair :: pairs =>
    match compileFile options files pair.src base [] [] with
    | .error failure =>
      if failure.isSkipped then (build options base files pairs).skip pair failure
      else .stop files failure
    | .ok code =>
      let change := files.deliver pair.dst code
      match change.error with
      | some error => .stop change.files (.file error)
      | none => (build options base change.files pairs).written pair

/-- Builds all pairs of a configuration. -/
def Config.build (config : Config) (files : FileSystem) : BuildReport :=
  Haml.build config.options (some config.nameBase) files config.write

/-- The configuration in the file at a path, in a run with an order of its own. -/
def Config.load (order : Literal.SetOrder) (files : FileSystem) (path : Path) :
    Except Failure Config := do
  let text ← (files.read path).mapError .file
  let config ← (Config.ofData (Data.ofConfigFile text) path.parent).mapError .config
  return { config with options := config.options.inRun order }

/-- The files that the patterns of a configuration stand for. -/
def Config.watchPaths (config : Config) (files : FileSystem) : Except Failure (List Path) :=
  (Glob.searchAll files config.root config.watch).mapError fun
    | .failed error => .file error
    | error => .pattern error

end Haml
