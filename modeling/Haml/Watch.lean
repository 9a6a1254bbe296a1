import Haml.Build

/-!
# Watching

A watcher knows the files whose changes matter to a project: its templates and the further files
that its patterns stand for. A change of one of them builds the whole project again; any other
change is ignored.
-/

namespace Haml

/-- Something that the program tells its user, in the order it happens. -/
inductive Notice where
  /-- A line of the log. -/
  | log (line : Text)
  /-- Text among the errors. -/
  | complain (text : Text)
  /-- Text of the output. -/
  | print (text : Text)
  /-- The program waits for some seconds. -/
  | pause (seconds : Nat)
deriving DecidableEq, Repr

/-- A project and the places of the files that matter to it. -/
structure Watcher where
  /-- The project. -/
  config : Config
  /-- The places. -/
  watched : List Place

namespace Watcher

/-- The watcher of a project. -/
def ofConfig (config : Config) (files : FileSystem) : Except Failure Watcher := do
  let further ← config.watchPaths files
  return ⟨config, ((config.write.map (·.src)) ++ further).map files.resolve⟩

/-- The directories that hold the watched files, each once. -/
def directories (watcher : Watcher) : List Place :=
  (watcher.watched.map List.dropLast).eraseDups

/-- Whether a directory exists. -/
def isPresent (files : FileSystem) (place : Place) : Bool :=
  files.lookup? place == some .directory

/-- The line for a directory to watch. -/
def directoryLine (files : FileSystem) (place : Place) : Text :=
  if isPresent files place then
    "Scheduled watcher for directory: ".toList ++ FileSystem.placeText place
  else
    "Directory '".toList ++ FileSystem.placeText place ++ "' does not exist. Cannot watch.".toList

/-- The number of directories that can be watched. -/
def count (watcher : Watcher) (files : FileSystem) : Nat :=
  (watcher.directories.filter (isPresent files)).length

/-- The line at the start. -/
def startLine (count : Nat) : Text :=
  "Watching for file changes in ".toList ++ Text.ofNat count ++
    (if count == 1 then " directory" else " directories").toList ++
    ". Press Ctrl+C to stop.".toList

/-- The line when a watcher is ready to look at its directories. -/
def readyLine : Text := "Handler initialized. Monitoring for changes...".toList

/-- The error of a directory whose name is too long to be asked for. -/
def directoryError? (watcher : Watcher) (files : FileSystem) : Option FileError :=
  watcher.directories.findSome? fun place =>
    match files.walk [] place with
    | .error .tooLong => some ⟨.tooLong, FileSystem.placeText place⟩
    | _ => none

/-- What a watcher tells before it starts: the directories in order, and whether there is anything
to watch. -/
def opening (watcher : Watcher) (files : FileSystem) : List Notice :=
  if watcher.directories.isEmpty then [.log "No valid directories provided to watch.".toList]
  else
    .log readyLine ::
      (Text.sort (watcher.directories.map (directoryLine files))).map .log ++
      [.log (if watcher.count files == 0 then
        "No watchers were successfully scheduled. Exiting.".toList
      else startLine (watcher.count files))]

/-- What a modification brings about. -/
structure Reaction where
  /-- The file system afterwards. -/
  files : FileSystem
  /-- What is told. -/
  notices : List Notice
  /-- Why the build stopped early. -/
  stopped : Option Failure
deriving DecidableEq, Repr

/-- Builds the project again when a watched file was modified. -/
def onModified (watcher : Watcher) (files : FileSystem) (path : Path) (isDirectory : Bool) :
    Reaction :=
  let place := files.resolve path
  if isDirectory then ⟨files, [], none⟩
  else if FileSystem.refusal? path.text == some .nullByte then
    ⟨files, [], some (.file ⟨.nullByte, path.text⟩)⟩
  else if watcher.watched.contains place then
    let report := watcher.config.build files
    ⟨report.files,
      .log ("Detected modification in: ".toList ++ FileSystem.placeText place) ::
        report.log.map .log,
      report.stopped⟩
  else ⟨files, [], none⟩

end Watcher

end Haml
