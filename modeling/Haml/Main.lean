import Haml.Session
import Std.Time

/-!
# The program

The outer layer: it takes the directories that matter into memory, lets `Session` work on them,
tells what there is to tell and writes what has changed. A watching program looks for changes once
a second.
-/

namespace Haml.Main

/-- An entry of a directory with all that is below it. Files that cannot be opened are left out. -/
partial def loadEntry (place : Place) (entry : IO.FS.DirEntry) : IO (List (Place × Entry)) := do
  let place := place ++ [entry.fileName.toList]
  if ← entry.path.isDir then
    let inner ← (← entry.path.readDir).toList.mapM (loadEntry place)
    return (place, .directory) :: inner.flatten
  else
    try
      return [(place, .file (.ofBytes (← IO.FS.readBinFile entry.path).toList))]
    catch _ => return []

/-- The place of a directory and of each directory above it, as entries. -/
def ancestors (place : Place) : List (Place × Entry) :=
  (List.range place.length).map fun n => (place.take (n + 1), .directory)

/-- A directory with all that is below it; nothing if it does not exist. -/
def loadDirectory (name : String) : IO (List (Place × Entry)) := do
  try
    let real ← IO.FS.realPath name
    let place := (Path.ofText real.toString.toList).parts
    let inner ← (← real.readDir).toList.mapM (loadEntry place)
    return ancestors place ++ inner.flatten
  catch _ => return []

/-- The directories that an argument leads to, apart from those below the working directory. -/
def outerDirectory? (argument : String) : Option String :=
  let path := Path.ofText argument.toList
  if path.anchor != .relative || path.parts.contains "..".toList then
    some (String.ofList path.parent.text)
  else none

/-- The working directory and the directories of the arguments. -/
def load (arguments : List String) : IO FileSystem := do
  let work ← IO.currentDir
  let inner ← loadDirectory work.toString
  let outer ← (arguments.filterMap outerDirectory?).mapM loadDirectory
  return (FileSystem.bare.putAll (inner ++ outer.flatten)).enter
    (Path.ofText work.toString.toList).parts

/-- Writes the entries that differ from those before. -/
def save (before after : FileSystem) : IO Unit := do
  for (place, entry) in after.entries.reverse do
    if before.lookup? place != some entry then
      let name := String.ofList (FileSystem.placeText place)
      match entry with
      | .directory => IO.FS.createDirAll name
      | .file (.text t) => IO.FS.writeFile name (String.ofList t)
      | .file (.raw raw) => IO.FS.writeBinFile name ⟨raw.bytes.toArray⟩

/-- Tells one notice. -/
def tell (notice : Notice) : IO Unit := do
  match notice with
  | .print t => IO.print (String.ofList t)
  | .complain t => IO.eprint (String.ofList t)
  | .log line =>
    let now ← Std.Time.PlainDateTime.now
    IO.eprintln (now.format "uuuu-MM-dd HH:mm:ss" ++ " - " ++ String.ofList line)
  | .pause seconds => IO.sleep (UInt32.ofNat (1000 * seconds))

/-- Tells all notices in order. -/
def tellAll (notices : List Notice) : IO Unit := notices.forM tell

/-- The watched files whose entries differ. -/
def modified (watcher : Watcher) (before after : FileSystem) : List Place :=
  watcher.watched.eraseDups.filter fun place => before.lookup? place != after.lookup? place

/-- Looks for modified files once a second, until a build stops. -/
partial def watchFiles (watcher : Watcher) (arguments : List String) (before : FileSystem) :
    IO Failure := do
  IO.sleep 1000
  let mut files ← load arguments
  let start := files
  for place in modified watcher before start do
    let reaction := watcher.onModified files (.ofText (FileSystem.placeText place)) false
    tellAll reaction.notices
    save files reaction.files
    files := reaction.files
    if let some failure := reaction.stopped then
      tell (.log "Watcher stopped completely.".toList)
      return failure
  watchFiles watcher arguments files

/-- Ends with a failure: reported ones with their text, any other as an error of the program. -/
def giveUp (failure : Failure) : IO UInt32 := do
  if failure.isReported then
    IO.eprint (String.ofList ("Error: ".toList ++ failure.message ++ ['\n']))
  else IO.eprintln (String.ofList failure.message)
  return 1

/-- Builds and watches a project, again and again after failures that may pass. -/
partial def watchProject (path : Path) (arguments : List String) : IO UInt32 := do
  let files ← load arguments
  let ready := Session.prepare { files } path
  tellAll ready.session.notices
  save files ready.session.files
  let failure ←
    match ready.watcher with
    | .error failure => pure failure
    | .ok none => return 0
    | .ok (some watcher) => watchFiles watcher arguments ready.session.files
  if failure.isRetried then
    tellAll (Session.retryNotices failure)
    watchProject path arguments
  else giveUp failure

/-- Runs the program once, without watching. -/
def runOnce (arguments : List String) : IO UInt32 := do
  let files ← load arguments
  let (session, ending) := Session.run { files } (arguments.map String.toList) []
  tellAll session.notices
  save files session.files
  match ending with
  | .exit code => return UInt32.ofNat code
  | .help => return 0
  | .usage error =>
    IO.eprintln (String.ofList error.line)
    return 2
  | .failed failure => giveUp failure

end Haml.Main

/-- The command line. -/
def main (arguments : List String) : IO UInt32 := do
  match Haml.CommandLine.parse (arguments.map String.toList) with
  | .ok args =>
    if args.watch && !Haml.CommandLine.isGiven args.input then
      Haml.Main.watchProject (.ofText (args.config.getD [])) arguments
    else Haml.Main.runOnce arguments
  | .error _ => Haml.Main.runOnce arguments
