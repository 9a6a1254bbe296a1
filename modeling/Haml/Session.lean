import Haml.CommandLine
import Haml.Watch

/-!
# Sessions

A run of the program from its arguments to its end. What happens outside while it runs is given as
two lists: the events that a watching program meets, and the edits made during each of its pauses.
When the events are used up the watcher has nothing left to wait for and ends; when the pauses are
used up the user interrupts the program.
-/

namespace Haml

/-- What a watching program meets. -/
inductive Event where
  /-- The user asks to stop. -/
  | interrupt
  /-- Files are edited. -/
  | edited (edits : List Edit)
  /-- Files are edited, and the modification of a file or directory is noticed. -/
  | modified (edits : List Edit) (path : Path) (isDirectory : Bool)
deriving DecidableEq, Repr

/-- The state of a running program. -/
structure Session where
  /-- The files. -/
  files : FileSystem
  /-- What has been told so far. -/
  notices : List Notice := []
  /-- The events to come. -/
  events : List Event := []
  /-- The order in which this run lists the elements of sets. -/
  setOrder : Literal.SetOrder := .insertion

/-- How a part of a run ends. -/
structure Attempt where
  /-- The state at the end. -/
  session : Session
  /-- Why it was given up. -/
  failure : Option Failure

/-- How a run ends. -/
inductive Ending where
  /-- With an exit code. -/
  | exit (code : Nat)
  /-- Because the command line is refused. -/
  | usage (error : CommandLine.Error)
  /-- With the help text. -/
  | help
  /-- By a failure that the program does not report itself. -/
  | failed (failure : Failure)
deriving DecidableEq, Repr

namespace Session

/-- The session after some notices. -/
def tell (session : Session) (notices : List Notice) : Session :=
  { session with notices := session.notices ++ notices }

/-- The session after a build. -/
def afterBuild (session : Session) (report : BuildReport) : Session :=
  { session with files := report.files }.tell (report.log.map .log)

/-- The last line of a watcher. -/
def watcherEnd (session : Session) : Session :=
  session.tell [.log "Watcher stopped completely.".toList]

/-- Lets a watcher meet events until they are used up, the user interrupts it, or a build stops. -/
def meet (watcher : Watcher) (session : Session) : List Event → Attempt
  | [] => ⟨{ session with events := [] }.watcherEnd, none⟩
  | .interrupt :: rest =>
    ⟨{ session with events := rest }.tell
      [.log "Stopping watcher (Ctrl+C pressed)...".toList] |>.watcherEnd, none⟩
  | .edited edits :: rest =>
    meet watcher { session with files := session.files.applyAll edits } rest
  | .modified edits path isDirectory :: rest =>
    let reaction := watcher.onModified (session.files.applyAll edits) path isDirectory
    let session := { session with files := reaction.files }.tell reaction.notices
    match reaction.stopped with
    | some failure => ⟨{ session with events := rest }.watcherEnd, some failure⟩
    | none => meet watcher session rest

/-- What a project needs before its files are watched. -/
structure Preparation where
  /-- The session afterwards. -/
  session : Session
  /-- The watcher, unless there is nothing to watch or the preparation failed. -/
  watcher : Except Failure (Option Watcher)

/-- Gets ready to watch the files of a project. -/
def openWatcher (session : Session) (config : Config) : Preparation :=
  match Watcher.ofConfig config session.files with
  | .error failure => ⟨session, .error failure⟩
  | .ok watcher =>
    match watcher.directoryError? session.files with
    | some error => ⟨session.tell [.log Watcher.readyLine], .error (.file error)⟩
    | none =>
      ⟨session.tell (watcher.opening session.files),
        .ok (if watcher.count session.files == 0 then none else some watcher)⟩

/-- Builds a project and gets ready to watch its files. -/
def prepare (session : Session) (path : Path) : Preparation :=
  match Config.load session.setOrder session.files path with
  | .error failure => ⟨session, .error failure⟩
  | .ok config =>
    let report := config.build session.files
    let session := session.afterBuild report
    match report.stopped with
    | some failure => ⟨session, .error failure⟩
    | none => session.openWatcher config

/-- Builds a project and watches its files. -/
def buildAndWatch (session : Session) (path : Path) : Attempt :=
  match session.prepare path with
  | ⟨session, .error failure⟩ => ⟨session, some failure⟩
  | ⟨session, .ok none⟩ => ⟨session, none⟩
  | ⟨session, .ok (some watcher)⟩ => meet watcher session session.events

/-- What is told before another attempt. -/
def retryNotices (failure : Failure) : List Notice :=
  [.print ("Error: ".toList ++ failure.message ++ ['\n']),
   .print ("Please check your configuration and try again, ".toList ++
    "attempting to reload in 3 seconds...\n".toList),
   .pause 3]

/-- Builds and watches a project. After a failure of the configuration or of a file there is a pause
and another attempt. -/
def watchProject (session : Session) (path : Path) (pauses : List (List Edit)) :
    Session × Ending :=
  let attempt := session.buildAndWatch path
  match attempt.failure with
  | none => (attempt.session, .exit 0)
  | some failure =>
    if failure.isRetried then
      let session := attempt.session.tell (retryNotices failure)
      match pauses with
      | [] => (session, .failed .interrupt)
      | edits :: later =>
        watchProject { session with files := session.files.applyAll edits } path later
    else (attempt.session, .failed failure)

/-- The end of a run that fails: failures of templates, configurations and files are reported. -/
def giveUp (session : Session) (failure : Failure) : Session × Ending :=
  if failure.isReported then
    (session.tell [.complain ("Error: ".toList ++ failure.message ++ ['\n'])], .exit 1)
  else (session, .failed failure)

/-- Builds a project once. -/
def buildProject (session : Session) (path : Path) : Session × Ending :=
  match Config.load session.setOrder session.files path with
  | .error failure => session.giveUp failure
  | .ok config =>
    let report := config.build session.files
    let session := session.afterBuild report
    match report.stopped with
    | some failure => session.giveUp failure
    | none => (session, .exit (if report.skipped.isEmpty then 0 else 1))

/-- The options that a command line gives, as data. -/
def optionEntries (args : CommandLine.Arguments) : List (Text × Data) :=
  let given (name : String) (value : Option Text) : List (Text × Data) :=
    (value.map fun v => (name.toList, Data.text v)).toList
  ("escape_html".toList, .bool args.escapeHtml) :: given "format" args.format ++
    given "custom_html_escape" args.customEscape ++ given "namespace" args.nameSpace

/-- The module of the template that a command line names. -/
def compileInput (session : Session) (args : CommandLine.Arguments) (input : Text) :
    Except Failure Text := do
  let options ← (Options.ofEntries (optionEntries args)).mapError fun error =>
    .config (.invalid error)
  let path := Path.ofText input
  let name ←
    match args.template with
    | some (c :: rest) => pure (c :: rest)
    | _ => (templateName (Path.ofText path.name) none).mapError .path
  compileFile (options.inRun session.setOrder) session.files path none [] name

/-- Compiles the template that a command line names, into a file or onto the output. -/
def compileSingle (session : Session) (args : CommandLine.Arguments) (input : Text) :
    Session × Ending :=
  match session.compileInput args input with
  | .error failure => session.giveUp failure
  | .ok code =>
    match args.output with
    | some (c :: rest) =>
      match session.files.writeNamed (c :: rest) code with
      | .error error => session.giveUp (.file error)
      | .ok files => ({ session with files }, .exit 0)
    | _ => (session.tell [.print code], .exit 0)

/-- Runs the program. -/
def run (session : Session) (arguments : List Text) (pauses : List (List Edit)) :
    Session × Ending :=
  match CommandLine.parse arguments with
  | .error .help => (session.tell [.print CommandLine.helpText], .help)
  | .error (.error error) => (session, .usage error)
  | .ok args =>
    match args.input with
    | some (c :: rest) => session.compileSingle args (c :: rest)
    | _ =>
      let path := Path.ofText (args.config.getD [])
      if args.watch then
        match session.watchProject path pauses with
        | (session, .failed failure) => session.giveUp failure
        | finished => finished
      else session.buildProject path

end Session

end Haml
