import Haml.Proofs.FileChange
import Haml.Session

/-!
# What a watcher keeps current

A watcher builds its project again whenever a watched file was modified, from whatever the files are
at that moment. Edits and builds come in any order. `Sees` says which file systems the watcher built
from, by the run up to each event alone. After an event the targets of the templates that compile
hold their code, and all other targets what they held. So at every moment a target holds what it
held at first, or the code of its template as it was at some event before.

As for a single build, a template must not be found by going back out of a directory that the build
makes. It would compile for the pairs after the one that makes the directory, and not for those
before it.
-/

namespace Haml

open FileSystem (Evolves)

namespace Config

variable {config : Config} {files now after : FileSystem} {pair : WritePair}

/-- The module of a pair, as the files are. -/
def output (config : Config) (files : FileSystem) (pair : WritePair) : Except Failure Text :=
  compileFile config.options files pair.src (some config.nameBase) [] []

/-- The targets of a project are apart, and none is the place of a template. -/
structure Separate (config : Config) (files : FileSystem) : Prop where
  /-- No two targets are the same, or one on the way to the other. -/
  apart : config.write.Pairwise fun first second => files.Apart first.dst second.dst
  /-- No target is the place of a template. -/
  kept : ∀ pair ∈ config.write, ∀ other ∈ config.write,
    files.resolve pair.dst ≠ files.resolve other.src

/-- The files are such that a build comes to its end, and makes no directory that the path of a
template goes back out of. -/
structure Buildable (config : Config) (files : FileSystem) : Prop where
  /-- Every target can be written. -/
  writable : ∀ pair ∈ config.write, ∀ content, (files.deliver pair.dst content).error = none
  /-- A template that does not compile is skipped. -/
  skipped : ∀ pair ∈ config.write, ∀ failure,
    config.output files pair = .error failure → failure.isSkipped
  /-- No template is behind a directory that is made. -/
  turns : NoNewTurns files config.write

/-- The targets have been brought up to date: they hold the code of the templates that compile, and
otherwise what they held. The same templates compile as before. -/
structure Refreshed (config : Config) (before after : FileSystem) : Prop where
  /-- The target of a template that compiles holds its code. -/
  current : ∀ pair ∈ config.write, ∀ code, config.output before pair = .ok code →
    after.fileAt? (before.resolve pair.dst) = some code ∧ config.output after pair = .ok code
  /-- The target of any other template holds what it held. -/
  kept : ∀ pair ∈ config.write, ∀ failure, config.output before pair = .error failure →
    after.fileAt? (before.resolve pair.dst) = before.fileAt? (before.resolve pair.dst) ∧
      ∃ other, config.output after pair = .error other

/-- Paths lead to the same places from the same working directory. -/
theorem Separate.of_workPlace (h : config.Separate files)
    (hwork : now.workPlace = files.workPlace) : config.Separate now := by
  have hresolve (path : Path) : now.resolve path = files.resolve path := by
    rw [FileSystem.resolve, FileSystem.start_of_workPlace hwork]
    rfl
  have hway (path : Path) : now.way path = files.way path := by
    rw [FileSystem.way, FileSystem.start_of_workPlace hwork]
    rfl
  have hapart {first second : Path} (h : files.Apart first second) : now.Apart first second := by
    obtain ⟨hne, hleft, hright⟩ := h
    rw [← hresolve first, ← hresolve second, ← hway] at *
    exact ⟨hne, hleft, hright⟩
  refine ⟨h.apart.imp hapart, fun pair hpair other hother => ?_⟩
  rw [hresolve, hresolve]
  exact h.kept pair hpair other hother

/-- Pairs that are separate and can be built are independent. -/
theorem Separate.independent (h : config.Separate files) (hbuild : config.Buildable files) :
    Independent config.options (some config.nameBase) files config.write :=
  ⟨h.apart, h.kept, hbuild.writable, hbuild.skipped⟩

/-- A build brings the targets up to date. -/
theorem Separate.refreshed (h : config.Separate files) (hbuild : config.Buildable files) :
    (config.build files).stopped = none ∧ config.Refreshed files (config.build files).files := by
  have hind := h.independent hbuild
  obtain ⟨hstopped, -, hholds⟩ := build_of_holds [] hind hbuild.turns (.nil files)
  rw [List.nil_append] at hholds
  have hread (pair : WritePair) (hpair : pair ∈ config.write) :=
    compileFile_of_find config.options (some config.nameBase)
      (hind.find_iff hbuild.turns (List.Subset.refl _) hholds hpair)
  refine ⟨hstopped, fun pair hpair code hcode => ⟨?_, ?_⟩,
    fun pair hpair failure hfailure => ⟨?_, ?_⟩⟩
  · exact FileSystem.fileAt?_eq_some_iff.mpr
      (hholds.target (pair.dst, code) (mem_products_iff.mpr ⟨pair, hpair, hcode, rfl⟩))
  · obtain ⟨other, hbefore, hafter⟩ | ⟨failure, -, hbefore, -⟩ := hread pair hpair
    · rw [← Except.ok.inj (hbefore.symm.trans hcode)]
      exact hafter
    · cases hbefore.symm.trans hcode
  · refine hholds.fileAt?_eq (fun _ hmem => hind.writable_product (List.Subset.refl _) hmem)
      fun product hmem => ?_
    obtain ⟨other, hother, hcode, hdst⟩ := mem_products_iff.mp hmem
    have hne : other ≠ pair := by
      rintro rfl
      cases hcode.symm.trans hfailure
    have : Std.Symm fun first second : WritePair => files.Apart first.dst second.dst :=
      ⟨fun _ _ hapart => hapart.symm⟩
    exact hdst ▸ (h.apart.forall hother hpair hne).ne
  · obtain ⟨code, hbefore, -⟩ | ⟨-, other, -, hafter, -⟩ := hread pair hpair
    · cases hbefore.symm.trans hfailure
    · exact ⟨other, hafter⟩

end Config

namespace Watcher

variable {watcher : Watcher} {files : FileSystem} {path : Path} {isDirectory : Bool}

/-- A path without null characters is not refused for one. -/
theorem refusal?_ne_nullByte (h : '\x00' ∉ path.text) :
    (FileSystem.refusal? path.text == some .nullByte) = false := by
  rw [beq_eq_false_iff_ne, FileSystem.refusal?, if_neg (by simpa using h)]
  split <;> simp

/-- An event for a directory or for a file that is not watched changes nothing. -/
theorem onModified_of_unwatched (h : isDirectory = true ∨ files.resolve path ∉ watcher.watched) :
    (watcher.onModified files path isDirectory).files = files ∧
      ('\x00' ∉ path.text → (watcher.onModified files path isDirectory).stopped = none) := by
  cases isDirectory with
  | true => exact ⟨rfl, fun _ => rfl⟩
  | false =>
    have hnot : watcher.watched.contains (files.resolve path) = false := by simpa using h
    constructor
    · simp only [onModified, hnot, Bool.false_eq_true, if_false]
      split <;> rfl
    · intro hnull
      simp only [onModified, hnot, refusal?_ne_nullByte hnull, Bool.false_eq_true, if_false]

/-- An event for a watched file builds the project. -/
theorem onModified_of_watched (hnull : '\x00' ∉ path.text)
    (h : files.resolve path ∈ watcher.watched) :
    (watcher.onModified files path false).files = (watcher.config.build files).files ∧
      (watcher.onModified files path false).stopped = (watcher.config.build files).stopped := by
  have hcontains : watcher.watched.contains (files.resolve path) = true := by simpa using h
  simp only [onModified, refusal?_ne_nullByte hnull, hcontains, Bool.false_eq_true, if_false,
    if_true, and_self]

end Watcher

/-- An event that lets a watcher go on, with edits at no target of the project. -/
def Event.Spares (config : Config) (files : FileSystem) : Event → Prop
  | .interrupt => False
  | .edited edits => ∀ edit ∈ edits, ∀ pair ∈ config.write,
      files.resolve edit.path ≠ files.resolve pair.dst
  | .modified edits path _ => '\x00' ∉ path.text ∧ ∀ edit ∈ edits, ∀ pair ∈ config.write,
      files.resolve edit.path ≠ files.resolve pair.dst

namespace Session

variable {watcher : Watcher} {session other : Session} {events front : List Event}
  {edits : List Edit} {path : Path} {isDirectory : Bool} {now : FileSystem}

/-- What a watcher does to files does not depend on what has been told. -/
theorem meet_congr (h : session.files = other.files) (events : List Event) :
    (session.meet watcher events).session.files = (other.meet watcher events).session.files ∧
      (session.meet watcher events).failure = (other.meet watcher events).failure := by
  induction events generalizing session other with
  | nil => exact ⟨h, rfl⟩
  | cons event events ih =>
    cases event with
    | interrupt => exact ⟨h, rfl⟩
    | edited edits =>
      rw [meet, meet]
      exact ih (congrArg (·.applyAll edits) h)
    | modified edits path isDirectory =>
      rw [meet, meet, h]
      split
      · exact ⟨rfl, rfl⟩
      · exact ih rfl

/-- A run that has not ended goes on from the files it has come to. -/
theorem meet_append (hinterrupt : .interrupt ∉ front)
    (h : (session.meet watcher front).failure = none) (rest : List Event) :
    (session.meet watcher (front ++ rest)).session.files =
        ((session.meet watcher front).session.meet watcher rest).session.files ∧
      (session.meet watcher (front ++ rest)).failure =
        ((session.meet watcher front).session.meet watcher rest).failure := by
  induction front generalizing session with
  | nil =>
    have hfiles : session.files = (session.meet watcher []).session.files := rfl
    exact meet_congr hfiles rest
  | cons event front ih =>
    obtain ⟨hne, hrest⟩ := List.ne_and_not_mem_of_not_mem_cons hinterrupt
    cases event with
    | interrupt => exact absurd rfl hne
    | edited edits =>
      rw [meet] at h
      rw [List.cons_append, meet, meet]
      exact ih hrest h
    | modified edits path isDirectory =>
      rw [meet] at h
      rw [List.cons_append, meet, meet]
      split at h
      · cases h
      · exact ih hrest h

/-- Edits at the end of a run that has not stopped are made, and do not stop it. -/
theorem meet_concat_edited (hinterrupt : .interrupt ∉ front)
    (h : (session.meet watcher front).failure = none) (edits : List Edit) :
    (session.meet watcher (front ++ [.edited edits])).session.files =
        (session.meet watcher front).session.files.applyAll edits ∧
      (session.meet watcher (front ++ [.edited edits])).failure = none :=
  meet_append hinterrupt h [.edited edits]

/-- The files as the edits have left them are what the watcher reacts to. -/
theorem meet_concat_modified (hinterrupt : .interrupt ∉ front)
    (h : (session.meet watcher front).failure = none) (edits : List Edit) (path : Path)
    (isDirectory : Bool) :
    (session.meet watcher (front ++ [.modified edits path isDirectory])).session.files =
        (watcher.onModified (session.meet watcher (front ++ [.edited edits])).session.files path
          isDirectory).files ∧
      (session.meet watcher (front ++ [.modified edits path isDirectory])).failure =
        (watcher.onModified (session.meet watcher (front ++ [.edited edits])).session.files path
          isDirectory).stopped := by
  obtain ⟨hfiles, hfailure⟩ := meet_append hinterrupt h [.modified edits path isDirectory]
  rw [hfiles, hfailure, (meet_concat_edited hinterrupt h edits).1, meet]
  split
  · rename_i hstopped
    exact ⟨rfl, hstopped.symm⟩
  · rename_i hstopped
    exact ⟨rfl, hstopped.symm⟩

/-- The file systems that a watcher builds a project from, as the edits of each event for a watched
file have left them. -/
def Sees (watcher : Watcher) (session : Session) (events : List Event) (now : FileSystem) : Prop :=
  ∃ front edits path rest, events = front ++ .modified edits path false :: rest ∧
    now = (session.meet watcher (front ++ [.edited edits])).session.files ∧
    now.resolve path ∈ watcher.watched

/-- What a watcher has seen it has seen after further events. -/
theorem Sees.append (h : session.Sees watcher events now) (more : List Event) :
    session.Sees watcher (events ++ more) now := by
  obtain ⟨front, edits, path, rest, rfl, hnow, hwatched⟩ := h
  exact ⟨front, edits, path, rest ++ more, by rw [List.append_assoc, List.cons_append], hnow,
    hwatched⟩

/-- What is true of the files of a run after some events: every target holds what it held at first,
or the code of its template as the watcher has seen it. -/
structure Reaches (watcher : Watcher) (session : Session) (events : List Event)
    (files : FileSystem) : Prop where
  /-- The working directory is that of the start. -/
  workPlace : files.workPlace = session.files.workPlace
  /-- Every target holds what it held, or code. -/
  outputs : ∀ pair ∈ watcher.config.write,
    files.fileAt? (session.files.resolve pair.dst) =
        session.files.fileAt? (session.files.resolve pair.dst) ∨
      ∃ seen code, session.Sees watcher events seen ∧ watcher.config.output seen pair = .ok code ∧
        files.fileAt? (session.files.resolve pair.dst) = some code

namespace Reaches

variable {files : FileSystem}

/-- At the start every target holds what it held. -/
theorem start : session.Reaches watcher [] session.files := ⟨rfl, fun _ _ => .inl rfl⟩

/-- What is true of the files after some events is true of them after more, if they stay. -/
theorem append (h : session.Reaches watcher events files) (more : List Event) :
    session.Reaches watcher (events ++ more) files where
  workPlace := h.workPlace
  outputs pair hpair := by
    obtain hsame | ⟨seen, code, hseen, hcode, hfile⟩ := h.outputs pair hpair
    · exact .inl hsame
    · exact .inr ⟨seen, code, hseen.append more, hcode, hfile⟩

/-- After any events a path names the place that it named at first. -/
theorem resolve_eq (h : session.Reaches watcher events files) (path : Path) :
    files.resolve path = session.files.resolve path := by
  rw [FileSystem.resolve, FileSystem.start_of_workPlace h.workPlace]
  rfl

/-- Edits leave the targets alone. -/
theorem applyAll (h : session.Reaches watcher events files)
    (hedits : ∀ edit ∈ edits, ∀ pair ∈ watcher.config.write,
      session.files.resolve edit.path ≠ session.files.resolve pair.dst) :
    session.Reaches watcher events (files.applyAll edits) := by
  have hevolves : Evolves (fun q => ∀ pair ∈ watcher.config.write,
      q ≠ session.files.resolve pair.dst) files (files.applyAll edits) :=
    FileSystem.evolves_applyAll fun edit hedit => h.resolve_eq edit.path ▸ hedits edit hedit
  refine ⟨hevolves.workPlace_eq.trans h.workPlace, ?_⟩
  intro pair hpair
  rw [hevolves.fileAt?_eq fun hne => hne pair hpair rfl]
  exact h.outputs pair hpair

/-- A build from files that the watcher sees. -/
theorem build (h : session.Reaches watcher events files) (hseen : session.Sees watcher events files)
    (hseparate : watcher.config.Separate session.files) (hbuild : watcher.config.Buildable files) :
    session.Reaches watcher events (watcher.config.build files).files := by
  have hevolves : Evolves (fun _ => True) files (watcher.config.build files).files :=
    evolves_build fun _ _ => trivial
  obtain ⟨-, hcurrent, hkept⟩ := (hseparate.of_workPlace h.workPlace).refreshed hbuild
  refine ⟨hevolves.workPlace_eq.trans h.workPlace, ?_⟩
  intro pair hpair
  cases houtput : watcher.config.output files pair with
  | ok code =>
    have hfile := (hcurrent pair hpair code houtput).1
    rw [h.resolve_eq] at hfile
    exact .inr ⟨files, code, hseen, houtput, hfile⟩
  | error failure =>
    have hfile := (hkept pair hpair failure houtput).1
    rw [h.resolve_eq] at hfile
    rw [hfile]
    exact h.outputs pair hpair

end Reaches

/-- A run through events that spare the targets goes to its end. -/
theorem reaches_meet (hseparate : watcher.config.Separate session.files)
    (hevents : ∀ event ∈ events, event.Spares watcher.config session.files)
    (hbuild : ∀ now, session.Sees watcher events now → watcher.config.Buildable now) :
    .interrupt ∉ events ∧ (session.meet watcher events).failure = none ∧
      session.Reaches watcher events (session.meet watcher events).session.files := by
  induction events using List.reverseRecOn with
  | nil => exact ⟨List.not_mem_nil, rfl, .start⟩
  | append_singleton front event ih =>
    obtain ⟨hfront, hevent⟩ := List.forall_mem_append.mp hevents
    obtain ⟨hinterrupt, hfailure, hreaches⟩ := ih hfront fun now hnow => hbuild now (hnow.append _)
    replace hevent := hevent event List.mem_cons_self
    cases event with
    | interrupt => exact absurd hevent id
    | edited edits =>
      obtain ⟨hmeet, hgoes⟩ := meet_concat_edited hinterrupt hfailure edits
      rw [hmeet, hgoes]
      exact ⟨by simpa using hinterrupt, rfl, (hreaches.applyAll hevent).append _⟩
    | modified edits path isDirectory =>
      obtain ⟨hnull, hedits⟩ := hevent
      obtain ⟨hmeet, hstopped⟩ := meet_concat_modified hinterrupt hfailure edits path isDirectory
      have hedited := hreaches.applyAll hedits
      rw [← (meet_concat_edited hinterrupt hfailure edits).1] at hedited
      rw [hmeet, hstopped]
      refine ⟨by simpa using hinterrupt, ?_⟩
      by_cases hwatched : isDirectory = true ∨
          (session.meet watcher (front ++ [.edited edits])).session.files.resolve path ∉
            watcher.watched
      · obtain ⟨hsame, hgoes⟩ := Watcher.onModified_of_unwatched hwatched
        rw [hsame]
        exact ⟨hgoes hnull, hedited.append _⟩
      · rw [not_or, not_not, Bool.not_eq_true] at hwatched
        obtain ⟨rfl, hwatched⟩ := hwatched
        have hseen : session.Sees watcher (front ++ [.modified edits path false])
            (session.meet watcher (front ++ [.edited edits])).session.files :=
          ⟨front, edits, path, [], rfl, rfl, hwatched⟩
        obtain ⟨hbuilt, hends⟩ := Watcher.onModified_of_watched hnull hwatched
        rw [hbuilt, hends]
        have hready := hbuild _ hseen
        exact ⟨((hseparate.of_workPlace hedited.workPlace).refreshed hready).1,
          (hedited.append _).build hseen hseparate hready⟩

/-- A watcher keeps targets current or as they were. The project has targets that are apart from
each other and from its templates, the edits spare the targets, and at each event for a watched file
the project can be built, without a directory to be made that the path of a template goes back out
of. Then an event for a directory or for a file that is not watched changes no file. After an event
for a watched file the target of each template that compiles holds its code, and every other target
what it held. So at every moment a target holds what it held at the start, or the code of its
template as it was at an event before. -/
theorem meet_current (hseparate : watcher.config.Separate session.files)
    (hevents : ∀ event ∈ events, event.Spares watcher.config session.files)
    (hbuild : ∀ now, session.Sees watcher events now → watcher.config.Buildable now) :
    (session.meet watcher events).failure = none ∧
    (∀ front edits path isDirectory rest,
      events = front ++ .modified edits path isDirectory :: rest →
      ∀ before after, before = (session.meet watcher (front ++ [.edited edits])).session.files →
        after = (session.meet watcher (front ++ [.modified edits path isDirectory])).session.files →
        (isDirectory = true ∨ before.resolve path ∉ watcher.watched → after = before) ∧
        (isDirectory = false → before.resolve path ∈ watcher.watched →
          watcher.config.Refreshed before after)) ∧
    ∀ front rest, events = front ++ rest → ∀ pair ∈ watcher.config.write,
      (session.meet watcher front).session.files.fileAt? (session.files.resolve pair.dst) =
          session.files.fileAt? (session.files.resolve pair.dst) ∨
        ∃ seen code, session.Sees watcher front seen ∧
          watcher.config.output seen pair = .ok code ∧
          (session.meet watcher front).session.files.fileAt? (session.files.resolve pair.dst) =
            some code := by
  have hfront : ∀ front rest, events = front ++ rest →
      .interrupt ∉ front ∧ (session.meet watcher front).failure = none ∧
        session.Reaches watcher front (session.meet watcher front).session.files := by
    rintro front rest rfl
    exact reaches_meet hseparate (List.forall_mem_append.mp hevents).1
      fun now hnow => hbuild now (hnow.append rest)
  refine ⟨(hfront events [] (List.append_nil _).symm).2.1, ?_, ?_⟩
  · rintro front edits path isDirectory rest rfl before after rfl rfl
    obtain ⟨hinterrupt, hfailure, hreaches⟩ := hfront front _ rfl
    obtain ⟨hnull, hedits⟩ := hevents (.modified edits path isDirectory) (by simp)
    have hedited := hreaches.applyAll hedits
    rw [← (meet_concat_edited hinterrupt hfailure edits).1] at hedited
    rw [(meet_concat_modified hinterrupt hfailure edits path isDirectory).1]
    refine ⟨fun hunwatched => (Watcher.onModified_of_unwatched hunwatched).1, ?_⟩
    rintro rfl hwatched
    rw [(Watcher.onModified_of_watched hnull hwatched).1]
    exact ((hseparate.of_workPlace hedited.workPlace).refreshed
      (hbuild _ ⟨front, edits, path, rest, rfl, rfl, hwatched⟩)).2
  · intro front rest hsplit
    exact (hfront front rest hsplit).2.2.outputs

end Session

/-- Separate targets in a form that can be evaluated. -/
theorem Config.Separate.of_checks {config : Config} {files : FileSystem}
    (apart : config.write.Pairwise fun first second =>
      files.resolve first.dst ≠ files.resolve second.dst ∧
        files.resolve first.dst ∉ files.way second.dst ∧
        files.resolve second.dst ∉ files.way first.dst)
    (kept : ∀ pair ∈ config.write, ∀ other ∈ config.write,
      files.resolve pair.dst ≠ files.resolve other.src) : config.Separate files :=
  ⟨apart.imp fun h => ⟨h.1, h.2.1, h.2.2⟩, kept⟩

/-- What a build needs in a form that can be evaluated. -/
theorem Config.Buildable.of_checks {config : Config} {files : FileSystem}
    (writable : ∀ pair ∈ config.write, (files.deliver pair.dst (.text [])).error = none)
    (skipped : ∀ pair ∈ config.write,
      (match config.output files pair with
        | .ok _ => true
        | .error failure => failure.isSkipped) = true)
    (turns : NoNewTurns files config.write) : config.Buildable files where
  writable pair hpair _ := FileSystem.error_deliver_eq_none_iff.mpr
    (FileSystem.error_deliver_eq_none_iff.mp (writable pair hpair))
  skipped pair hpair failure hfailure := by simpa [hfailure] using skipped pair hpair
  turns := turns

/-- Two templates with errors, and an old module. -/
def staleFiles : FileSystem :=
  { workPlace := []
    entries :=
      [(["a.haml".toList], .file "%p\n   %b\n %i\n".toList),
        (["b.haml".toList], .file "%p\n   %b\n %i\n".toList),
        (["b.py".toList], .file "old".toList)] }

/-- The pair of the first template. -/
def firstPair : WritePair := ⟨Path.ofText "a.haml".toList, Path.ofText "out/a.py".toList⟩

/-- The pair of the second template. -/
def secondPair : WritePair := ⟨Path.ofText "b.haml".toList, Path.ofText "b.py".toList⟩

/-- A watcher of the two templates. -/
def pairWatcher : Watcher :=
  ⟨⟨{}, none, [firstPair, secondPair], [], Path.here⟩, [["a.haml".toList], ["b.haml".toList]]⟩

/-- The second template is mended, and later broken again. -/
def secondEvents : List Event :=
  [.modified [⟨secondPair.src, some "%p b\n".toList⟩] secondPair.src false,
    .edited [⟨secondPair.src, some "%p\n   %b\n %i\n".toList⟩]]

/-- The first template is mended. -/
def firstEdits : List Edit := [⟨firstPair.src, some "%p a\n".toList⟩]

/-- The last event brings the first module up to date. The second template does not compile any
more, and its module stays as the event before has left it. -/
theorem Session.meet_current_twoPairs :
    ∃ before after,
      before = (meet pairWatcher { files := staleFiles }
        (secondEvents ++ [.edited firstEdits])).session.files ∧
      after = (meet pairWatcher { files := staleFiles }
        (secondEvents ++ [.modified firstEdits firstPair.src false])).session.files ∧
      pairWatcher.config.Refreshed before after ∧
      (pairWatcher.config.output before firstPair).isOk = true ∧
      (pairWatcher.config.output before secondPair).isOk = false ∧
      before.fileAt? (before.resolve secondPair.dst) ≠ some "old".toList := by
  have hseparate : pairWatcher.config.Separate staleFiles :=
    .of_checks (by decide +kernel) (by decide +kernel)
  have hevents : ∀ event ∈ secondEvents ++ [.modified firstEdits firstPair.src false],
      event.Spares pairWatcher.config staleFiles := by
    have hsecond : ∀ edit ∈ [Edit.mk secondPair.src (some "%p\n   %b\n %i\n".toList)],
        ∀ pair ∈ pairWatcher.config.write,
          staleFiles.resolve edit.path ≠ staleFiles.resolve pair.dst := by decide +kernel
    refine List.forall_mem_cons.mpr ⟨⟨?_, ?_⟩, List.forall_mem_cons.mpr ⟨hsecond,
      List.forall_mem_singleton.mpr ⟨?_, ?_⟩⟩⟩
    all_goals decide +kernel
  have hbuild : ∀ now, Session.Sees pairWatcher { files := staleFiles }
      (secondEvents ++ [.modified firstEdits firstPair.src false]) now →
      pairWatcher.config.Buildable now := by
    rintro now ⟨front, edits, path, rest, hsplit, rfl, -⟩
    rcases front with _ | ⟨first, _ | ⟨second, _ | ⟨third, front⟩⟩⟩
    · obtain ⟨rfl, -, -⟩ := Event.modified.inj (List.cons.inj hsplit).1
      exact .of_checks (by decide +kernel) (by decide +kernel)
        (by unfold NoNewTurns; decide +kernel)
    · cases (List.cons.inj (List.cons.inj hsplit).2).1
    · obtain ⟨hfirst, hrest⟩ := List.cons.inj hsplit
      obtain ⟨hsecond, hlast⟩ := List.cons.inj hrest
      obtain ⟨hedits, -, -⟩ := Event.modified.inj (List.cons.inj hlast).1
      rw [← hfirst, ← hsecond, ← hedits]
      exact .of_checks (by decide +kernel) (by decide +kernel)
        (by unfold NoNewTurns; decide +kernel)
    · have hlength := congrArg List.length hsplit
      simp [secondEvents] at hlength
  obtain ⟨-, hevent, -⟩ := meet_current hseparate hevents hbuild
  obtain ⟨-, hrefreshed⟩ := hevent secondEvents firstEdits firstPair.src false [] rfl _ _ rfl rfl
  exact ⟨_, _, rfl, rfl, hrefreshed rfl (by decide +kernel), by decide +kernel, by decide +kernel,
    by decide +kernel⟩

/-- Two templates that compile and one that does not. -/
def turnedFiles : FileSystem :=
  { workPlace := []
    entries :=
      [(["a.haml".toList], .file "%p\n   %b\n %i\n".toList),
        (["s.haml".toList], .file "%p s\n".toList), (["t.haml".toList], .file "%p t\n".toList)] }

/-- A pair whose template is found by going back out of a directory. -/
def earlyPair : WritePair := ⟨Path.ofText "out/../s.haml".toList, Path.ofText "b.py".toList⟩

/-- Another such pair. -/
def latePair : WritePair := ⟨Path.ofText "out/../t.haml".toList, Path.ofText "c.py".toList⟩

/-- A watcher of these pairs and, between them, of one whose module is in the directory. -/
def turnWatcher : Watcher :=
  ⟨⟨{}, none, [earlyPair, makingPair, latePair], [], Path.here⟩,
    [["s.haml".toList], ["a.haml".toList], ["t.haml".toList]]⟩

/-- Without the condition on directories an event does not bring all targets up to date. The last
template does not compile at the event, and its module is written; the first one compiles after the
event, and its module is not there. -/
theorem Session.not_current_of_newTurn :
    turnWatcher.config.Separate turnedFiles ∧
    (∀ pair ∈ turnWatcher.config.write, turnedFiles.resolve pair.dst ∉ turnWatcher.watched) ∧
    (Event.modified firstEdits firstPair.src false).Spares turnWatcher.config turnedFiles ∧
    ∃ before after,
      before = (meet turnWatcher { files := turnedFiles } [.edited firstEdits]).session.files ∧
      after = (meet turnWatcher { files := turnedFiles }
        [.modified firstEdits firstPair.src false]).session.files ∧
      before.resolve firstPair.src ∈ turnWatcher.watched ∧
      Independent {} (some Path.here) before turnWatcher.config.write ∧
      (turnWatcher.config.output before latePair).isOk = false ∧
      (after.fileAt? (before.resolve latePair.dst)).isSome = true ∧
      before.fileAt? (before.resolve latePair.dst) = none ∧
      (turnWatcher.config.output after earlyPair).isOk = true ∧
      after.fileAt? (before.resolve earlyPair.dst) = none := by
  exact ⟨.of_checks (by decide +kernel) (by decide +kernel), by decide +kernel,
    ⟨by decide +kernel, by decide +kernel⟩, _, _, rfl, rfl, by decide +kernel,
    .of_checks (by decide +kernel) (by decide +kernel) (by decide +kernel) (by decide +kernel),
    by decide +kernel, by decide +kernel, by decide +kernel, by decide +kernel, by decide +kernel⟩

end Haml
