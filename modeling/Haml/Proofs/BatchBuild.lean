import Haml.Build
import Haml.Proofs.Delivery
import Haml.Proofs.Fallible
import Mathlib.Control.Monad.Basic

/-!
# What becomes of the pairs of a build

A build takes its pairs in order. A pair whose template has an error or cannot be read is reported
and the build goes on, without a change to any file; a pair whose template compiles is written, and
its target then holds the code. `Halts` gives the causes that neither outcome covers: the template
is not below the base directory, its path has a null character, its file holds bytes that are no
text, a compilation fails for something that is no error of the template, or the target cannot be
written. The first pair with one of these ends the build, and none after it is looked at.

The append law `build_append` lets a build be cut at any pair, and `build_single_cases` says what
becomes of one pair; together they account for all.
-/

namespace Haml

namespace BuildReport

variable {report : BuildReport} {next : FileSystem → BuildReport}

/-- A build that goes on, unless it stopped, from the file system it left. -/
def andThen (report : BuildReport) (next : FileSystem → BuildReport) : BuildReport :=
  if report.stopped.isSome then report
  else
    { files := (next report.files).files
      skipped := report.skipped ++ (next report.files).skipped
      log := report.log ++ (next report.files).log
      stopped := (next report.files).stopped }

/-- Nothing is done after a stop. -/
theorem andThen_of_some {failure : Failure} (h : report.stopped = some failure) :
    report.andThen next = report := by
  simp [andThen, h]

/-- Without a stop the reports are put together, and the files are those of the second part. -/
theorem andThen_of_none (h : report.stopped = none) :
    report.andThen next =
      { files := (next report.files).files
        skipped := report.skipped ++ (next report.files).skipped
        log := report.log ++ (next report.files).log
        stopped := (next report.files).stopped } := by
  simp [andThen, h]

/-- Two parts do not stop exactly if neither does, the second from the files of the first. -/
theorem stopped_andThen_eq_none_iff :
    (report.andThen next).stopped = none ↔
      report.stopped = none ∧ (next report.files).stopped = none := by
  cases h : report.stopped with
  | none => simp [andThen_of_none h]
  | some failure => simp [andThen_of_some h, h]

/-- Two parts stop for the failure of the first, or of the second if the first does not stop. -/
theorem stopped_andThen_eq_some_iff {failure : Failure} :
    (report.andThen next).stopped = some failure ↔
      report.stopped = some failure ∨
        report.stopped = none ∧ (next report.files).stopped = some failure := by
  cases h : report.stopped with
  | none => simp [andThen_of_none h]
  | some other => simp [andThen_of_some h, h]

/-- A pair is skipped in the first part, or in the second if the first does not stop. -/
theorem mem_skipped_andThen_iff {entry : Skipped} :
    entry ∈ (report.andThen next).skipped ↔
      entry ∈ report.skipped ∨
        report.stopped = none ∧ entry ∈ (next report.files).skipped := by
  cases h : report.stopped with
  | none => simp [andThen_of_none h]
  | some failure => simp [andThen_of_some h]

/-- A pair that is skipped before the first part is skipped before both. -/
theorem skip_andThen (pair : WritePair) (failure : Failure) :
    (report.skip pair failure).andThen next = (report.andThen next).skip pair failure := by
  cases h : report.stopped <;> simp [andThen, skip, h]

/-- A pair that is written before the first part is written before both. -/
theorem written_andThen (pair : WritePair) :
    (report.written pair).andThen next = (report.andThen next).written pair := by
  cases h : report.stopped <;> simp [andThen, written, h]

end BuildReport

open BuildReport

section Build

variable {options : Options} {base : Option Path} {files : FileSystem}
  {pair : WritePair} {pairs : List WritePair}

/-- The pairs of two lists are built one list after the other. -/
theorem build_append (options : Options) (base : Option Path) (files : FileSystem)
    (first second : List WritePair) :
    build options base files (first ++ second) =
      (build options base files first).andThen fun files => build options base files second := by
  induction first generalizing files with
  | nil => rfl
  | cons pair rest ih =>
    simp only [List.cons_append, build]
    split
    · split
      · rw [ih, skip_andThen]
      · rfl
    · split
      · rfl
      · rw [ih, written_andThen]

/-- Why a pair can be neither written nor skipped. -/
inductive Halts (options : Options) (base : Option Path) (files : FileSystem) (pair : WritePair) :
    Failure → Prop
  /-- There is no name for the template. -/
  | noName {error : Path.Error} (hname : templateName pair.src base = .error error) :
      Halts options base files pair (.path error)
  /-- The path of the template has a null character. -/
  | nullByte {name : Text} (hname : templateName pair.src base = .ok name)
      (hnull : '\x00' ∈ pair.src.text) :
      Halts options base files pair (.file ⟨.nullByte, pair.src.text⟩)
  /-- The file of the template holds bytes that are no text. -/
  | undecodable {name : Text} {place : Place} {raw : RawBytes}
      (hname : templateName pair.src base = .ok name)
      (hfind : files.find pair.src = .ok (.file place (.raw raw))) :
      Halts options base files pair (.file ⟨.undecodable raw.fault, pair.src.text⟩)
  /-- The compilation fails, but not for an error of the template. -/
  | noCode {name source : Text} {failure : CompileFailure}
      (hname : templateName pair.src base = .ok name) (hread : files.read pair.src = .ok source)
      (hcompile : compile options source name [] = .error failure)
      (hother : ∀ error, failure ≠ .template error) :
      Halts options base files pair (.compile failure)
  /-- The target cannot be written. -/
  | noTarget {code : Text} {error : FileError}
      (hcompile : compileFile options files pair.src base [] [] = .ok code)
      (hdeliver : (files.deliver pair.dst code).error = some error) :
      Halts options base files pair (.file error)

/-- The failures of a file's compilation, in the order in which they are found. -/
theorem compileFile_eq_error_iff {path : Path} {failure : Failure} :
    compileFile options files path base [] [] = .error failure ↔
      (∃ error, templateName path base = .error error ∧ failure = .path error) ∨
      ∃ name, templateName path base = .ok name ∧
        ((∃ error, files.read path = .error error ∧ failure = .file error) ∨
        ∃ source, files.read path = .ok source ∧
          ∃ error, compile options source name [] = .error error ∧ failure = .compile error) := by
  have hfile : compileFile options files path base [] [] =
      (templateName path base).mapError .path >>= fun name =>
        (files.read path).mapError .file >>= fun source =>
          (compile options source name []).mapError .compile := rfl
  simp only [hfile, bind_eq_error_iff, mapError_eq_error_iff, mapError_eq_ok_iff]

/-- A pair halts a build if the compilation fails in a way that is not skipped, or if the target
cannot be written. -/
theorem halts_iff {failure : Failure} :
    Halts options base files pair failure ↔
      (compileFile options files pair.src base [] [] = .error failure ∧
        failure.isSkipped = false) ∨
      ∃ code error, compileFile options files pair.src base [] [] = .ok code ∧
        (files.deliver pair.dst code).error = some error ∧ failure = .file error := by
  constructor
  · intro h
    cases h with
    | noName hname => exact .inl ⟨compileFile_eq_error_iff.mpr (.inl ⟨_, hname, rfl⟩), rfl⟩
    | nullByte hname hnull =>
      obtain ⟨hread, -⟩ : files.read pair.src = .error _ ∧ _ :=
        FileSystem.read_eq_error_iff.mpr (.inl ⟨hnull, rfl⟩)
      exact .inl ⟨compileFile_eq_error_iff.mpr (.inr ⟨_, hname, .inl ⟨_, hread, rfl⟩⟩), rfl⟩
    | undecodable hname hfind =>
      obtain ⟨hread, -⟩ :=
        FileSystem.read_eq_error_iff.mpr (.inr ⟨_, _, hfind, RawBytes.ne_encode _, rfl⟩)
      exact .inl ⟨compileFile_eq_error_iff.mpr (.inr ⟨_, hname, .inl ⟨_, hread, rfl⟩⟩), rfl⟩
    | @noCode name source failure hname hread hcompile hother =>
      refine .inl ⟨compileFile_eq_error_iff.mpr
        (.inr ⟨_, hname, .inr ⟨_, hread, _, hcompile, rfl⟩⟩), ?_⟩
      cases failure with
      | template error => exact absurd rfl (hother error)
      | _ => rfl
    | noTarget hcompile hdeliver => exact .inr ⟨_, _, hcompile, hdeliver, rfl⟩
  · rintro (⟨hfile, hskip⟩ | ⟨code, error, hcompile, hdeliver, rfl⟩)
    · obtain ⟨error, hname, rfl⟩ | ⟨name, hname, ⟨error, hread, rfl⟩ |
        ⟨source, hread, error, hcompile, rfl⟩⟩ := compileFile_eq_error_iff.mp hfile
      · exact .noName hname
      · obtain ⟨hnull, rfl⟩ | ⟨place, raw, hfind, -, rfl⟩ :=
          FileSystem.read_eq_error_iff.mp ⟨hread, hskip⟩
        · exact .nullByte hname hnull
        · exact .undecodable hname hfind
      · refine .noCode hname hread hcompile ?_
        rintro fault rfl
        simp [Failure.isSkipped] at hskip
    · exact .noTarget hcompile hdeliver

/-- What a build does with one pair. -/
theorem build_single_cases (options : Options) (base : Option Path) (files : FileSystem)
    (pair : WritePair) :
    (∃ code place, compileFile options files pair.src base [] [] = .ok code ∧
      (build options base files [pair]).stopped = none ∧
      (build options base files [pair]).skipped = [] ∧
      (build options base files [pair]).files.find pair.dst = .ok (.file place code)) ∨
    (∃ failure, compileFile options files pair.src base [] [] = .error failure ∧
      failure.isSkipped ∧ build options base files [pair] = (nothing files).skip pair failure) ∨
    ∃ failure left, Halts options base files pair failure ∧
      build options base files [pair] = stop left failure := by
  simp only [build]
  split
  · rename_i failure hfile
    split
    · rename_i hskip
      exact .inr (.inl ⟨failure, hfile, hskip, rfl⟩)
    · rename_i hskip
      exact .inr (.inr ⟨failure, files, halts_iff.mpr (.inl ⟨hfile, by simpa using hskip⟩), rfl⟩)
  · rename_i code hfile
    split
    · rename_i error hdeliver
      exact .inr (.inr ⟨.file error, _, .noTarget hfile hdeliver, rfl⟩)
    · rename_i hdeliver
      obtain ⟨place, hfind⟩ := FileSystem.find_deliver hdeliver
      exact .inl ⟨code, place, hfile, rfl, rfl, hfind⟩

/-- One pair ends the build exactly if it can be neither written nor skipped. -/
theorem stopped_build_single_iff {failure : Failure} :
    (build options base files [pair]).stopped = some failure ↔
      Halts options base files pair failure := by
  constructor
  · intro h
    obtain ⟨code, place, -, hnone, -⟩ | ⟨other, -, -, hbuild⟩ | ⟨other, left, hhalts, hbuild⟩ :=
      build_single_cases options base files pair
    · simp [hnone] at h
    · simp [hbuild, skip, nothing] at h
    · obtain rfl : other = failure := by simpa [hbuild, stop] using h
      exact hhalts
  · intro h
    obtain ⟨hfile, hskip⟩ | ⟨code, error, hfile, hdeliver, rfl⟩ := halts_iff.mp h
    · simp [build, hfile, hskip, stop]
    · simp [build, hfile, hdeliver, stop]

/-- One pair is skipped exactly for a failure of its compilation that a build skips. -/
theorem mem_skipped_build_single_iff {entry : Skipped} :
    entry ∈ (build options base files [pair]).skipped ↔
      entry.pair = pair ∧ compileFile options files pair.src base [] [] = .error entry.failure ∧
        entry.failure.isSkipped := by
  constructor
  · intro h
    obtain ⟨code, place, -, -, hnone, -⟩ | ⟨failure, hfile, hskip, hbuild⟩ |
      ⟨failure, left, -, hbuild⟩ := build_single_cases options base files pair
    · simp [hnone] at h
    · obtain rfl : entry = ⟨pair, failure⟩ := by simpa [hbuild, skip, nothing] using h
      exact ⟨rfl, hfile, hskip⟩
    · simp [hbuild, stop] at h
  · rintro ⟨rfl, hfile, hskip⟩
    simp [build, hfile, hskip, skip]

/-- The pairs before a pair are built without a stop, and leave a file system for it. -/
def Reaches (options : Options) (base : Option Path) (files : FileSystem) (pairs : List WritePair)
    (pair : WritePair) (now : FileSystem) : Prop :=
  ∃ before after, pairs = before ++ pair :: after ∧
    (build options base files before).stopped = none ∧
    (build options base files before).files = now

/-- A pair is reached at the head of the list, or behind it if the head does not end the build. -/
theorem reaches_cons {first : WritePair} {now : FileSystem} :
    Reaches options base files (first :: pairs) pair now ↔
      (pair = first ∧ now = files) ∨
        (build options base files [first]).stopped = none ∧
          Reaches options base (build options base files [first]).files pairs pair now := by
  constructor
  · rintro ⟨before, after, hsplit, hstopped, rfl⟩
    cases before with
    | nil =>
      obtain ⟨rfl, -⟩ := List.cons.inj hsplit
      exact .inl ⟨rfl, rfl⟩
    | cons head before =>
      obtain ⟨rfl, rfl⟩ := List.cons.inj hsplit
      rw [← List.singleton_append, build_append] at hstopped ⊢
      obtain ⟨hfirst, hrest⟩ := stopped_andThen_eq_none_iff.mp hstopped
      exact .inr ⟨hfirst, before, after, rfl, hrest, by rw [andThen_of_none hfirst]⟩
  · rintro (⟨rfl, rfl⟩ | ⟨hfirst, before, after, rfl, hrest, rfl⟩)
    · exact ⟨[], pairs, rfl, rfl, rfl⟩
    · refine ⟨first :: before, after, rfl, ?_⟩
      rw [← List.singleton_append, build_append, andThen_of_none hfirst]
      exact ⟨hrest, rfl⟩

/-- A build of no pairs reaches none. -/
theorem not_reaches_nil {now : FileSystem} : ¬Reaches options base files [] pair now := by
  rintro ⟨before, after, hsplit, -⟩
  simp at hsplit

/-- A build stops exactly for a pair that it reaches and that halts it. -/
theorem stopped_build_iff {failure : Failure} :
    (build options base files pairs).stopped = some failure ↔
      ∃ pair now, Reaches options base files pairs pair now ∧
        Halts options base now pair failure := by
  induction pairs generalizing files with
  | nil => simp [build, nothing, not_reaches_nil]
  | cons first rest ih =>
    rw [← List.singleton_append, build_append, stopped_andThen_eq_some_iff, ih,
      stopped_build_single_iff, List.singleton_append]
    simp only [reaches_cons, or_and_right, exists_or, and_assoc, exists_and_left, exists_eq_left]

/-- The skipped pairs are exactly those that are reached and whose compilation fails in a way that a
build skips. -/
theorem mem_skipped_build_iff {entry : Skipped} :
    entry ∈ (build options base files pairs).skipped ↔
      ∃ now, Reaches options base files pairs entry.pair now ∧
        compileFile options now entry.pair.src base [] [] = .error entry.failure ∧
        entry.failure.isSkipped := by
  induction pairs generalizing files with
  | nil => simp [build, nothing, not_reaches_nil]
  | cons first rest ih =>
    rw [← List.singleton_append, build_append, mem_skipped_andThen_iff, ih,
      mem_skipped_build_single_iff, List.singleton_append]
    simp only [reaches_cons, or_and_right, exists_or, and_assoc, exists_and_left, exists_eq_left]
    refine or_congr_left (and_congr_right ?_)
    rintro rfl
    rfl

/-- A build stops exactly for a pair that halts it, and reports exactly the pairs it skips. If it
does not stop it reaches every pair. A pair that it reaches is written, or skipped without a change
to any file, and the build goes on; or it halts the build, and nothing more is done. -/
theorem build_accounting (options : Options) (base : Option Path) (files : FileSystem)
    (pairs : List WritePair) :
    (∀ failure, (build options base files pairs).stopped = some failure ↔
      ∃ pair now, Reaches options base files pairs pair now ∧
        Halts options base now pair failure) ∧
    (∀ entry, entry ∈ (build options base files pairs).skipped ↔
      ∃ now, Reaches options base files pairs entry.pair now ∧
        compileFile options now entry.pair.src base [] [] = .error entry.failure ∧
        entry.failure.isSkipped) ∧
    ∀ before pair after done next, pairs = before ++ pair :: after →
      build options base files before = done → build options base files (before ++ [pair]) = next →
      ((build options base files pairs).stopped = none → done.stopped = none) ∧
      (done.stopped = none →
        (∃ code place, compileFile options done.files pair.src base [] [] = .ok code ∧
          next.files.find pair.dst = .ok (.file place code) ∧
          next.skipped = done.skipped ∧ next.stopped = none) ∨
        (∃ failure, compileFile options done.files pair.src base [] [] = .error failure ∧
          failure.isSkipped ∧ next.files = done.files ∧
          next.skipped = done.skipped ++ [⟨pair, failure⟩] ∧ next.stopped = none) ∨
        ∃ failure, Halts options base done.files pair failure ∧
          next.skipped = done.skipped ∧ next.stopped = some failure ∧
          build options base files pairs = next) := by
  refine ⟨fun failure => stopped_build_iff, fun entry => mem_skipped_build_iff, ?_⟩
  rintro before pair after _ _ rfl rfl rfl
  constructor
  · intro hstopped
    rw [build_append] at hstopped
    exact (stopped_andThen_eq_none_iff.mp hstopped).1
  intro hdone
  have hnext : build options base files (before ++ [pair]) = _ :=
    (build_append options base files before [pair]).trans (andThen_of_none hdone)
  obtain ⟨code, place, hfile, hstopped, hskipped, hfind⟩ | ⟨failure, hfile, hskip, hsingle⟩ |
    ⟨failure, left, hhalts, hsingle⟩ :=
      build_single_cases options base (build options base files before).files pair
  · refine .inl ⟨code, place, hfile, ?_⟩
    rw [hnext]
    exact ⟨hfind, by simp [hskipped], hstopped⟩
  · refine .inr (.inl ⟨failure, hfile, hskip, ?_⟩)
    rw [hnext]
    simp [hsingle, skip, nothing]
  · have hstop : (build options base files (before ++ [pair])).stopped = some failure := by
      rw [hnext, hsingle]
      rfl
    refine .inr (.inr ⟨failure, hhalts, ?_, hstop, ?_⟩)
    · rw [hnext]
      simp [hsingle, stop]
    · rw [← List.singleton_append, ← List.append_assoc, build_append, andThen_of_some hstop]

end Build

/-- A template outside the directory that names start from, and one in it. -/
def strayFiles : FileSystem :=
  { workPlace := []
    entries :=
      [(["other".toList], .directory),
        (["other".toList, "a.haml".toList], .file "%p a\n".toList),
        (["templates".toList], .directory),
        (["templates".toList, "b.haml".toList], .file "%p b\n".toList)] }

/-- The directory that names start from in `strayFiles`. -/
def strayBase : Path := Path.ofText "templates".toList

/-- The pair of the template that is outside. -/
def strayPair : WritePair := ⟨Path.ofText "other/a.haml".toList, Path.ofText "out/a".toList⟩

/-- The pair of the template that is inside. -/
def innerPair : WritePair := ⟨Path.ofText "templates/b.haml".toList, Path.ofText "out/b".toList⟩

/-- The template outside has no name, so the build ends: no pair is reported as skipped, and the
next one, which compiles, is not written. -/
theorem build_accounting_strayPair :
    ∃ report, build {} (some strayBase) strayFiles [strayPair, innerPair] = report ∧
      report.stopped = some (.path (.outside strayPair.src strayBase)) ∧ report.skipped = [] ∧
      report.files.find innerPair.dst = .error .notFound ∧
      (compileFile {} strayFiles innerPair.src (some strayBase) [] []).isOk := by
  have hfirst : compileFile {} strayFiles strayPair.src (some strayBase) [] [] =
      .error (.path (.outside strayPair.src strayBase)) := by decide +kernel
  obtain ⟨hstopped, -, hcases⟩ := build_accounting {} (some strayBase) strayFiles
    [strayPair, innerPair]
  refine ⟨_, rfl, ?_, ?_, by decide +kernel, by decide +kernel⟩
  · rw [hstopped]
    exact ⟨strayPair, strayFiles, ⟨[], [innerPair], rfl, rfl, rfl⟩, .noName (by decide +kernel)⟩
  · obtain ⟨code, place, hfile, -⟩ | ⟨failure, hfile, hskip, -⟩ |
      ⟨failure, -, hskipped, -, hreport⟩ :=
      (hcases [] strayPair [innerPair] _ _ rfl rfl rfl).2 rfl
    · cases hfirst.symm.trans hfile
    · obtain rfl := Except.error.inj (hfirst.symm.trans hfile)
      cases hskip
    · rw [hreport, hskipped]
      rfl

end Haml
