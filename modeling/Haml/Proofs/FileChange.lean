import Haml.Proofs.BatchResult
import Mathlib.Logic.Relation

/-!
# Changes of a file system

Whatever delivers, removes or builds files does so in three kinds of steps. It makes a directory
where nothing is, it writes a file where no directory is, and it removes a file, each in a directory
that is there. Files are changed only at the places that the operation is asked for, and directories
are made elsewhere at most where nothing was.
-/

namespace Haml

namespace FileSystem

variable {files now : FileSystem} {path : Path} {place q : Place} {content : FileContent}
  {writes : Place → Prop}

/-- One change, with files written or removed at certain places only. -/
inductive Step (writes : Place → Prop) (files : FileSystem) : FileSystem → Prop
  | makeDirectory {place : Place} (hplace : files.lookup? place = none)
      (haccepts : files.Accepts place) : Step writes files (files.put place .directory)
  | writeFile {place : Place} (hwrites : writes place) (haccepts : files.Accepts place)
      (content : FileContent) : Step writes files (files.put place (.file content))
  | removeFile {place : Place} {content : FileContent} (hwrites : writes place)
      (hplace : files.lookup? place = some (.file content)) :
      Step writes files (files.erase place)

/-- Some changes one after the other. -/
def Evolves (writes : Place → Prop) : FileSystem → FileSystem → Prop :=
  Relation.ReflTransGen (Step writes)

/-- What a path leads to is at the place that it names. -/
theorem target_of_find {found : Found} (hfind : files.find path = .ok found)
    (htarget : found.target? = some place) :
    place = files.resolve path ∧ files.lookup? place = found.held? := by
  obtain ⟨-, hwalk⟩ := walk_of_find hfind
  obtain ⟨-, -, -, -, -, -, hplace⟩ := walk_target hwalk htarget
  exact ⟨hplace, lookup?_of_walk hwalk htarget⟩

/-- Removing a file does not move the working directory. -/
theorem workPlace_erase (files : FileSystem) (place : Place) :
    (files.erase place).workPlace = files.workPlace := by
  rw [erase]
  split <;> rfl

/-- A change does not move the working directory. -/
theorem Step.workPlace_eq (h : Step writes files now) : now.workPlace = files.workPlace := by
  cases h with
  | makeDirectory | writeFile => exact workPlace_put _ _ _
  | removeFile => exact workPlace_erase _ _

/-- A change leaves the files at all other places as they are. -/
theorem Step.fileAt?_eq (h : Step writes files now) (hq : ¬writes q) :
    now.fileAt? q = files.fileAt? q := by
  have hne {place : Place} (hwrites : writes place) : q ≠ place := by
    rintro rfl
    exact hq hwrites
  cases h with
  | makeDirectory hplace haccepts =>
    rw [fileAt?, fileAt?, lookup?_put haccepts]
    split_ifs with heq
    · rw [heq, hplace]
    · rfl
  | writeFile hwrites haccepts content =>
    rw [fileAt?, fileAt?, lookup?_put haccepts, if_neg (hne hwrites)]
  | removeFile hwrites hplace =>
    rw [fileAt?, fileAt?, lookup?_erase (by rw [hplace]; simp), if_neg (hne hwrites)]

namespace Evolves

/-- Files that do not change have evolved. -/
theorem refl (files : FileSystem) : Evolves writes files files := Relation.ReflTransGen.refl

/-- Files that have evolved twice have evolved. -/
theorem trans {later : FileSystem} (h : Evolves writes files now)
    (hlater : Evolves writes now later) : Evolves writes files later :=
  Relation.ReflTransGen.trans h hlater

/-- Files that evolve keep their working directory. -/
theorem workPlace_eq (h : Evolves writes files now) : now.workPlace = files.workPlace := by
  induction h with
  | refl => rfl
  | tail _ hstep ih => exact hstep.workPlace_eq.trans ih

/-- In files that evolve a path names the same place throughout. -/
theorem resolve_eq (h : Evolves writes files now) (path : Path) :
    now.resolve path = files.resolve path := by
  rw [resolve, start_of_workPlace h.workPlace_eq]
  rfl

/-- Files stay as they are at all other places. -/
theorem fileAt?_eq (h : Evolves writes files now) (hq : ¬writes q) :
    now.fileAt? q = files.fileAt? q := by
  induction h with
  | refl => rfl
  | tail _ hstep ih => exact (hstep.fileAt?_eq hq).trans ih

end Evolves

/-- Ensuring a directory is a change that writes no file. -/
theorem evolves_ensureDirectory (files : FileSystem) (path : Path) :
    Evolves writes files (files.ensureDirectory path).files := by
  cases hfind : files.find path with
  | ok found =>
    cases found with
    | missing place =>
      rw [ensureDirectory_of_missing hfind]
      exact .single (.makeDirectory (target_of_find hfind rfl).2 (accepts_of_find hfind rfl))
    | _ =>
      simp only [ensureDirectory, makeDirectory, hfind]
      split <;> exact .refl files
  | error fault =>
    simp only [ensureDirectory, makeDirectory, hfind]
    split <;> exact .refl files

/-- Ensuring all directories of a path is a change that writes no file. -/
theorem evolves_ensureDirectories (files : FileSystem) (path : Path) :
    Evolves writes files (files.ensureDirectories path).files := by
  fun_induction ensureDirectories files path with
  | case1 path change _ _ _ => exact evolves_ensureDirectory files path
  | case2 path change _ _ _ above _ _ ih => exact ih
  | case3 path change _ _ _ above _ ih => exact ih.trans (evolves_ensureDirectory _ path)
  | case4 path change _ => exact evolves_ensureDirectory files path

/-- Storing a file is a change at the place that its path names. -/
theorem evolves_store (hwrites : writes (files.resolve path))
    (hstore : files.store path content = .ok now) : Evolves writes files now := by
  obtain ⟨found, place, hfind, htarget, rfl⟩ := exists_target_of_store hstore
  have haccepts := accepts_of_find hfind htarget
  obtain ⟨rfl, -⟩ := target_of_find hfind htarget
  exact .single (.writeFile hwrites haccepts content)

/-- A delivery changes no other file, whether it succeeds or not. -/
theorem evolves_deliver (hwrites : writes (files.resolve path)) (content : FileContent) :
    Evolves writes files (files.deliver path content).files := by
  have hmade : Evolves writes files (files.ensureDirectories path.parent).files :=
    evolves_ensureDirectories files path.parent
  rw [deliver]
  split
  · exact hmade
  · split
    · rename_i stored hstored
      rw [← hmade.resolve_eq] at hwrites
      exact hmade.trans (evolves_store hwrites (mapError_eq_ok_iff.mp hstored))
    · exact hmade

/-- Removing a file is a change at the place that its path names. -/
theorem evolves_remove (hwrites : writes (files.resolve path)) :
    Evolves writes files (files.remove path) := by
  rw [remove]
  split
  · rename_i place content hfind
    obtain ⟨rfl, hheld⟩ := target_of_find hfind rfl
    exact .single (.removeFile hwrites hheld)
  · exact .refl files

/-- Edits are changes at the places that their paths name. -/
theorem evolves_applyAll {edits : List Edit}
    (hwrites : ∀ edit ∈ edits, writes (files.resolve edit.path)) :
    Evolves writes files (files.applyAll edits) := by
  induction edits generalizing files with
  | nil => exact .refl files
  | cons edit edits ih =>
    obtain ⟨hedit, hrest⟩ := List.forall_mem_cons.mp hwrites
    have hone : Evolves writes files (files.apply edit) := by
      rw [apply]
      split
      · exact evolves_deliver hedit _
      · exact evolves_remove hedit
    refine hone.trans (ih fun other hother => ?_)
    rw [hone.resolve_eq]
    exact hrest other hother

end FileSystem

open FileSystem (Evolves)

/-- A build changes no file but the targets of its pairs. -/
theorem evolves_build {options : Options} {base : Option Path} {files : FileSystem}
    {pairs : List WritePair} {writes : Place → Prop}
    (hwrites : ∀ pair ∈ pairs, writes (files.resolve pair.dst)) :
    Evolves writes files (build options base files pairs).files := by
  induction pairs generalizing files with
  | nil => exact .refl files
  | cons pair pairs ih =>
    obtain ⟨hpair, hrest⟩ := List.forall_mem_cons.mp hwrites
    rw [build]
    split
    · split
      · exact ih hrest
      · exact .refl files
    · rename_i code _
      have hone : Evolves writes files (files.deliver pair.dst code).files :=
        FileSystem.evolves_deliver hpair code
      dsimp only
      split
      · exact hone
      · refine hone.trans (ih fun other hother => ?_)
        rw [hone.resolve_eq]
        exact hrest other hother

end Haml
