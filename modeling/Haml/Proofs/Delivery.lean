import Haml.FileSystem
import Mathlib.Tactic.SplitIfs

/-!
# Delivered files

Writing a file changes what one place holds, and no directory that leads to it. So the path that was
written leads, afterwards, to the file with the new content. A read that fails without a fault of
the file system has one of two causes: a null character in the path, or bytes that are no text.
-/

namespace Haml

/-- The place where a file can be written: that of a file, or one that holds nothing. -/
def Found.target? : Found → Option Place
  | directory _ => none
  | file place _ | missing place => some place

/-- What is held where a path leads. -/
def Found.held? : Found → Option Entry
  | directory _ => some .directory
  | file _ content => some (.file content)
  | missing _ => none

namespace FileSystem

variable {files : FileSystem} {path : Path} {place : Place} {content : FileContent}

/-- Every path starts from a directory. -/
theorem lookup?_start (files : FileSystem) (path : Path) :
    files.lookup? (files.start path) = some .directory := by
  rw [start]
  split
  · exact files.work
  · rfl

/-- A component leads from a directory into a directory. -/
theorem lookup?_dropLast_advance {start : Place} (h : files.lookup? start = some .directory)
    (part : Text) : files.lookup? (advance start part).dropLast = some .directory := by
  rw [advance]
  split_ifs
  · exact lookup?_dropLast (lookup?_dropLast h)
  · exact lookup?_dropLast h
  · rw [List.dropLast_concat]
    exact h

/-- A walk finds what the place it ends at holds. -/
theorem lookup?_of_walk {start : Place} {parts : List Text} {found : Found}
    (h : files.walk start parts = .ok found) (htarget : found.target? = some place) :
    files.lookup? place = found.held? := by
  induction parts generalizing start with
  | nil =>
    obtain rfl : Found.directory start = found := Except.ok.inj h
    simp [Found.target?] at htarget
  | cons part rest ih =>
    rw [walk] at h
    split at h
    · simp at h
    · split at h
      · exact ih h
      all_goals
        split at h
        · obtain rfl := Except.ok.inj h
          obtain rfl := Option.some.inj htarget
          assumption
        · simp at h

/-- What a walk finds lies in a directory. -/
theorem lookup?_dropLast_of_walk {start : Place} {parts : List Text} {found : Found}
    (hstart : files.lookup? start = some .directory) (h : files.walk start parts = .ok found)
    (htarget : found.target? = some place) :
    files.lookup? place.dropLast = some .directory := by
  induction parts generalizing start with
  | nil =>
    obtain rfl : Found.directory start = found := Except.ok.inj h
    cases htarget
  | cons part rest ih =>
    rw [walk] at h
    split at h
    · cases h
    · split at h
      · exact ih ‹_› h
      all_goals
        split at h
        · obtain rfl := Except.ok.inj h
          obtain rfl := Option.some.inj htarget
          exact lookup?_dropLast_advance hstart part
        · cases h

/-- An entry can be put where a walk finds a file, or nothing. -/
theorem accepts_of_walk {start : Place} {parts : List Text} {found : Found}
    (hstart : files.lookup? start = some .directory) (h : files.walk start parts = .ok found)
    (htarget : found.target? = some place) : files.Accepts place := by
  refine ⟨?_, lookup?_dropLast_of_walk hstart h htarget⟩
  rw [lookup?_of_walk h htarget]
  cases found <;> simp_all [Found.target?, Found.held?]

/-- A path that is accepted leads where its components lead from its start on. -/
theorem walk_of_find {found : Found} (h : files.find path = .ok found) :
    refusal? path.text = none ∧ files.walk (files.start path) path.parts = .ok found := by
  rw [find] at h
  split at h
  · cases h
  · exact ⟨‹_›, h⟩

/-- The same for what a path leads to. -/
theorem accepts_of_find {found : Found} (h : files.find path = .ok found)
    (htarget : found.target? = some place) : files.Accepts place :=
  accepts_of_walk (files.lookup?_start path) (walk_of_find h).2 htarget

/-- A new entry does not change where relative paths start. -/
theorem workPlace_put (files : FileSystem) (place : Place) (entry : Entry) :
    (files.put place entry).workPlace = files.workPlace := by
  rw [put]
  split <;> rfl

/-- Paths start alike where the working directory is the same. -/
theorem start_of_workPlace {now : FileSystem} (h : now.workPlace = files.workPlace) (path : Path) :
    now.start path = files.start path := by
  simp [start, h]

/-- The walk that led to the place of a written file leads to the file. The directories on the way
are not where it was written. -/
theorem walk_put {start : Place} {parts : List Text} {found : Found}
    (hplace : files.Accepts place) (h : files.walk start parts = .ok found)
    (htarget : found.target? = some place) :
    (files.put place (.file content)).walk start parts = .ok (.file place content) := by
  induction parts generalizing start with
  | nil =>
    obtain rfl : Found.directory start = found := Except.ok.inj h
    simp [Found.target?] at htarget
  | cons part rest ih =>
    rw [walk] at h ⊢
    simp only [lookup?_put hplace]
    split at h
    · simp at h
    · rw [if_neg ‹_›]
      split at h
      · rename_i hnext
        have : advance start part ≠ place := fun heq => hplace.1 (heq ▸ hnext)
        rw [if_neg this, hnext]
        exact ih h
      all_goals
        split at h
        · obtain rfl := Except.ok.inj h
          obtain rfl := Option.some.inj htarget
          simp_all
        · simp at h

/-- A content is stored where the path leads, at a place that can hold a file. -/
theorem exists_target_of_store {stored : FileSystem} (h : files.store path content = .ok stored) :
    ∃ found place, files.find path = .ok found ∧ found.target? = some place ∧
      files.put place (.file content) = stored := by
  rw [store] at h
  split at h
  · exact ⟨_, _, ‹_›, rfl, Except.ok.inj h⟩
  · exact ⟨_, _, ‹_›, rfl, Except.ok.inj h⟩
  all_goals simp at h

/-- A successful delivery stores the content once the directories are there. -/
theorem store_of_deliver (h : (files.deliver path content).error = none) :
    (files.ensureDirectories path.parent).files.store path content =
      .ok (files.deliver path content).files := by
  rw [deliver] at h ⊢
  split at h
  · simp_all
  · split at h
    · rename_i stored hstored
      rw [write] at hstored
      cases hstore : (files.ensureDirectories path.parent).files.store path content with
      | error fault =>
        rw [hstore] at hstored
        cases hstored
      | ok written =>
        rw [hstore] at hstored
        cases hstored
        rfl
    · simp at h

/-- What is delivered at a path is found there. -/
theorem find_deliver (h : (files.deliver path content).error = none) :
    ∃ place, (files.deliver path content).files.find path = .ok (.file place content) := by
  obtain ⟨found, place, hfind, htarget, hstored⟩ := exists_target_of_store (store_of_deliver h)
  refine ⟨place, ?_⟩
  obtain ⟨haccepted, hwalk⟩ := walk_of_find hfind
  rw [← hstored, find, haccepted, start_of_workPlace (workPlace_put _ _ _)]
  exact walk_put (accepts_of_find hfind htarget) hwalk htarget

/-- What stops a walk is a fault of the file system. -/
theorem isOfSystem_of_walk {start : Place} {parts : List Text} {fault : FileFault}
    (h : files.walk start parts = .error fault) : fault.isOfSystem = true := by
  induction parts generalizing start with
  | nil => cases h
  | cons part rest ih =>
    rw [walk] at h
    split at h
    · obtain rfl := Except.error.inj h
      rfl
    · split at h
      · exact ih h
      all_goals
        split at h
        · cases h
        · obtain rfl := Except.error.inj h
          rfl

/-- A path with a null character is refused before the file system is asked. -/
theorem find_of_null (files : FileSystem) (h : '\x00' ∈ path.text) :
    files.find path = .error .nullByte := by
  rw [find, refusal?, List.contains_iff_mem.mpr h, if_pos rfl]

/-- For any other path the file system answers. -/
theorem isOfSystem_of_find {fault : FileFault} (hnull : '\x00' ∉ path.text)
    (h : files.find path = .error fault) : fault.isOfSystem = true := by
  rw [find, refusal?, if_neg (mt List.contains_iff_mem.mp hnull)] at h
  split at h
  · rename_i hrefused
    split at hrefused
    · obtain rfl := Option.some.inj hrefused
      obtain rfl := Except.error.inj h
      rfl
    · cases hrefused
  · exact isOfSystem_of_walk h

/-- A failed read is no fault of the file system exactly if the path has a null character, or if the
file holds bytes that are no text. -/
theorem read_eq_error_iff {error : FileError} :
    files.read path = .error error ∧ error.fault.isOfSystem = false ↔
      ('\x00' ∈ path.text ∧ error = ⟨.nullByte, path.text⟩) ∨
      ∃ place raw, files.find path = .ok (.file place (.raw raw)) ∧
        (∀ t, raw.bytes ≠ Utf8.encode t) ∧ error = ⟨.undecodable raw.fault, path.text⟩ := by
  constructor
  · rintro ⟨hread, hsystem⟩
    by_cases hnull : '\x00' ∈ path.text
    · rw [read, find_of_null files hnull] at hread
      exact .inl ⟨hnull, (Except.error.inj hread).symm⟩
    rw [read] at hread
    split at hread
    · cases hread
    · rename_i place raw hfind
      exact .inr ⟨place, raw, hfind, raw.ne_encode, (Except.error.inj hread).symm⟩
    · obtain rfl := Except.error.inj hread
      cases hsystem
    · obtain rfl := Except.error.inj hread
      cases hsystem
    · rename_i fault hfind
      obtain rfl := Except.error.inj hread
      exact absurd (isOfSystem_of_find hnull hfind) (Bool.eq_false_iff.mp hsystem)
  · rintro (⟨hnull, rfl⟩ | ⟨place, raw, hfind, -, rfl⟩)
    · exact ⟨by rw [read, find_of_null files hnull], rfl⟩
    · exact ⟨by rw [read, hfind], rfl⟩

/-- Where a path leads to the same file, or to none both times, the reading ends alike: with the
same result, or with errors of the file system. -/
theorem read_of_find {now : FileSystem} (hfind : ∀ place content,
      now.find path = .ok (.file place content) ↔ files.find path = .ok (.file place content)) :
    now.read path = files.read path ∨
      ∃ error other, files.read path = .error error ∧ now.read path = .error other ∧
        error.fault.isOfSystem = true ∧ other.fault.isOfSystem = true := by
  by_cases hfile : ∃ place content, files.find path = .ok (.file place content)
  · obtain ⟨place, content, hfiles⟩ := hfile
    left
    rw [read, read, hfiles, (hfind place content).mpr hfiles]
  by_cases hnull : '\x00' ∈ path.text
  · left
    rw [read, read, find_of_null files hnull, find_of_null now hnull]
  have hread (files : FileSystem)
      (hfile : ∀ place content, files.find path ≠ .ok (.file place content)) :
      ∃ error, files.read path = .error error ∧ error.fault.isOfSystem = true := by
    cases hread : files.read path with
    | ok t =>
      rw [read] at hread
      split at hread <;> simp_all
    | error error =>
      refine ⟨error, rfl, ?_⟩
      cases hsystem : error.fault.isOfSystem with
      | true => rfl
      | false =>
        obtain ⟨hmem, -⟩ | ⟨place, raw, hraw, -⟩ := read_eq_error_iff.mp ⟨hread, hsystem⟩
        · exact absurd hmem hnull
        · exact absurd hraw (hfile place _)
  obtain ⟨error, hfiles, hsystem⟩ := hread files fun place content h => hfile ⟨place, content, h⟩
  obtain ⟨other, hnow, hother⟩ := hread now fun place content h =>
    hfile ⟨place, content, (hfind place content).mp h⟩
  exact .inr ⟨error, other, hfiles, hnow, hsystem, hother⟩

end FileSystem

end Haml
