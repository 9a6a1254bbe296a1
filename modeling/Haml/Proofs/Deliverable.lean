import Haml.Proofs.Delivery
import Mathlib.Data.List.Induction

/-!
# Where files can be delivered

A path comes through the places of its way and ends at its target. A file can be delivered exactly
if no file is on the way, no directory at the target, and the target not on the way itself. Then the
way consists of directories, the target is the file, and every other place holds what it held.
-/

namespace Haml

namespace Path

/-- A written path starts with the path above it. -/
theorem plainText_parent_isStart (path : Path) : path.parent.plainText <+: path.plainText := by
  have hjoin (parts : List Text) :
      List.intercalate ['/'] parts.dropLast <+: List.intercalate ['/'] parts := by
    induction parts with
    | nil => exact List.prefix_rfl
    | cons part rest ih =>
      match rest with
      | [] => exact List.nil_prefix
      | [last] => exact ⟨['/'] ++ last, by simp [List.intercalate_cons_cons]⟩
      | next :: last :: rest =>
        simp only [List.dropLast_cons_cons, List.intercalate_cons_cons] at ih ⊢
        exact (List.prefix_append_right_inj _).mpr ih
  exact (List.prefix_append_right_inj _).mpr (hjoin path.parts)

end Path

/-- Where a path leads whose target holds an entry or nothing. -/
def Found.of (place : Place) : Option Entry → Found
  | some .directory => .directory place
  | some (.file content) => .file place content
  | none => .missing place

namespace FileSystem

variable {files now : FileSystem} {path : Path} {place q : Place} {content : FileContent}
  {parts front : List Text} {last : Text}

/-- The places that a walk comes to, one for each component. -/
def trail (place : Place) : List Text → List Place
  | [] => []
  | part :: rest => advance place part :: trail (advance place part) rest

/-- The places that a path comes through before its end. -/
def way (files : FileSystem) (path : Path) : List Place :=
  trail (files.start path) path.parts.dropLast

/-- A walk with one more component comes to one more place. -/
theorem mem_trail_concat :
    q ∈ trail place (front ++ [last]) ↔
      q ∈ trail place front ∨ q = advance (front.foldl advance place) last := by
  induction front generalizing place with
  | nil => simp [trail]
  | cons part rest ih => simp [trail, ih, or_assoc]

/-- A path that is not empty comes through its way and to its target. -/
theorem mem_trail_iff (h : path.parts ≠ []) :
    q ∈ trail (files.start path) path.parts ↔ q ∈ files.way path ∨ q = files.resolve path := by
  obtain ⟨front, last, hparts⟩ : ∃ front last, path.parts = front ++ [last] :=
    ⟨_, _, (List.dropLast_concat_getLast h).symm⟩
  rw [way, resolve, hparts, List.dropLast_concat, List.foldl_append, mem_trail_concat]
  rfl

/-- A walk leads to a directory exactly if it comes through directories only. -/
theorem walk_eq_directory_iff :
    files.walk place parts = .ok (.directory q) ↔
      (∀ part ∈ parts, byteCount part ≤ maxNameBytes) ∧
        (∀ p ∈ trail place parts, files.lookup? p = some .directory) ∧
        parts.foldl advance place = q := by
  induction parts generalizing place with
  | nil => simp [walk, trail]
  | cons part rest ih =>
    rw [walk]
    split
    · simp only [reduceCtorEq, List.mem_cons, forall_eq_or_imp, false_iff]
      omega
    · simp only [trail, List.mem_cons, forall_eq_or_imp, List.foldl_cons]
      split
      · rw [ih]
        simp_all
      all_goals
        split <;> simp_all

/-- A walk goes on from the directory that its first part leads to. -/
theorem walk_append (h : files.walk place front = .ok (.directory q)) (back : List Text) :
    files.walk place (front ++ back) = files.walk q back := by
  induction front generalizing place with
  | nil =>
    obtain rfl := Found.directory.inj (Except.ok.inj h)
    rfl
  | cons part rest ih =>
    rw [walk] at h
    rw [List.cons_append, walk]
    split at h
    · simp at h
    · rw [if_neg ‹_›]
      split at h
      · exact ih h
      all_goals split at h <;> simp at h

/-- A walk that meets no file and does not come through directories only ends where something is
missing. -/
theorem walk_eq_notFound (hnames : ∀ part ∈ front, byteCount part ≤ maxNameBytes)
    (hfree : ∀ p ∈ trail place front, ∀ content, files.lookup? p ≠ some (.file content))
    (hgap : ¬∀ p ∈ trail place front, files.lookup? p = some .directory) :
    files.walk place (front ++ [last]) = .error .notFound := by
  induction front generalizing place with
  | nil => simp [trail] at hgap
  | cons part rest ih =>
    simp only [trail, List.mem_cons, forall_eq_or_imp] at hnames hfree hgap
    rw [List.cons_append, walk, if_neg (by omega)]
    split
    · rename_i hnext
      exact ih hnames.2 hfree.2 fun hall => hgap ⟨hnext, hall⟩
    · rename_i hnext
      exact absurd hnext (hfree.1 _)
    · simp

/-- A walk to where a file can be written comes through directories and ends at another place. -/
theorem walk_target {found : Found} (h : files.walk place parts = .ok found)
    (htarget : found.target? = some q) :
    ∃ front last, parts = front ++ [last] ∧ byteCount last ≤ maxNameBytes ∧
      (∀ part ∈ front, byteCount part ≤ maxNameBytes) ∧
      (∀ p ∈ trail place front, files.lookup? p = some .directory) ∧
      q = parts.foldl advance place := by
  induction parts generalizing place with
  | nil =>
    obtain rfl := Except.ok.inj h
    simp [Found.target?] at htarget
  | cons part rest ih =>
    rw [walk] at h
    split at h
    · simp at h
    · rename_i hpart
      split at h
      · rename_i hnext
        obtain ⟨front, last, rfl, hlast, hnames, htrail, rfl⟩ := ih h
        exact ⟨part :: front, last, rfl, hlast, by simpa using ⟨by omega, hnames⟩,
          by simpa [trail] using ⟨hnext, htrail⟩, rfl⟩
      all_goals
        split at h
        · rename_i hrest
          obtain rfl := List.isEmpty_iff.mp hrest
          obtain rfl := Except.ok.inj h
          obtain rfl := Option.some.inj htarget
          exact ⟨[], part, rfl, by omega, by simp, by simp [trail], rfl⟩
        · simp at h

/-- The bytes of two texts in a row are counted one after the other. -/
theorem byteCount_append (s t : Text) : byteCount (s ++ t) = byteCount s + byteCount t := by
  have hfold (t : Text) (n : Nat) :
      t.foldl (fun count c => count + c.utf8Size) n = n + byteCount t := by
    induction t generalizing n with
    | nil => rfl
    | cons c rest ih =>
      simp only [byteCount, List.foldl_cons]
      rw [ih, ih (0 + _)]
      omega
  rw [byteCount, List.foldl_append, hfold]
  rfl

/-- A name is not refused exactly if it has no null character and is not too long. -/
theorem refusal?_eq_none_iff {name : Text} :
    refusal? name = none ↔ '\x00' ∉ name ∧ byteCount name ≤ maxPathBytes := by
  rw [refusal?]
  split
  · simp_all
  · split <;> simp_all

/-- The path above an accepted path is accepted. -/
theorem refusal?_parent (h : refusal? path.text = none) : refusal? path.parent.text = none := by
  obtain ⟨rest, hrest⟩ := path.plainText_parent_isStart
  cases hplain : path.parent.plainText with
  | nil =>
    have htext : path.parent.text = ['.'] := by simp [Path.text, hplain]
    rw [htext]
    decide
  | cons c cs =>
    rw [hplain] at hrest
    have htext : path.text = path.parent.text ++ rest := by
      simp [Path.text, hplain, ← hrest]
    rw [refusal?_eq_none_iff, htext, byteCount_append, List.mem_append] at h
    rw [refusal?_eq_none_iff]
    exact ⟨fun hnull => h.1 (.inl hnull), by omega⟩

/-- A file system in which everything is kept that was there. -/
structure Grows (files now : FileSystem) : Prop where
  /-- The working directory is the same. -/
  workPlace : now.workPlace = files.workPlace
  /-- Whatever was at a place is there. -/
  keep : ∀ place entry, files.lookup? place = some entry → now.lookup? place = some entry

/-- Files that stay as they are grow by nothing. -/
theorem Grows.refl (files : FileSystem) : files.Grows files := ⟨rfl, fun _ _ h => h⟩

/-- Files that grow twice grow. -/
theorem Grows.trans {later : FileSystem} (h : files.Grows now) (hlater : now.Grows later) :
    files.Grows later :=
  ⟨hlater.workPlace.trans h.workPlace, fun _ _ hheld => hlater.keep _ _ (h.keep _ _ hheld)⟩

/-- Files grow by an entry at a free place. -/
theorem grows_put (h : files.lookup? place = none) (entry : Entry) :
    files.Grows (files.put place entry) := by
  refine ⟨workPlace_put files place entry, fun other held hheld => ?_⟩
  by_cases haccepts : files.Accepts place
  · rw [lookup?_put haccepts, if_neg (by rintro rfl; simp [h] at hheld), hheld]
  · rw [put, dif_neg haccepts, hheld]

/-- Ensuring a directory only adds to the files. -/
theorem grows_ensureDirectory (files : FileSystem) (path : Path) :
    files.Grows (files.ensureDirectory path).files := by
  rw [ensureDirectory, makeDirectory, find]
  cases hrefusal : refusal? path.text with
  | some fault =>
    simp only
    split <;> exact .refl files
  | none =>
    simp only
    cases hwalk : files.walk (files.start path) path.parts with
    | error fault =>
      simp only
      split <;> exact .refl files
    | ok found =>
      cases found with
      | missing place => exact grows_put (lookup?_of_walk hwalk rfl) .directory
      | _ =>
        simp only
        split <;> exact .refl files

/-- Ensuring all directories of a path only adds to the files. -/
theorem grows_ensureDirectories (files : FileSystem) (path : Path) :
    files.Grows (files.ensureDirectories path).files := by
  fun_induction ensureDirectories files path with
  | case1 path change _ _ _ => exact grows_ensureDirectory files path
  | case2 path change _ _ _ above _ _ ih => exact ih
  | case3 path change _ _ _ above _ ih => exact ih.trans (grows_ensureDirectory _ path)
  | case4 path change _ => exact grows_ensureDirectory files path

/-- A path with no file on it, so that directories can be made all along. -/
structure Passable (files : FileSystem) (path : Path) : Prop where
  /-- The path is not refused. -/
  accepted : refusal? path.text = none
  /-- No component is too long. -/
  names : ∀ part ∈ path.parts, byteCount part ≤ maxNameBytes
  /-- There are no files along it. -/
  free : ∀ p ∈ trail (files.start path) path.parts, ∀ content,
    files.lookup? p ≠ some (.file content)

/-- A change that does nothing but make some places directories. -/
structure Makes (files : FileSystem) (places : List Place) (change : Change) : Prop where
  /-- It does not fail. -/
  error : change.error = none
  /-- The working directory is the same. -/
  workPlace : change.files.workPlace = files.workPlace
  /-- The places are directories, and all else is as it was. -/
  lookup? : ∀ q, change.files.lookup? q =
    if q ∈ places then some .directory else files.lookup? q

/-- Making directories leaves no file on a path that had none. -/
theorem Passable.of_makes {places : List Place} {change : Change} (h : files.Passable path)
    (hmakes : files.Makes places change) : change.files.Passable path := by
  refine ⟨h.accepted, h.names, fun p hp content => ?_⟩
  rw [start_of_workPlace hmakes.workPlace] at hp
  rw [hmakes.lookup?]
  split
  · simp
  · exact h.free p hp content

/-- The path above a path with no file on it has none either. -/
theorem Passable.parent (h : files.Passable path) : files.Passable path.parent := by
  refine ⟨refusal?_parent h.accepted, fun part hpart => h.names part (List.dropLast_subset _ hpart),
    fun p hp => h.free p ?_⟩
  change p ∈ files.way path at hp
  by_cases hnamed : path.parts = []
  · rw [way, hnamed] at hp
    cases hp
  · exact (mem_trail_iff hnamed).mpr (.inl hp)

/-- A directory that is there is left as it is. -/
theorem ensureDirectory_of_directory (h : files.find path = .ok (.directory place)) :
    files.ensureDirectory path = ⟨files, none⟩ := by
  simp [ensureDirectory, makeDirectory, isDirectory, h]

/-- A directory that is missing is made. -/
theorem ensureDirectory_of_missing (h : files.find path = .ok (.missing place)) :
    files.ensureDirectory path = ⟨files.put place .directory, none⟩ := by
  simp [ensureDirectory, makeDirectory, h]

/-- Nothing can be made where the way leads over something that is missing. -/
theorem ensureDirectory_of_notFound (h : files.find path = .error .notFound) :
    files.ensureDirectory path = ⟨files, some ⟨.notFound, path.text⟩⟩ := by
  simp [ensureDirectory, makeDirectory, h]

/-- Behind directories a path leads to its target, and to what the target holds. -/
theorem find_of_way (haccepted : refusal? path.text = none) (hnamed : path.parts ≠ [])
    (hnames : ∀ part ∈ path.parts, byteCount part ≤ maxNameBytes)
    (hway : ∀ p ∈ files.way path, files.lookup? p = some .directory) :
    files.find path =
      .ok (Found.of (files.resolve path) (files.lookup? (files.resolve path))) := by
  obtain ⟨front, last, hparts⟩ : ∃ front last, path.parts = front ++ [last] :=
    ⟨_, _, (List.dropLast_concat_getLast hnamed).symm⟩
  rw [hparts] at hnames
  rw [way, hparts, List.dropLast_concat] at hway
  have hwalk : files.walk (files.start path) front = .ok (.directory _) :=
    walk_eq_directory_iff.mpr
      ⟨fun part hpart => hnames part (List.mem_append_left _ hpart), hway, rfl⟩
  have hlast : ¬maxNameBytes < byteCount last := Nat.not_lt.mpr (hnames last (by simp))
  have htarget : files.resolve path =
      advance (front.foldl advance (files.start path)) last := by
    rw [resolve, hparts, List.foldl_append]
    rfl
  rw [find, haccepted, hparts]
  refine (walk_append hwalk [last]).trans ?_
  rw [walk, if_neg hlast, htarget]
  cases files.lookup? (advance (front.foldl advance (files.start path)) last) with
  | none => rfl
  | some entry => cases entry <;> rfl

/-- The last directory is made in the one above it, or is there. -/
theorem ensureDirectory_makes (h : files.Passable path) (hnamed : path.parts ≠ [])
    (hway : ∀ p ∈ files.way path, files.lookup? p = some .directory) :
    files.Makes (trail (files.start path) path.parts) (files.ensureDirectory path) := by
  have hfind := find_of_way h.accepted hnamed h.names hway
  cases hheld : files.lookup? (files.resolve path) with
  | none =>
    rw [hheld] at hfind
    rw [ensureDirectory_of_missing hfind]
    refine ⟨rfl, workPlace_put _ _ _, fun q => ?_⟩
    rw [lookup?_put (accepts_of_find hfind rfl)]
    simp only [mem_trail_iff hnamed]
    by_cases hq : q = files.resolve path
    · rw [if_pos hq, if_pos (.inr hq)]
    · rw [if_neg hq]
      split
      · exact hway q (‹_ ∨ _›.resolve_right hq)
      · rfl
  | some entry =>
    cases entry with
    | file content =>
      exact absurd hheld (h.free _ ((mem_trail_iff hnamed).mpr (.inr rfl)) content)
    | directory =>
      rw [hheld] at hfind
      rw [ensureDirectory_of_directory hfind]
      refine ⟨rfl, rfl, fun q => ?_⟩
      simp only [mem_trail_iff hnamed]
      split
      · obtain hq | rfl := ‹_ ∨ _›
        · exact hway q hq
        · exact hheld
      · rfl

/-- All directories of a path are made that are missing. -/
theorem ensureDirectories_makes (h : files.Passable path) :
    files.Makes (trail (files.start path) path.parts) (files.ensureDirectories path) := by
  induction hlength : path.parts.length generalizing path with
  | zero =>
    have hnil := List.length_eq_zero_iff.mp hlength
    have hfind : files.find path = .ok (.directory (files.start path)) := by
      rw [find, h.accepted, hnil]
      rfl
    rw [ensureDirectories, ensureDirectory_of_directory hfind, hnil]
    exact ⟨rfl, rfl, fun q => rfl⟩
  | succ n ih =>
    have hnamed : path.parts ≠ [] := List.ne_nil_of_length_eq_add_one hlength
    by_cases hway : ∀ p ∈ files.way path, files.lookup? p = some .directory
    · have hmakes := ensureDirectory_makes h hnamed hway
      rw [ensureDirectories]
      simp only [hmakes.error]
      exact hmakes
    · have habove := ih h.parent (by rw [Path.parent, List.length_dropLast, hlength]; rfl)
      have hfind : files.find path = .error .notFound := by
        rw [find, h.accepted, ← List.dropLast_concat_getLast hnamed]
        exact walk_eq_notFound h.parent.names h.parent.free hway
      set above := files.ensureDirectories path.parent with habove_eq
      have hstart := start_of_workPlace habove.workPlace
      have hmakes := ensureDirectory_makes (h.of_makes habove) hnamed fun p hp => by
        rw [way, hstart] at hp
        rw [habove.lookup?]
        exact if_pos hp
      have hresult : files.ensureDirectories path = above.files.ensureDirectory path := by
        rw [ensureDirectories, ensureDirectory_of_notFound hfind]
        simp [← habove_eq, habove.error, hnamed]
      rw [hresult]
      refine ⟨hmakes.error, hmakes.workPlace.trans habove.workPlace, fun q => ?_⟩
      rw [hmakes.lookup?, hstart, habove.lookup?]
      split
      · rfl
      · rename_i hmem
        exact if_neg fun hq => hmem ((mem_trail_iff hnamed).mpr (.inl hq))

/-- A path at which a file can be delivered. -/
structure Writable (files : FileSystem) (path : Path) : Prop where
  /-- The path is not refused. -/
  accepted : refusal? path.text = none
  /-- It has a last component. -/
  named : path.parts ≠ []
  /-- No component is too long. -/
  names : ∀ part ∈ path.parts, byteCount part ≤ maxNameBytes
  /-- There are no files on the way. -/
  free : ∀ p ∈ files.way path, ∀ content, files.lookup? p ≠ some (.file content)
  /-- There is no directory at its end. -/
  vacant : files.lookup? (files.resolve path) ≠ some .directory
  /-- Its end is not on its own way. -/
  off : files.resolve path ∉ files.way path

/-- A change that makes the way of a path directories and its target a file, and does nothing
else. -/
structure Delivers (files : FileSystem) (path : Path) (content : FileContent) (change : Change) :
    Prop where
  /-- It does not fail. -/
  error : change.error = none
  /-- The working directory is the same. -/
  workPlace : change.files.workPlace = files.workPlace
  /-- The file and the directories on its way are there, and all else is as it was. -/
  lookup? : ∀ q, change.files.lookup? q =
    if q = files.resolve path then some (.file content)
    else if q ∈ files.way path then some .directory
    else files.lookup? q

/-- A file is delivered where one can be, with its directories and nothing else. -/
theorem Writable.delivers (h : files.Writable path) (content : FileContent) :
    files.Delivers path content (files.deliver path content) := by
  have hmakes : files.Makes (files.way path) (files.ensureDirectories path.parent) :=
    ensureDirectories_makes ⟨refusal?_parent h.accepted,
      fun part hpart => h.names part (List.dropLast_subset _ hpart), h.free⟩
  set made := files.ensureDirectories path.parent with hmade
  have hstart := start_of_workPlace hmakes.workPlace path
  have htarget : made.files.resolve path = files.resolve path := by
    rw [resolve, hstart, resolve]
  have hway (p : Place) (hp : p ∈ made.files.way path) :
      made.files.lookup? p = some .directory := by
    rw [way, hstart] at hp
    rw [hmakes.lookup?]
    exact if_pos hp
  have hfind := find_of_way h.accepted h.named h.names hway
  rw [htarget, hmakes.lookup?, if_neg h.off] at hfind
  obtain ⟨haccepts, hstore⟩ : made.files.Accepts (files.resolve path) ∧
      made.files.store path content =
        .ok (made.files.put (files.resolve path) (.file content)) := by
    rw [store]
    cases hheld : files.lookup? (files.resolve path) with
    | none =>
      rw [hheld] at hfind
      exact ⟨accepts_of_find hfind rfl, by rw [hfind]; rfl⟩
    | some entry =>
      rw [hheld] at hfind
      cases entry with
      | file old => exact ⟨accepts_of_find hfind rfl, by rw [hfind]; rfl⟩
      | directory => exact absurd hheld h.vacant
  have hdeliver : files.deliver path content =
      ⟨made.files.put (files.resolve path) (.file content), none⟩ := by
    rw [deliver, ← hmade]
    simp only [hmakes.error, write, hstore]
    rfl
  rw [hdeliver]
  refine ⟨rfl, (workPlace_put _ _ _).trans hmakes.workPlace, fun q => ?_⟩
  rw [lookup?_put haccepts, hmakes.lookup?]

/-- A file can be delivered exactly if no file is on the way and no directory at the target. -/
theorem error_deliver_eq_none_iff :
    (files.deliver path content).error = none ↔ files.Writable path := by
  refine ⟨fun h => ?_, fun h => (h.delivers content).error⟩
  have hgrows := grows_ensureDirectories files path.parent
  obtain ⟨found, target, hfind, htarget, -⟩ := exists_target_of_store (store_of_deliver h)
  set made := files.ensureDirectories path.parent
  obtain ⟨haccepted, hwalk⟩ := walk_of_find hfind
  rw [start_of_workPlace hgrows.workPlace] at hwalk
  obtain ⟨front, last, hparts, hlast, hnames, htrail, rfl⟩ := walk_target hwalk htarget
  have hway : files.way path = trail (files.start path) front := by simp [way, hparts]
  have hvacant : made.files.lookup? (files.resolve path) ≠ some .directory :=
    (accepts_of_find hfind htarget).1
  refine ⟨haccepted, by simp [hparts], ?_, ?_, ?_, ?_⟩
  · simpa [hparts, or_imp, forall_and] using ⟨hnames, hlast⟩
  · intro p hp content hfile
    have := hgrows.keep _ _ hfile
    simp [htrail p (hway ▸ hp)] at this
  · exact fun hdirectory => hvacant (hgrows.keep _ _ hdirectory)
  · exact fun hmem => hvacant (htrail _ (hway ▸ hmem))

end FileSystem

end Haml
