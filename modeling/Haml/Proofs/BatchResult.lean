import Haml.Proofs.BatchBuild
import Haml.Proofs.Deliverable
import Mathlib.Data.List.Pairwise

/-!
# The result of a batch, in any order

Pairs that do not get in each other's way are built as if each were built alone: the skipped pairs
are those whose template does not compile at the start, every other target holds the code of its
template, and no other file changes. `Holds` describes what a part of the batch has left, by
membership only, so the order of the pairs does not matter.

The directories that a build makes are the one thing that a later template can see. A path that goes
back out of such a directory leads nowhere at first and to a file later, so pairs that are
`Independent` have to be free of such paths as well: `NoNewTurns`.
-/

namespace Haml

namespace FileSystem

variable {files now : FileSystem} {path : Path} {place q : Place} {content : FileContent}
  {parts : List Text} {products : List (Path × Text)}

/-- The content of the file at a place. -/
def fileAt? (files : FileSystem) (place : Place) : Option FileContent :=
  match files.lookup? place with
  | some (.file content) => some content
  | _ => none

/-- The content at a place is that of the file it holds. -/
theorem fileAt?_eq_some_iff :
    files.fileAt? place = some content ↔ files.lookup? place = some (.file content) := by
  rw [fileAt?]
  split <;> simp_all

/-- The places that a walk goes back from, by a double dot. -/
def turns (place : Place) : List Text → List Place
  | [] => []
  | part :: rest =>
    if part == "..".toList then place :: turns (advance place part) rest
    else turns (advance place part) rest

/-- A walk goes back wherever its rest does. -/
theorem mem_turns_cons {part : Text} {rest : List Text} (h : q ∈ turns (advance place part) rest) :
    q ∈ turns place (part :: rest) := by
  rw [turns]
  split
  · exact List.mem_cons_of_mem _ h
  · exact h

/-- Two paths with different targets, neither of them on the way of the other path. -/
structure Apart (files : FileSystem) (first second : Path) : Prop where
  /-- The targets are different. -/
  ne : files.resolve first ≠ files.resolve second
  /-- The first is not on the way to the second. -/
  left : files.resolve first ∉ files.way second
  /-- The second is not on the way to the first. -/
  right : files.resolve second ∉ files.way first

/-- Which of two paths is named first makes no difference. -/
theorem Apart.symm {first second : Path} (h : files.Apart first second) :
    files.Apart second first :=
  ⟨h.ne.symm, h.right, h.left⟩

/-- What is left of a file system after some files were delivered: their directories, the files, and
all else as it was. -/
structure Holds (files now : FileSystem) (products : List (Path × Text)) : Prop where
  /-- The working directory is the same. -/
  workPlace : now.workPlace = files.workPlace
  /-- The files are there. -/
  target : ∀ e ∈ products, now.lookup? (files.resolve e.1) = some (.file e.2)
  /-- So are their directories. -/
  way : ∀ e ∈ products, ∀ q ∈ files.way e.1, now.lookup? q = some .directory
  /-- All else is as it was. -/
  other : ∀ q, (∀ e ∈ products, q ≠ files.resolve e.1 ∧ q ∉ files.way e.1) →
    now.lookup? q = files.lookup? q

namespace Holds

/-- At the start nothing has been delivered. -/
theorem nil (files : FileSystem) : files.Holds files [] :=
  ⟨rfl, by simp, by simp, fun _ _ => rfl⟩

/-- Every place is a target, on a way, or as it was. -/
theorem cases (h : files.Holds now products) (q : Place) :
    (∃ e ∈ products, q = files.resolve e.1 ∧ now.lookup? q = some (.file e.2)) ∨
      (∃ e ∈ products, q ∈ files.way e.1 ∧ now.lookup? q = some .directory) ∨
      now.lookup? q = files.lookup? q := by
  by_cases htarget : ∃ e ∈ products, q = files.resolve e.1
  · obtain ⟨e, he, rfl⟩ := htarget
    exact .inl ⟨e, he, rfl, h.target e he⟩
  by_cases hway : ∃ e ∈ products, q ∈ files.way e.1
  · obtain ⟨e, he, hq⟩ := hway
    exact .inr (.inl ⟨e, he, hq, h.way e he q hq⟩)
  push Not at htarget hway
  exact .inr (.inr (h.other q fun e he => ⟨htarget e he, hway e he⟩))

/-- The products alone, not their order, say what every place holds. -/
theorem lookup?_congr {other : FileSystem} {others : List (Path × Text)}
    (h : files.Holds now products) (hother : files.Holds other others)
    (hsame : ∀ e, e ∈ others ↔ e ∈ products) (q : Place) :
    other.lookup? q = now.lookup? q := by
  obtain ⟨e, he, rfl, heq⟩ | ⟨e, he, hq, heq⟩ | heq := hother.cases q
  · rw [heq, h.target e ((hsame e).mp he)]
  · rw [heq, h.way e ((hsame e).mp he) q hq]
  · obtain ⟨e, he, rfl, -⟩ | ⟨e, he, hq, -⟩ | hnow := h.cases q
    · rw [h.target e he, hother.target e ((hsame e).mpr he)]
    · rw [h.way e he q hq, hother.way e ((hsame e).mpr he) q hq]
    · rw [heq, hnow]

/-- Deliveries do not change the way of a path. -/
theorem way_eq (h : files.Holds now products) (path : Path) : now.way path = files.way path := by
  rw [FileSystem.way, start_of_workPlace h.workPlace]
  rfl

/-- Deliveries do not change the place that a path names. -/
theorem resolve_eq (h : files.Holds now products) (path : Path) :
    now.resolve path = files.resolve path := by
  rw [resolve, start_of_workPlace h.workPlace]
  rfl

/-- A file that could be delivered at the start can be delivered later, if it is apart from those
that were. -/
theorem writable (h : files.Holds now products) (hpath : files.Writable path)
    (hapart : ∀ e ∈ products, files.Apart e.1 path) : now.Writable path := by
  refine ⟨hpath.accepted, hpath.named, hpath.names, ?_, ?_, ?_⟩
  · intro p hp content
    rw [h.way_eq] at hp
    obtain ⟨e, he, rfl, -⟩ | ⟨e, he, hq, heq⟩ | heq := h.cases p
    · exact absurd hp (hapart e he).left
    · simp [heq]
    · rw [heq]
      exact hpath.free p hp content
  · rw [h.resolve_eq]
    obtain ⟨e, he, heq, -⟩ | ⟨e, he, hq, -⟩ | heq := h.cases (files.resolve path)
    · exact absurd heq.symm (hapart e he).ne
    · exact absurd hq (hapart e he).right
    · rw [heq]
      exact hpath.vacant
  · rw [h.resolve_eq, h.way_eq]
    exact hpath.off

/-- One more delivery. -/
theorem concat (h : files.Holds now products) (hpath : files.Writable path)
    (hapart : ∀ e ∈ products, files.Apart e.1 path) (content : Text) :
    (now.deliver path content).error = none ∧
      files.Holds (now.deliver path content).files (products ++ [(path, content)]) := by
  have hdelivers := (h.writable hpath hapart).delivers content
  have hlookup := hdelivers.lookup?
  simp only [h.resolve_eq, h.way_eq] at hlookup
  refine ⟨hdelivers.error, hdelivers.workPlace.trans h.workPlace, ?_, ?_, ?_⟩
  · intro e he
    rw [hlookup]
    obtain he | rfl := by simpa using he
    · rw [if_neg (hapart e he).ne, if_neg (hapart e he).left, h.target e he]
    · rw [if_pos rfl]
  · intro e he q hq
    rw [hlookup]
    obtain he | rfl := by simpa using he
    · rw [if_neg (by rintro rfl; exact (hapart e he).right hq), h.way e he q hq, ite_self]
    · rw [if_neg (by rintro rfl; exact hpath.off hq), if_pos hq]
  · intro q hq
    obtain ⟨hne, hway⟩ := hq (path, content) (by simp)
    rw [hlookup, if_neg hne, if_neg hway]
    exact h.other q fun e he => hq e (List.mem_append_left _ he)

section Read

variable (h : files.Holds now products) (hwritable : ∀ e ∈ products, files.Writable e.1)
include h hwritable

/-- A directory stays a directory, since files are delivered elsewhere. -/
theorem lookup?_of_directory (hq : files.lookup? q = some .directory) :
    now.lookup? q = some .directory := by
  obtain ⟨e, he, rfl, -⟩ | ⟨e, he, -, heq⟩ | heq := h.cases q
  · exact absurd hq (hwritable e he).vacant
  · exact heq
  · rw [heq, hq]

/-- Away from the targets, the files are the same. -/
theorem lookup?_eq_file_iff (hq : ∀ e ∈ products, files.resolve e.1 ≠ q) :
    now.lookup? q = some (.file content) ↔ files.lookup? q = some (.file content) := by
  obtain ⟨e, he, rfl, -⟩ | ⟨e, he, hway, heq⟩ | heq := h.cases q
  · exact absurd rfl (hq e he)
  · simp [heq, (hwritable e he).free q hway content]
  · rw [heq]

/-- Away from the targets the files have the same content. -/
theorem fileAt?_eq (hq : ∀ e ∈ products, files.resolve e.1 ≠ q) :
    now.fileAt? q = files.fileAt? q := by
  refine Option.ext fun content => ?_
  rw [fileAt?_eq_some_iff, fileAt?_eq_some_iff]
  exact h.lookup?_eq_file_iff hwritable hq

/-- A directory that was not made was there. -/
theorem lookup?_of_ne_none (hq : now.lookup? q = some .directory) (hheld : files.lookup? q ≠ none) :
    files.lookup? q = some .directory := by
  obtain ⟨e, he, -, heq⟩ | ⟨e, he, hway, -⟩ | heq := h.cases q
  · simp [heq] at hq
  · match hfiles : files.lookup? q with
    | none => exact absurd hfiles hheld
    | some .directory => rfl
    | some (.file content) => exact absurd hfiles ((hwritable e he).free q hway content)
  · rw [← heq, hq]

omit hwritable in
/-- A directory that a walk to an old file comes through was there. Going on, the next place was
there; and a place that was there lies in a directory that was, unless the walk went back to it. -/
theorem lookup?_ne_none_of_walk
    (hturns : ∀ e ∈ products, ∀ p ∈ turns place parts, p ∈ files.way e.1 → files.lookup? p ≠ none)
    (hplace : now.lookup? place = some .directory)
    (hwalk : now.walk place parts = .ok (.file q content)) (hq : files.lookup? q ≠ none) :
    files.lookup? place ≠ none := by
  induction parts generalizing place with
  | nil => simp [walk] at hwalk
  | cons part rest ih =>
    have hnext : files.lookup? (advance place part) ≠ none := by
      rw [walk] at hwalk
      split at hwalk
      · simp at hwalk
      · split at hwalk
        · exact ih (fun e he p hp => hturns e he p (mem_turns_cons hp)) ‹_› hwalk
        · split at hwalk
          · obtain ⟨rfl, -⟩ := Found.file.inj (Except.ok.inj hwalk)
            exact hq
          · simp at hwalk
        · split at hwalk <;> simp at hwalk
    rw [advance] at hnext
    split at hnext
    · rename_i hback
      obtain ⟨e, he, -, heq⟩ | ⟨e, he, hway, -⟩ | heq := h.cases place
      · simp [heq] at hplace
      · exact hturns e he place (by rw [turns, if_pos hback]; exact List.mem_cons_self) hway
      · simp [← heq, hplace]
    · split at hnext
      · exact hnext
      · obtain ⟨entry, hentry⟩ := Option.ne_none_iff_exists'.mp hnext
        have hparent := lookup?_dropLast hentry
        rw [List.dropLast_concat] at hparent
        simp [hparent]

/-- A walk that led to a file at the start leads there still. -/
theorem walk_of_walk (hwalk : files.walk place parts = .ok (.file q content))
    (hq : now.lookup? q = some (.file content)) :
    now.walk place parts = .ok (.file q content) := by
  induction parts generalizing place with
  | nil => simp [walk] at hwalk
  | cons part rest ih =>
    rw [walk] at hwalk ⊢
    split at hwalk
    · simp at hwalk
    · rw [if_neg ‹_›]
      split at hwalk
      · rw [h.lookup?_of_directory hwritable ‹_›]
        exact ih hwalk
      · split at hwalk
        · obtain ⟨rfl, rfl⟩ := Found.file.inj (Except.ok.inj hwalk)
          rw [hq]
          exact if_pos ‹_›
        · simp at hwalk
      · split at hwalk <;> simp at hwalk

/-- A walk that leads to an old file now led there at the start, if it does not go back out of a
directory that was made. -/
theorem walk_of_walk_now
    (hturns : ∀ e ∈ products, ∀ p ∈ turns place parts, p ∈ files.way e.1 → files.lookup? p ≠ none)
    (hwalk : now.walk place parts = .ok (.file q content))
    (hq : files.lookup? q = some (.file content)) :
    files.walk place parts = .ok (.file q content) := by
  induction parts generalizing place with
  | nil => simp [walk] at hwalk
  | cons part rest ih =>
    have hrest : ∀ e ∈ products, ∀ p ∈ turns (advance place part) rest,
        p ∈ files.way e.1 → files.lookup? p ≠ none :=
      fun e he p hp => hturns e he p (mem_turns_cons hp)
    rw [walk] at hwalk ⊢
    split at hwalk
    · simp at hwalk
    · rw [if_neg ‹_›]
      split at hwalk
      · rename_i hnext
        have hheld := h.lookup?_ne_none_of_walk hrest hnext hwalk (by simp [hq])
        rw [h.lookup?_of_ne_none hwritable hnext hheld]
        exact ih hrest hwalk
      · split at hwalk
        · obtain ⟨rfl, rfl⟩ := Found.file.inj (Except.ok.inj hwalk)
          rw [hq]
          exact if_pos ‹_›
        · simp at hwalk
      · split at hwalk <;> simp at hwalk

/-- A path that leads to no target, and does not go back out of a directory that was made, leads to
the same file. Either walk ends where the path resolves to, at the same file. -/
theorem find_eq_file_iff
    (htarget : ∀ e ∈ products, files.resolve e.1 ≠ files.resolve path)
    (hturns : ∀ e ∈ products, ∀ p ∈ turns (files.start path) path.parts,
      p ∈ files.way e.1 → files.lookup? p ≠ none) :
    now.find path = .ok (.file q content) ↔ files.find path = .ok (.file q content) := by
  rw [find, find, start_of_workPlace h.workPlace]
  cases refusal? path.text with
  | some fault => simp
  | none =>
    have hfile (other : FileSystem)
        (hwalk : other.walk (files.start path) path.parts = .ok (.file q content)) :
        now.lookup? q = some (.file content) ↔ files.lookup? q = some (.file content) := by
      obtain ⟨-, -, -, -, -, -, hresolve⟩ := walk_target hwalk rfl
      exact h.lookup?_eq_file_iff hwritable fun e he => hresolve ▸ htarget e he
    constructor <;> intro hwalk
    · exact h.walk_of_walk_now hwritable hturns hwalk
        ((hfile now hwalk).mp (lookup?_of_walk hwalk rfl))
    · exact h.walk_of_walk hwritable hwalk ((hfile files hwalk).mpr (lookup?_of_walk hwalk rfl))

end Read

end Holds

end FileSystem

open FileSystem

section Batch

variable {options : Options} {base : Option Path} {files now : FileSystem} {path : Path}
  {pairs : List WritePair}

/-- Where a path leads to the same file the same is compiled, and failures are skipped alike. -/
theorem compileFile_of_find (options : Options) (base : Option Path) (hfind : ∀ place content,
      now.find path = .ok (.file place content) ↔ files.find path = .ok (.file place content)) :
    (∃ code, compileFile options files path base [] [] = .ok code ∧
      compileFile options now path base [] [] = .ok code) ∨
    ∃ failure other, compileFile options files path base [] [] = .error failure ∧
      compileFile options now path base [] [] = .error other ∧
      other.isSkipped = failure.isSkipped := by
  have hfile (files : FileSystem) : compileFile options files path base [] [] =
      (templateName path base).mapError .path >>= fun name =>
        (files.read path).mapError .file >>= fun source =>
          (compile options source name []).mapError .compile := rfl
  cases hname : templateName path base with
  | error error => exact .inr ⟨.path error, .path error, by rw [hfile, hname]; rfl,
      by rw [hfile, hname]; rfl, rfl⟩
  | ok name =>
    obtain hread | ⟨error, other, hfiles, hnow, hsystem, hother⟩ := read_of_find hfind
    · have hsame : compileFile options now path base [] [] =
          compileFile options files path base [] [] := by
        rw [hfile, hfile, hread]
      rw [hsame]
      cases compileFile options files path base [] [] with
      | ok code => exact .inl ⟨code, rfl, rfl⟩
      | error failure => exact .inr ⟨failure, failure, rfl, rfl, rfl⟩
    · exact .inr ⟨.file error, .file other, by rw [hfile, hname, hfiles]; rfl,
        by rw [hfile, hname, hnow]; rfl, hother.trans hsystem.symm⟩

/-- The targets of the pairs that compile, with their code. -/
def products (options : Options) (base : Option Path) (files : FileSystem)
    (pairs : List WritePair) : List (Path × Text) :=
  pairs.filterMap fun pair =>
    match compileFile options files pair.src base [] [] with
    | .ok code => some (pair.dst, code)
    | .error _ => none

/-- Pairs that do not get in each other's way: their targets are different places that can be
written, none on the way to another and none the place of a template; and a template that does not
compile is skipped. -/
structure Independent (options : Options) (base : Option Path) (files : FileSystem)
    (pairs : List WritePair) : Prop where
  /-- The targets are apart. -/
  apart : pairs.Pairwise fun first second => files.Apart first.dst second.dst
  /-- No target is the place of a template. -/
  kept : ∀ pair ∈ pairs, ∀ other ∈ pairs, files.resolve pair.dst ≠ files.resolve other.src
  /-- All targets can be written. -/
  writable : ∀ pair ∈ pairs, ∀ content, (files.deliver pair.dst content).error = none
  /-- A template that does not compile is skipped. -/
  skipped : ∀ pair ∈ pairs, ∀ failure,
    compileFile options files pair.src base [] [] = .error failure → failure.isSkipped

/-- No template lies behind a directory that is made and that its path goes back out of. -/
def NoNewTurns (files : FileSystem) (pairs : List WritePair) : Prop :=
  ∀ pair ∈ pairs, ∀ other ∈ pairs, ∀ place ∈ turns (files.start pair.src) pair.src.parts,
    place ∈ files.way other.dst → files.lookup? place ≠ none

/-- The products are the codes of the pairs that compile, with their targets. -/
theorem mem_products_iff {product : Path × Text} :
    product ∈ products options base files pairs ↔
      ∃ pair ∈ pairs, compileFile options files pair.src base [] [] = .ok product.2 ∧
        pair.dst = product.1 := by
  rw [products, List.mem_filterMap]
  refine exists_congr fun pair => and_congr_right fun _ => ?_
  split <;> simp_all [Prod.ext_iff, and_comm]

/-- The target of every product can be written at the start. -/
theorem Independent.writable_product (h : Independent options base files pairs)
    {done : List WritePair} (hdone : done ⊆ pairs) {product : Path × Text}
    (hmem : product ∈ products options base files done) : files.Writable product.1 := by
  obtain ⟨pair, hpair, -, hdst⟩ := mem_products_iff.mp hmem
  exact hdst ▸ error_deliver_eq_none_iff.mp (h.writable pair (hdone hpair) (.text []))

/-- The template of a pair is the same file as at the start, whatever pairs were built before it. -/
theorem Independent.find_iff (h : Independent options base files pairs)
    (hturns : NoNewTurns files pairs) {done : List WritePair} (hdone : done ⊆ pairs)
    (hnow : files.Holds now (products options base files done)) {pair : WritePair}
    (hpair : pair ∈ pairs) (place : Place) (content : FileContent) :
    now.find pair.src = .ok (.file place content) ↔
      files.find pair.src = .ok (.file place content) := by
  refine hnow.find_eq_file_iff (fun _ hmem => h.writable_product hdone hmem) ?_ ?_
  all_goals
    intro product hmem
    obtain ⟨other, hother, -, hdst⟩ := mem_products_iff.mp hmem
  · exact hdst ▸ h.kept other (hdone hother) pair hpair
  · exact hdst ▸ hturns pair hpair other (hdone hother)

/-- What the pairs before have left, the pairs after bring to the result of all. -/
theorem build_of_holds (before : List WritePair) {after : List WritePair}
    (h : Independent options base files (before ++ after))
    (hturns : NoNewTurns files (before ++ after))
    (hnow : files.Holds now (products options base files before)) :
    (build options base now after).stopped = none ∧
      (build options base now after).skipped.map (·.pair) =
        after.filter (fun pair => !(compileFile options files pair.src base [] []).isOk) ∧
      files.Holds (build options base now after).files
        (products options base files (before ++ after)) := by
  induction after generalizing before now with
  | nil => simpa [build, BuildReport.nothing] using hnow
  | cons pair rest ih =>
    have hpair : pair ∈ before ++ pair :: rest := by simp
    have hfind := h.find_iff hturns (List.subset_append_left _ _) hnow hpair
    obtain ⟨code, hfiles, hcode⟩ | ⟨failure, other, hfiles, hother, hskipped⟩ :=
      compileFile_of_find options base hfind
    · have hapart : ∀ product ∈ products options base files before,
          files.Apart product.1 pair.dst := by
        intro product hmem
        obtain ⟨other, hother, -, hdst⟩ := mem_products_iff.mp hmem
        exact hdst ▸ (List.pairwise_append.mp h.apart).2.2 other hother pair List.mem_cons_self
      obtain ⟨herror, hholds⟩ := hnow.concat
        (error_deliver_eq_none_iff.mp (h.writable pair hpair (.text []))) hapart code
      have hproducts : products options base files (before ++ [pair]) =
          products options base files before ++ [(pair.dst, code)] := by
        simp [products, hfiles]
      rw [List.append_cons] at h hturns ⊢
      obtain ⟨hstopped, hskipped, hresult⟩ := ih _ h hturns (hproducts ▸ hholds)
      simp only [build, hcode, herror, BuildReport.written]
      exact ⟨hstopped, by simpa [hfiles, Except.isOk, Except.toBool] using hskipped, hresult⟩
    · have hproducts : products options base files (before ++ [pair]) =
          products options base files before := by
        simp [products, hfiles]
      rw [h.skipped pair hpair failure hfiles] at hskipped
      rw [List.append_cons] at h hturns ⊢
      obtain ⟨hstopped, hpairs, hresult⟩ := ih _ h hturns (hproducts ▸ hnow)
      simp only [build, hother, hskipped, BuildReport.skip]
      exact ⟨hstopped, by simpa [hfiles, Except.isOk, Except.toBool] using hpairs, hresult⟩

/-- Independence does not depend on the order of the pairs. -/
theorem Independent.of_perm {other : List WritePair} (h : Independent options base files pairs)
    (hperm : other.Perm pairs) : Independent options base files other where
  apart := (hperm.pairwise_iff fun hapart => hapart.symm).mpr h.apart
  kept pair hpair other hother :=
    h.kept pair (hperm.mem_iff.mp hpair) other (hperm.mem_iff.mp hother)
  writable pair hpair := h.writable pair (hperm.mem_iff.mp hpair)
  skipped pair hpair := h.skipped pair (hperm.mem_iff.mp hpair)

/-- The condition on the paths of templates does not depend on the order of the pairs. -/
theorem NoNewTurns.of_perm {other : List WritePair} (h : NoNewTurns files pairs)
    (hperm : other.Perm pairs) : NoNewTurns files other :=
  fun pair hpair other hother => h pair (hperm.mem_iff.mp hpair) other (hperm.mem_iff.mp hother)

/-- A build of independent pairs goes to its end, if no template is found by going back out of a
directory that it makes. It skips exactly the pairs whose template does not compile at the start, in
their order. The target of every other pair holds the code of the template, and every other file is
as it was, the targets of skipped pairs among them. A build of the same pairs in another order skips
the same pairs and leaves the same at every place. -/
theorem build_of_independent (h : Independent options base files pairs)
    (hturns : NoNewTurns files pairs) :
    (build options base files pairs).stopped = none ∧
    (build options base files pairs).skipped.map (·.pair) =
      pairs.filter (fun pair => !(compileFile options files pair.src base [] []).isOk) ∧
    (∀ pair ∈ pairs, ∀ code, compileFile options files pair.src base [] [] = .ok code →
      (build options base files pairs).files.fileAt? (files.resolve pair.dst) = some code) ∧
    (∀ place, (∀ pair ∈ pairs, (compileFile options files pair.src base [] []).isOk →
        files.resolve pair.dst ≠ place) →
      (build options base files pairs).files.fileAt? place = files.fileAt? place) ∧
    (∀ pair ∈ pairs, ∀ failure, compileFile options files pair.src base [] [] = .error failure →
      (build options base files pairs).files.fileAt? (files.resolve pair.dst) =
        files.fileAt? (files.resolve pair.dst)) ∧
    ∀ other, other.Perm pairs →
      (build options base files other).stopped = none ∧
      ((build options base files other).skipped.map (·.pair)).Perm
        ((build options base files pairs).skipped.map (·.pair)) ∧
      ∀ place, (build options base files other).files.lookup? place =
        (build options base files pairs).files.lookup? place := by
  obtain ⟨hstopped, hskipped, hholds⟩ := build_of_holds [] h hturns (.nil files)
  have hframe : ∀ place, (∀ pair ∈ pairs, (compileFile options files pair.src base [] []).isOk →
        files.resolve pair.dst ≠ place) →
      (build options base files pairs).files.fileAt? place = files.fileAt? place := by
    intro place hplace
    refine hholds.fileAt?_eq (fun _ hmem => h.writable_product (List.Subset.refl _) hmem)
      fun product hmem => ?_
    obtain ⟨pair, hpair, hcode, hdst⟩ := mem_products_iff.mp hmem
    exact hdst ▸ hplace pair hpair (by rw [hcode]; rfl)
  refine ⟨hstopped, hskipped, ?_, hframe, ?_, ?_⟩
  · intro pair hpair code hcode
    have htarget := hholds.target (pair.dst, code) (mem_products_iff.mpr ⟨pair, hpair, hcode, rfl⟩)
    exact fileAt?_eq_some_iff.mpr htarget
  · intro pair hpair failure hfailure
    refine hframe _ fun other hother hok => ?_
    have hne : other ≠ pair := by
      rintro rfl
      simp [hfailure, Except.isOk, Except.toBool] at hok
    have : Std.Symm fun first second : WritePair => files.Apart first.dst second.dst :=
      ⟨fun _ _ hapart => hapart.symm⟩
    exact (h.apart.forall hother hpair hne).ne
  · intro other hperm
    obtain ⟨hstopped', hskipped', hholds'⟩ :=
      build_of_holds [] (h.of_perm hperm) (hturns.of_perm hperm) (.nil files)
    refine ⟨hstopped', ?_, hholds.lookup?_congr hholds' fun product => ?_⟩
    · rw [hskipped, hskipped']
      exact hperm.filter _
    · simp [mem_products_iff, hperm.mem_iff]

end Batch

/-- Independence in a form that can be evaluated. Whether a file can be delivered does not depend on
its content. -/
theorem Independent.of_checks {options : Options} {base : Option Path} {files : FileSystem}
    {pairs : List WritePair}
    (apart : pairs.Pairwise fun first second =>
      files.resolve first.dst ≠ files.resolve second.dst ∧
        files.resolve first.dst ∉ files.way second.dst ∧
        files.resolve second.dst ∉ files.way first.dst)
    (kept : ∀ pair ∈ pairs, ∀ other ∈ pairs, files.resolve pair.dst ≠ files.resolve other.src)
    (writable : ∀ pair ∈ pairs, (files.deliver pair.dst (.text [])).error = none)
    (skipped : ∀ pair ∈ pairs,
      (match compileFile options files pair.src base [] [] with
        | .ok _ => true
        | .error failure => failure.isSkipped) = true) :
    Independent options base files pairs where
  apart := apart.imp fun h => ⟨h.1, h.2.1, h.2.2⟩
  kept := kept
  writable pair hpair _ :=
    error_deliver_eq_none_iff.mpr (error_deliver_eq_none_iff.mp (writable pair hpair))
  skipped pair hpair failure hfailure := by simpa [hfailure] using skipped pair hpair

/-- A template, one with an error, and an old module. -/
def batchFiles : FileSystem :=
  { workPlace := []
    entries :=
      [(["a.haml".toList], .file "%p a\n".toList),
        (["t".toList], .directory),
        (["t".toList, "b.haml".toList], .file "%p\n   %b\n %i\n".toList),
        (["b.py".toList], .file "old".toList)] }

/-- The pair of the template, whose path goes back out of a directory that is there. -/
def goodPair : WritePair := ⟨Path.ofText "t/../a.haml".toList, Path.ofText "out/x/a.py".toList⟩

/-- The pair of the template with an error. -/
def badPair : WritePair := ⟨Path.ofText "t/b.haml".toList, Path.ofText "b.py".toList⟩

/-- The two pairs do not get in each other's way. -/
theorem independent_batch : Independent {} none batchFiles [badPair, goodPair] :=
  .of_checks (by decide +kernel) (by decide +kernel) (by decide +kernel) (by decide +kernel)

/-- The path of the first template goes back out of a directory that is there already. -/
theorem noNewTurns_batch : NoNewTurns batchFiles [badPair, goodPair] := by
  unfold NoNewTurns
  decide +kernel

/-- The template with an error is skipped and its old module stays, the other has its module, and in
the other order the same is skipped and left. -/
theorem build_of_independent_batch :
    ∃ code report, build {} none batchFiles [badPair, goodPair] = report ∧
      report.stopped = none ∧ report.skipped.map (·.pair) = [badPair] ∧
      report.files.fileAt? (batchFiles.resolve badPair.dst) = some "old".toList ∧
      report.files.fileAt? (batchFiles.resolve goodPair.dst) = some code ∧
      ((build {} none batchFiles [goodPair, badPair]).skipped.map (·.pair)).Perm [badPair] ∧
      ∀ place, (build {} none batchFiles [goodPair, badPair]).files.lookup? place =
        report.files.lookup? place := by
  obtain ⟨hstopped, hskipped, htarget, -, hkept, hperm⟩ :=
    build_of_independent independent_batch noNewTurns_batch
  obtain ⟨code, hcode⟩ : ∃ code, compileFile {} batchFiles goodPair.src none [] [] = .ok code := by
    have hok : (compileFile {} batchFiles goodPair.src none [] []).isOk := by decide +kernel
    cases hfile : compileFile {} batchFiles goodPair.src none [] [] with
    | ok code => exact ⟨code, rfl⟩
    | error failure =>
      rw [hfile] at hok
      cases hok
  obtain ⟨failure, hfailure⟩ :
      ∃ failure, compileFile {} batchFiles badPair.src none [] [] = .error failure := by
    have hfails : (compileFile {} batchFiles badPair.src none [] []).isOk = false := by
      decide +kernel
    cases hfile : compileFile {} batchFiles badPair.src none [] [] with
    | ok code =>
      rw [hfile] at hfails
      cases hfails
    | error failure => exact ⟨failure, rfl⟩
  obtain ⟨-, hskipped', hfiles⟩ := hperm [goodPair, badPair] (.swap badPair goodPair [])
  have hpairs : _ = [badPair] := hskipped.trans (by decide +kernel)
  refine ⟨code, _, rfl, hstopped, hpairs, ?_, htarget goodPair (by simp) code hcode,
    hpairs ▸ hskipped', hfiles⟩
  rw [hkept badPair (by simp) failure hfailure]
  decide +kernel

/-- Two templates. -/
def turnFiles : FileSystem :=
  { workPlace := []
    entries :=
      [(["a.haml".toList], .file "%p a\n".toList), (["t.haml".toList], .file "%p t\n".toList)] }

/-- A pair whose module needs a new directory. -/
def makingPair : WritePair := ⟨Path.ofText "a.haml".toList, Path.ofText "out/a.py".toList⟩

/-- A pair whose template is found by going back out of that directory. -/
def turningPair : WritePair := ⟨Path.ofText "out/../t.haml".toList, Path.ofText "b.py".toList⟩

/-- Independent pairs do not suffice: the second template cannot be read at the start, but the build
does not skip it, since the first pair makes the directory that its path goes through. -/
theorem skipped_build_of_newTurn :
    Independent {} (some Path.here) turnFiles [makingPair, turningPair] ∧
      [makingPair, turningPair].filter (fun pair =>
        !(compileFile {} turnFiles pair.src (some Path.here) [] []).isOk) = [turningPair] ∧
      (build {} (some Path.here) turnFiles [makingPair, turningPair]).stopped = none ∧
      (build {} (some Path.here) turnFiles [makingPair, turningPair]).skipped = [] :=
  ⟨.of_checks (by decide +kernel) (by decide +kernel) (by decide +kernel) (by decide +kernel),
    by decide +kernel, by decide +kernel, by decide +kernel⟩

end Haml
