import Haml.Build
import Haml.Proofs.ConfigOutcome
import Mathlib.Data.List.Forall2

/-!
# Projects in another directory

The paths of a configuration are those of its document, joined to the directory of the project. A
project whose templates and base are given by relative paths can be moved: from the base on, the
path of a template does not depend on the directory in front of both. So its templates have the same
names everywhere, and the same text compiles to the same module.
-/

namespace Haml

namespace Path

variable {path base root : Path}

/-- A path from here is the path. -/
theorem here_join (path : Path) : here.join path = path := by
  rw [join]
  split
  · rename_i hrelative
    exact Path.ext (eq_of_beq hrelative).symm (List.nil_append _)
  · rfl

/-- A path from which one goes nowhere is the path. -/
theorem join_here (root : Path) : root.join here = root := by simp [join, here]

/-- A text that does not start with a slash is a relative path. -/
theorem anchor_ofText_eq_relative {t : Text} (h : t.head? ≠ some '/') :
    (ofText t).anchor = .relative := by
  cases t with
  | nil => rfl
  | cons c t =>
    have hc : c ≠ '/' := by simpa using h
    simp [ofText, anchorOf, hc]

/-- From a base directory on, a path does not depend on the directory in front of both. -/
theorem relativeTo_join_eq_ok_iff (root : Path) (hpath : path.anchor = .relative)
    (hbase : base.anchor = .relative) {rest : Path} :
    (root.join path).relativeTo (root.join base) = .ok rest ↔ path.relativeTo base = .ok rest := by
  have hinside : (root.parts ++ base.parts).isPrefixOf (root.parts ++ path.parts) =
      base.parts.isPrefixOf path.parts := by
    rw [Bool.eq_iff_iff, List.isPrefixOf_iff_prefix, List.isPrefixOf_iff_prefix,
      List.prefix_append_right_inj]
  have hrest : (root.parts ++ path.parts).drop (root.parts ++ base.parts).length =
      path.parts.drop base.parts.length := by
    rw [List.length_append, List.drop_append, ← List.drop_drop, List.drop_length]
    simp
  simp only [relativeTo, join, hpath, hbase, beq_self_eq_true, if_true, hinside, hrest]
  split <;> simp

/-- The name of a template does not depend on where both its path and the base are. -/
theorem templateName_join_eq_ok_iff (root : Path) (hpath : path.anchor = .relative)
    (hbase : base.anchor = .relative) {name : Text} :
    templateName (root.join path) (some (root.join base)) = .ok name ↔
      templateName path (some base) = .ok name := by
  simp only [templateName, bind_eq_ok_iff, relativeTo_join_eq_ok_iff root hpath hbase]

end Path

/-- The pair with both paths taken from a directory on. -/
def WritePair.movedTo (root : Path) (pair : WritePair) : WritePair :=
  ⟨root.join pair.src, root.join pair.dst⟩

namespace Config

variable {data : Data} {plain : Config}

/-- The configuration with its paths taken from a directory on. -/
def movedTo (root : Path) (config : Config) : Config :=
  { config with
    base := config.base.map root.join
    write := config.write.map (·.movedTo root)
    root := root }

/-- A path is read as from here, and moved. -/
theorem pathFrom_eq (root : Path) (value : Data) :
    pathFrom root value = (pathFrom .here value).map root.join := by
  cases value with
  | text t => rw [pathFrom, pathFrom, Path.here_join]; rfl
  | _ => rfl

/-- An entry is read as from here, and moved. -/
theorem writePair_eq (root : Path) (item : Data) :
    writePair root item = (writePair .here item).map (·.movedTo root) := by
  rw [writePair.eq_def, writePair.eq_def]
  split
  · split
    · rename_i src dst _ _
      rw [pathFrom_eq root src, pathFrom_eq root dst]
      cases pathFrom .here src with
      | error error => rfl
      | ok src => cases pathFrom .here dst <;> rfl
    · rfl
  · rfl

/-- Entries are read as from here, and moved. -/
theorem mapM_writePair_eq (root : Path) (items : List Data) :
    items.mapM (writePair root) =
      (items.mapM (writePair .here)).map (List.map (·.movedTo root)) := by
  induction items with
  | nil => rfl
  | cons item items ih =>
    rw [List.mapM_cons, List.mapM_cons, writePair_eq root item, ih]
    cases writePair .here item with
    | error error => rfl
    | ok pair => cases items.mapM (writePair .here) <;> rfl

/-- The pairs are read as from here, and moved. -/
theorem pairsFrom_eq (root : Path) (value : Data) :
    pairsFrom root value = (pairsFrom .here value).map (List.map (·.movedTo root)) := by
  rw [pairsFrom, pairsFrom]
  cases iterate value with
  | error error => rfl
  | ok items => exact mapM_writePair_eq root items

/-- The base is read as from here, and moved. -/
theorem baseFrom_eq (root : Path) (value : Data) :
    baseFrom root value = (baseFrom .here value).map (Option.map root.join) := by
  rw [baseFrom, baseFrom]
  split
  · rw [pathFrom_eq root value]
    cases pathFrom .here value <;> rfl
  · rfl

/-- A configuration is read as in the working directory and then moved. -/
theorem ofData_eq_map_movedTo (data : Data) (root : Path) :
    ofData data root = (ofData data .here).map (movedTo root) := by
  by_cases hmapping : IsMapping data
  · rw [ofData_eq hmapping, ofData_eq hmapping, pairsFrom_eq root, baseFrom_eq root]
    cases (Options.ofData (setting data "options")).mapError Error.invalid with
    | error error => rfl
    | ok options =>
      cases pairsFrom .here (setting data "write") with
      | error error => rfl
      | ok write =>
        cases baseFrom .here (setting data "base") with
        | error error => rfl
        | ok base => cases watchPatterns (setting data "watch") <;> rfl
  · rw [ofData_of_not_isMapping hmapping, ofData_of_not_isMapping hmapping]
    rfl

/-- Templates and base are given by relative paths. -/
structure RelativePaths (data : Data) : Prop where
  /-- The paths of templates are relative. -/
  src : ∀ items, setting data "write" = .list items → ∀ entries, Data.mapping entries ∈ items →
    ∀ t, Data.get? entries "src".toList = some (.text t) → t.head? ≠ some '/'
  /-- So is the base. -/
  base : ∀ t, setting data "base" = .text t → t.head? ≠ some '/'

/-- Only a list has a mapping among its items. -/
theorem eq_list_of_mapping_mem {value : Data} {items : List Data} {entries : List (Text × Data)}
    (h : iterate value = .ok items) (hmem : Data.mapping entries ∈ items) :
    value = .list items := by
  rw [iterate.eq_def] at h
  split at h
  · obtain rfl := Except.ok.inj h
    cases hmem
  · split at h
    · rw [Except.ok.inj h]
    · obtain rfl := Except.ok.inj h
      simp at hmem
    · obtain rfl := Except.ok.inj h
      simp at hmem
    · cases h

/-- What is read of a mapping are the parts of the configuration. -/
theorem parts_of_ofData {root : Path} {config : Config} (h : ofData data root = .ok config) :
    pairsFrom root (setting data "write") = .ok config.write ∧
      baseFrom root (setting data "base") = .ok config.base ∧ config.root = root := by
  have hmapping : IsMapping data := by
    by_contra hno
    rw [ofData_of_not_isMapping hno] at h
    cases h
  rw [ofData_eq hmapping] at h
  obtain ⟨options, -, h⟩ := bind_eq_ok_iff.mp h
  obtain ⟨write, hwrite, h⟩ := bind_eq_ok_iff.mp h
  obtain ⟨base, hbase, h⟩ := bind_eq_ok_iff.mp h
  obtain ⟨watch, -, h⟩ := bind_eq_ok_iff.mp h
  obtain rfl := Except.ok.inj h
  exact ⟨hwrite, hbase, rfl⟩

/-- A document with relative paths has relative paths of templates. -/
theorem RelativePaths.src_anchor (h : RelativePaths data) (hread : ofData data .here = .ok plain)
    {pair : WritePair} (hpair : pair ∈ plain.write) : pair.src.anchor = .relative := by
  obtain ⟨hpairs, -⟩ := parts_of_ofData hread
  obtain ⟨items, hitems, hpairs⟩ := bind_eq_ok_iff.mp hpairs
  obtain ⟨item, hitem, hof⟩ := exists_of_mem_mapM hpairs hpair
  rw [writePair.eq_def] at hof
  split at hof
  · rename_i entries
    have hlist := eq_list_of_mapping_mem hitems hitem
    split at hof
    · rename_i src dst hsrc hdst
      obtain ⟨first, hfirst, hof⟩ := bind_eq_ok_iff.mp hof
      obtain ⟨second, -, hof⟩ := bind_eq_ok_iff.mp hof
      obtain rfl := Except.ok.inj hof
      cases src with
      | text t =>
        obtain rfl := Except.ok.inj hfirst
        rw [Path.here_join]
        exact Path.anchor_ofText_eq_relative (h.src items hlist entries hitem t hsrc)
      | _ => cases hfirst
    · cases hof
  · cases hof

/-- A document with relative paths has a relative base. -/
theorem RelativePaths.base_anchor (h : RelativePaths data) (hread : ofData data .here = .ok plain) :
    plain.nameBase.anchor = .relative := by
  obtain ⟨-, hbase, hroot⟩ := parts_of_ofData hread
  rw [nameBase, hroot]
  rw [baseFrom] at hbase
  split at hbase
  · cases hvalue : setting data "base" with
    | text t =>
      rw [hvalue] at hbase
      rw [← Except.ok.inj hbase]
      change (Path.here.join (Path.ofText t)).anchor = _
      rw [Path.here_join]
      exact Path.anchor_ofText_eq_relative (h.base t hvalue)
    | _ =>
      rw [hvalue] at hbase
      cases hbase
  · rw [← Except.ok.inj hbase]
    rfl

/-- Names start from the base in the directory that a project was moved to. -/
theorem nameBase_movedTo (root : Path) (hroot : plain.root = .here) :
    (plain.movedTo root).nameBase = root.join plain.nameBase := by
  rw [nameBase, nameBase, movedTo, hroot]
  cases plain.base with
  | none => exact (Path.join_here root).symm
  | some base => rfl

/-- The code of a template that can be read follows from its name and its text. -/
theorem compileFile_eq_ok_iff {options : Options} {files : FileSystem} {path base : Path}
    {source code : Text} (hread : files.read path = .ok source) :
    compileFile options files path (some base) [] [] = .ok code ↔
      ∃ name, templateName path (some base) = .ok name ∧
        compile options source name [] = .ok code := by
  have hfile : compileFile options files path (some base) [] [] =
      (templateName path (some base)).mapError .path >>= fun name =>
        (files.read path).mapError .file >>= fun source =>
          (compile options source name []).mapError .compile := rfl
  simp only [hfile, hread, bind_eq_ok_iff, mapError_eq_ok_iff, Except.ok.injEq, exists_eq_left']

/-- The templates of two pairs have the same name or none, and the same module where they have the
same text. -/
structure BuildsAlike (config moved : Config) (pair copy : WritePair) : Prop where
  /-- They have the same name or none. -/
  name : ∀ name, templateName pair.src (some config.nameBase) = .ok name ↔
    templateName copy.src (some moved.nameBase) = .ok name
  /-- They have the same module where they have the same text. -/
  code : ∀ (files others : FileSystem) (source : Text), files.read pair.src = .ok source →
    others.read copy.src = .ok source → ∀ code,
      compileFile config.options files pair.src (some config.nameBase) [] [] = .ok code ↔
        compileFile moved.options others copy.src (some moved.nameBase) [] [] = .ok code

/-- A pair of relative paths builds alike from wherever it is moved to. -/
theorem buildsAlike_movedTo (hrelative : RelativePaths data) (hread : ofData data .here = .ok plain)
    (root other : Path) {pair : WritePair} (hpair : pair ∈ plain.write) :
    BuildsAlike (plain.movedTo root) (plain.movedTo other) (pair.movedTo root)
      (pair.movedTo other) := by
  have hsrc := hrelative.src_anchor hread hpair
  have hbase := hrelative.base_anchor hread
  obtain ⟨-, -, hroot⟩ := parts_of_ofData hread
  have hname (directory : Path) (name : Text) :
      templateName (pair.movedTo directory).src (some (plain.movedTo directory).nameBase) =
          .ok name ↔ templateName pair.src (some plain.nameBase) = .ok name := by
    rw [nameBase_movedTo directory hroot]
    exact Path.templateName_join_eq_ok_iff directory hsrc hbase
  refine ⟨fun name => (hname root name).trans (hname other name).symm, ?_⟩
  intro files others source hfile hother code
  rw [compileFile_eq_ok_iff hfile, compileFile_eq_ok_iff hother]
  simp only [hname]
  rfl

/-- A project that is read from relative paths can be moved. Its document is read in any other
directory, with the same options, and pair by pair the templates have the same names, or none in
both, and the same text compiles to the same module. -/
theorem ofData_relocated {data : Data} {root : Path} {config : Config} (other : Path)
    (hread : ofData data root = .ok config) (hrelative : RelativePaths data) :
    ∃ moved, ofData data other = .ok moved ∧ moved.options = config.options ∧
      List.Forall₂ (BuildsAlike config moved) config.write moved.write := by
  rw [ofData_eq_map_movedTo] at hread ⊢
  cases hplain : ofData data .here with
  | error error =>
    rw [hplain] at hread
    cases hread
  | ok plain =>
    rw [hplain] at hread
    obtain rfl : plain.movedTo root = config := Except.ok.inj hread
    refine ⟨plain.movedTo other, rfl, rfl, ?_⟩
    change List.Forall₂ _ (plain.write.map _) (plain.write.map _)
    rw [List.forall₂_map_left_iff, List.forall₂_map_right_iff, List.forall₂_same]
    exact fun pair hpair => buildsAlike_movedTo hrelative hplain root other hpair

/-- A document with dots in its paths, and a template outside of its base. -/
def dottedDocument : Data :=
  .mapping [
    ("base".toList, .text "./a/../t".toList),
    ("write".toList, .list [
      .mapping [("src".toList, .text "a/.././t/users/show-item.haml".toList),
        ("dst".toList, .text "/out/a.py".toList)],
      .mapping [("src".toList, .text "t/b.haml".toList), ("dst".toList, .text "b.py".toList)]])]

/-- A document with dots in its paths, read here and elsewhere: the name of the first template is
the same, and the second has none in either place. -/
theorem ofData_relocated_dotted :
    RelativePaths dottedDocument ∧
    ∃ config moved first firstCopy second secondCopy,
      ofData dottedDocument .here = .ok config ∧
      ofData dottedDocument (.ofText "/srv/../shop".toList) = .ok moved ∧
      config.write = [first, second] ∧ moved.write = [firstCopy, secondCopy] ∧
      templateName firstCopy.src (some moved.nameBase) = .ok "users.show_item".toList ∧
      ∀ name, templateName secondCopy.src (some moved.nameBase) ≠ .ok name := by
  have hrelative : RelativePaths dottedDocument := by
    refine ⟨fun items hitems entries hmem t ht => ?_, fun t ht => ?_⟩
    · cases hitems
      obtain rfl | rfl : entries = _ ∨ entries = _ := by simpa using hmem
      · obtain rfl := Data.text.inj (Option.some.inj ht)
        decide
      · obtain rfl := Data.text.inj (Option.some.inj ht)
        decide
    · cases ht
      decide
  obtain ⟨config, hconfig⟩ : ∃ config, ofData dottedDocument .here = .ok config := ⟨_, rfl⟩
  obtain ⟨moved, hmoved, -, halike⟩ :=
    ofData_relocated (.ofText "/srv/../shop".toList) hconfig hrelative
  have hfirst : templateName (.ofText "a/.././t/users/show-item.haml".toList)
      (some (.ofText "./a/../t".toList)) = .ok "users.show_item".toList := by decide +kernel
  have hsecond : templateName (.ofText "t/b.haml".toList) (some (.ofText "./a/../t".toList)) =
      .error (.outside (.ofText "t/b.haml".toList) (.ofText "./a/../t".toList)) := by decide +kernel
  cases hconfig
  obtain ⟨firstCopy, copies, hfirstCopy, hrest, hcopies⟩ := List.forall₂_cons_left_iff.mp halike
  obtain ⟨secondCopy, copies, hsecondCopy, hnone, rfl⟩ := List.forall₂_cons_left_iff.mp hrest
  obtain rfl := List.forall₂_nil_left_iff.mp hnone
  refine ⟨hrelative, _, moved, _, firstCopy, _, secondCopy, rfl, hmoved, rfl, hcopies,
    (hfirstCopy.name _).mp hfirst, fun name hname => ?_⟩
  cases hsecond.symm.trans ((hsecondCopy.name name).mpr hname)

end Config

end Haml
