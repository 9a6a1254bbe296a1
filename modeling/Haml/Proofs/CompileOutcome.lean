import Haml.Proofs.Lines
import Haml.Proofs.Rendering
import Mathlib.Logic.Relation

/-!
# How a compilation ends

A compilation fails for an error of the template, or because the tree nests too deep, or with the
first attribute that cannot be evaluated. Only attributes of elements that are rendered count: those
below a silent comment are never evaluated. A value that is no literal is left to the run time, but
a literal of the right form that has no value, such as a dictionary with a list as a key, is not.
-/

namespace Haml

open Literal (Fault SetOrder Value)

namespace Literal

/-- Why the text of a value cannot be written. -/
def writeFault? (value : Value) : Option Fault :=
  if value.isWritable then none else some .tooManyDigits

/-- Whether a value can be written does not depend on the order of sets. -/
theorem errorOf?_shown (order : SetOrder) (value : Value) :
    errorOf? (shown order value) = writeFault? value := by
  rw [shown, writeFault?]
  split <;> rfl

end Literal

namespace Attribute

/-- The parts of a literal value whose text a class takes: the true items of a list or tuple, or the
value itself when it is true. -/
def classParts : Value → List Value
  | .list items | .tuple items => items.filter Value.truthy
  | v => [v].filter Value.truthy

/-- The parts of a literal value whose text an attribute takes: a flag has none. -/
def otherParts : Value → List Value
  | .bool _ | .none => []
  | v => [v]

/-- The parts of a literal value whose text an attribute of some name takes. -/
def parts (name : Text) (value : Value) : List Value :=
  if name == "id".toList then [value].filter Value.truthy
  else if name == "class".toList then classParts value
  else otherParts value

/-- Why an attribute cannot be written: its value is a literal that cannot be evaluated, or that has
a part without a text. -/
def fault? (given : Attribute) : Option Fault :=
  match Literal.read given.value with
  | .error fault => some fault
  | .ok none => none
  | .ok (some value) => (parts given.name value).findSome? Literal.writeFault?

/-- Attributes in the order in which they are written. -/
def ordered (attributes : List Attribute) : List Attribute :=
  attributes.filter (·.name == "id".toList) ++ attributes.filter (·.name == "class".toList) ++
    attributes.filter fun given => given.name != "id".toList && given.name != "class".toList

/-- Ordering attributes neither adds nor drops any. -/
theorem mem_ordered {given : Attribute} {attributes : List Attribute} :
    given ∈ ordered attributes ↔ given ∈ attributes := by
  simp only [ordered, List.mem_append, List.mem_filter, Bool.and_eq_true, bne_iff_ne, beq_iff_eq]
  tauto

/-- The first part without a text, of a value that counts when it is true. -/
theorem findSome?_truthy (value : Value) {fault : Value → Option Fault} :
    ([value].filter Value.truthy).findSome? fault =
      if value.truthy = true then fault value else none := by
  split
  · rename_i ht
    rw [List.filter_cons_of_pos ht, List.filter_nil, List.findSome?_singleton]
  · rename_i hf
    rw [List.filter_cons_of_neg hf, List.filter_nil, List.findSome?_nil]

/-- An id takes the text of a value that counts as true. -/
theorem errorOf?_addIdPart (order : SetOrder) (fragments : List Fragment) (value : Text) :
    errorOf? (addIdPart order fragments value) = fault? ⟨"id".toList, value⟩ := by
  rw [addIdPart, fault?]
  cases Literal.read value with
  | error fault => rfl
  | ok read =>
    cases read with
    | none => rfl
    | some literal =>
      change errorOf? (if literal.truthy = true then _ >>= _ else pure fragments) =
        ([literal].filter Value.truthy).findSome? Literal.writeFault?
      rw [findSome?_truthy]
      split
      · exact errorOf?_bind_pure.trans (Literal.errorOf?_shown order literal)
      · rfl

/-- The class texts of a value fail with the first part that cannot be written. -/
theorem errorOf?_classTexts (order : SetOrder) (value : Value) :
    errorOf? (classTexts order value) = (classParts value).findSome? Literal.writeFault? := by
  cases value with
  | list items => exact errorOf?_mapM fun part _ => Literal.errorOf?_shown order part
  | tuple items => exact errorOf?_mapM fun part _ => Literal.errorOf?_shown order part
  | _ =>
    simp only [classTexts, classParts, findSome?_truthy]
    split
    · exact errorOf?_bind_pure.trans (Literal.errorOf?_shown order _)
    · rfl

/-- A class takes the texts of the parts of a value. -/
theorem errorOf?_addClass (order : SetOrder) (values : ClassValues) (value : Text) :
    errorOf? (ClassValues.add order values value) = fault? ⟨"class".toList, value⟩ := by
  rw [ClassValues.add, fault?]
  cases Literal.read value with
  | error fault => rfl
  | ok read =>
    cases read with
    | none => rfl
    | some literal => exact errorOf?_bind_pure.trans (errorOf?_classTexts order literal)

/-- Any other attribute takes the text of its value, unless that is a flag. -/
theorem errorOf?_otherFragments (options : Options) {given : Attribute}
    (hid : given.name ≠ "id".toList) (hclass : given.name ≠ "class".toList) :
    errorOf? (otherFragments options given) = given.fault? := by
  have hparts : ∀ value, parts given.name value = otherParts value := by
    intro value
    rw [parts, if_neg (by simpa using hid), if_neg (by simpa using hclass)]
  rw [otherFragments, fault?]
  cases Literal.read given.value with
  | error fault => rfl
  | ok read =>
    cases read with
    | none => rfl
    | some literal =>
      simp only [hparts, ok_bind]
      cases literal with
      | bool flag =>
        cases flag with
        | true =>
          dsimp only
          split <;> rfl
        | false => rfl
      | none => rfl
      | _ =>
        simp only [otherParts, List.findSome?_singleton]
        exact errorOf?_bind_pure.trans (Literal.errorOf?_shown options.setOrder _)

/-- The values given for a name fail as the attributes of that name do. -/
theorem errorOf?_foldlM_valuesOf {σ : Type} {step : σ → Text → Except Fault σ} {name : Text}
    (h : ∀ s value, errorOf? (step s value) = fault? ⟨name, value⟩) (attributes : List Attribute)
    (s : σ) : errorOf? ((valuesOf name attributes).foldlM step s) =
      (attributes.filter (·.name == name)).findSome? fault? := by
  rw [valuesOf, List.foldlM_map]
  refine errorOf?_foldlM ?_ s
  intro s given hg
  rw [h, ← eq_of_beq (List.mem_filter.mp hg).2]

/-- The id fails with the first of its values that does. -/
theorem errorOf?_idFragments (order : SetOrder) (shorthand : Option Text)
    (attributes : List Attribute) :
    errorOf? (idFragments order shorthand (valuesOf "id".toList attributes)) =
      (attributes.filter (·.name == "id".toList)).findSome? fault? := by
  unfold idFragments
  dsimp only
  rw [errorOf?_bind_of_none, errorOf?_foldlM_valuesOf (errorOf?_addIdPart order)]
  intro parts
  split <;> rfl

/-- The class fails with the first of its values that does. -/
theorem errorOf?_classFragments (order : SetOrder) (shorthand : List Text)
    (attributes : List Attribute) :
    errorOf? (classFragments order shorthand (valuesOf "class".toList attributes)) =
      (attributes.filter (·.name == "class".toList)).findSome? fault? := by
  rw [classFragments, errorOf?_bind_of_none, errorOf?_foldlM_valuesOf (errorOf?_addClass order)]
  intro classes
  split <;> rfl

/-- Attributes are written up to the first that cannot be. -/
theorem errorOf?_serialise (options : Options) (id : Option Text) (classes : List Text)
    (attributes : List Attribute) :
    errorOf? (serialise options id classes attributes) = (ordered attributes).findSome? fault? := by
  have hothers : errorOf? ((attributes.filter fun given => given.name != "id".toList &&
      given.name != "class".toList).mapM (otherFragments options)) =
      (attributes.filter fun given => given.name != "id".toList &&
        given.name != "class".toList).findSome? fault? := by
    refine errorOf?_mapM ?_
    intro given hg
    have hname := (List.mem_filter.mp hg).2
    rw [Bool.and_eq_true, bne_iff_ne, bne_iff_ne] at hname
    exact errorOf?_otherFragments options hname.1 hname.2
  rw [serialise, errorOf?_bind fun _ => errorOf?_bind fun _ => errorOf?_bind_pure, hothers,
    errorOf?_idFragments, errorOf?_classFragments, ordered, List.findSome?_append,
    List.findSome?_append, Option.or_assoc]

end Attribute

/-- The attributes that are evaluated to render a node by itself. -/
def Content.attributes : Content → List Attribute
  | markup (.element element) => Attribute.ordered element.attributes
  | _ => []

namespace Branch

mutual

/-- The attributes that are evaluated to render a branch, in order. -/
def attributes : Branch → List Attribute
  | mk _ node children =>
    node.content.attributes ++ if node.content.rendersBelow then attributesOfAll children else []

/-- The attributes that are evaluated to render several branches, in order. -/
def attributesOfAll : List Branch → List Attribute
  | [] => []
  | branch :: rest => attributes branch ++ attributesOfAll rest

end

/-- The attributes of several branches are those of each of them. -/
theorem mem_attributesOfAll_map {list : List Nat} {f : Nat → Branch} {given : Attribute} :
    given ∈ attributesOfAll (list.map f) ↔ ∃ c ∈ list, given ∈ (f c).attributes := by
  induction list with
  | nil => simp [attributesOfAll]
  | cons c list ih => simp [attributesOfAll, ih]

/-- Only an element can fail to open, and for its attributes. -/
theorem errorOf?_opening (options : Options) (node : Node) (children : List Branch) :
    errorOf? (opening options node children) =
      node.content.attributes.findSome? Attribute.fault? := by
  rw [opening]
  cases node.content with
  | markup markup =>
    cases markup with
    | element element =>
      rw [Content.attributes,
        ← Attribute.errorOf?_serialise options element.id element.classes]
      dsimp only [Markup.openStatements]
      rw [Element.openStatements, errorOf?_bind_of_none]
      intro fragments
      dsimp only
      split
      · rfl
      · split <;> rfl
    | _ => rfl
  | filter line => cases line <;> rfl
  | _ => rfl

mutual

/-- A branch renders up to the first attribute that cannot be evaluated. -/
theorem errorOf?_statements (options : Options) : (branch : Branch) →
    errorOf? (statements options branch) = (attributes branch).findSome? Attribute.fault?
  | mk index node children => by
    have hbody : errorOf? (body options node children) =
        (if node.content.rendersBelow then attributesOfAll children else []).findSome?
          Attribute.fault? := by
      rw [body]
      split
      · exact errorOf?_statementsOfAll options children
      · rfl
    rw [statements_mk, errorOf?_bind fun _ => errorOf?_bind_pure, errorOf?_opening, hbody,
      attributes, List.findSome?_append]

/-- Several branches fail with the first fault among their attributes. -/
theorem errorOf?_statementsOfAll (options : Options) : (branches : List Branch) →
    errorOf? (statementsOfAll options branches) =
      (attributesOfAll branches).findSome? Attribute.fault?
  | [] => rfl
  | branch :: rest => by
    rw [statementsOfAll, errorOf?_bind fun _ => errorOf?_bind_pure,
      errorOf?_statements options branch, errorOf?_statementsOfAll options rest,
      attributesOfAll, List.findSome?_append]

end

end Branch

namespace Tree

variable {tree : Tree} {given : Attribute} {i : Nat}

/-- The node `c` is rendered when the node `p` is. -/
def RendersChild (tree : Tree) (p c : Nat) : Prop :=
  c ∈ tree.children p ∧ (tree.contentAt p).rendersBelow = true

/-- The node is reached from the root by a rendering. -/
def Rendered (tree : Tree) (i : Nat) : Prop := Relation.ReflTransGen tree.RendersChild 0 i

/-- The attribute belongs to an element that is rendered. -/
def Evaluates (tree : Tree) (given : Attribute) : Prop :=
  ∃ i element, tree.Rendered i ∧ tree.contentAt i = .markup (.element element) ∧
    given ∈ element.attributes

/-- The attributes of a branch are those of the elements that are rendered with its node. -/
theorem mem_attributes_branch : given ∈ (tree.branch i (tree.nodeAt i)).attributes ↔
    ∃ j, Relation.ReflTransGen tree.RendersChild i j ∧
      given ∈ (tree.contentAt j).attributes := by
  induction hs : tree.size - i using Nat.strong_induction_on generalizing i with
  | _ size ih =>
    have hbelow : given ∈ Branch.attributesOfAll
        ((tree.children i).map fun c => tree.branch c (tree.nodeAt c)) ↔
        ∃ c ∈ tree.children i, ∃ j, Relation.ReflTransGen tree.RendersChild c j ∧
          given ∈ (tree.contentAt j).attributes := by
      rw [Branch.mem_attributesOfAll_map]
      refine exists_congr fun c => and_congr_right fun hc => ?_
      have hlt := lt_of_mem_children hc
      exact ih _ (by omega) rfl
    rw [branch_eq, Branch.attributes, List.mem_append]
    constructor
    · rintro (hown | hrest)
      · exact ⟨i, .refl, hown⟩
      · split at hrest
        · rename_i hrenders
          obtain ⟨c, hc, j, hj, hgiven⟩ := hbelow.mp hrest
          exact ⟨j, .head ⟨hc, hrenders⟩ hj, hgiven⟩
        · cases hrest
    · rintro ⟨j, hj, hgiven⟩
      rcases hj.cases_head with rfl | ⟨c, ⟨hc, hrenders⟩, hcj⟩
      · exact .inl hgiven
      · refine .inr ?_
        rw [contentAt] at hrenders
        rw [if_pos hrenders]
        exact hbelow.mpr ⟨c, hc, j, hcj, hgiven⟩

/-- All attributes that a template evaluates. -/
theorem Rooted.mem_attributes (h : tree.Rooted) :
    given ∈ (tree.branch 0 Node.root).attributes ↔ tree.Evaluates given := by
  rw [← h.nodeAt_zero, mem_attributes_branch]
  refine exists_congr fun i => ?_
  constructor
  · rintro ⟨hi, hgiven⟩
    cases hc : tree.contentAt i with
    | markup markup =>
      rw [hc] at hgiven
      cases markup with
      | element element => exact ⟨element, hi, rfl, Attribute.mem_ordered.mp hgiven⟩
      | _ => cases hgiven
    | _ =>
      rw [hc] at hgiven
      cases hgiven
  · rintro ⟨element, hi, hc, hgiven⟩
    rw [hc]
    exact ⟨hi, Attribute.mem_ordered.mpr hgiven⟩

end Tree

namespace Text

variable {c : Char}

/-- A run is replaced by its mark where it ends. -/
theorem replaceRuns_cons_cons (inRun : Char → Bool) (mark d e : Char) (rest : Text) :
    replaceRuns inRun mark (d :: e :: rest) =
      if inRun d then
        if inRun e then replaceRuns inRun mark (e :: rest)
        else mark :: replaceRuns inRun mark (e :: rest)
      else d :: replaceRuns inRun mark (e :: rest) := rfl

/-- Runs do not reach over a character that is in no run. -/
theorem replaceRuns_append {inRun : Char → Bool} (hc : inRun c = false) (mark : Char)
    (t more : Text) : replaceRuns inRun mark (t ++ c :: more) =
      replaceRuns inRun mark t ++ c :: replaceRuns inRun mark more := by
  induction t with
  | nil => simp [replaceRuns, hc]
  | cons d rest ih =>
    cases rest with
    | nil =>
      rw [List.singleton_append, replaceRuns_cons_cons, hc, ← List.nil_append (c :: more), ih]
      cases hd : inRun d <;> simp [replaceRuns, hd]
    | cons e rest =>
      rw [List.cons_append, List.cons_append, replaceRuns_cons_cons, ← List.cons_append, ih,
        replaceRuns_cons_cons]
      split
      · split <;> rfl
      · rfl

end Text

namespace Registration

/-- The non-empty segments of a dotted name by itself. -/
def nameSegments (name : Text) : List Text :=
  (List.splitOn '.' (normalise name)).filter fun segment => !segment.isEmpty

/-- The segments of the namespace and those of the name. -/
theorem segments_eq (nameSpace name : Text) :
    segments nameSpace name = nameSegments nameSpace ++ nameSegments name := by
  have hdot : isSeparator '.' = false := by decide
  rw [segments, normalise, Text.replaceRuns_append hdot, List.splitOn_append_cons_self,
    List.filter_append]
  rfl

/-- A namespace and a name with segments of their own give a place to register a function. -/
theorem exists_target {options : Options} {name nameSpace : Text} (hname : nameSegments name ≠ [])
    (hspace : nameSegments (spaceOf options nameSpace) ≠ []) :
    ∃ place, target options name nameSpace = .ok place := by
  rw [target, segments_eq]
  obtain ⟨root, spaces, hroot⟩ := List.exists_cons_of_ne_nil hspace
  rw [hroot, List.cons_append]
  dsimp only
  rw [List.getLast?_append_of_ne_nil _ hname, List.getLast?_eq_some_getLast hname]
  exact ⟨_, rfl⟩

end Registration

/-- A template is refused for its indentation or for a block that is too deep. -/
theorem Template.isSome_kind? {source : Text} {error : TemplateError}
    (h : parse source = .error error) : error.fault.kind?.isSome = true := by
  obtain ⟨-, line, -, n, -, -, hstep⟩ :=
    Nesting.run_eq_error_iff.mp (Nesting.build_eq_error_iff.mp h)
  obtain ⟨-, hfault, -⟩ := Nesting.step_eq_error_iff.mp hstep
  rw [Nesting.fault?] at hfault
  split_ifs at hfault with huneven hdeep horphan
  all_goals
    rw [← Option.some.inj hfault]
    rfl

/-- The code of a node fails when the node nests too deep, or else with the first attribute that
cannot be written. -/
theorem Tree.errorOf?_code {tree : Tree} {i : Nat} (h : i < tree.size) (options : Options) :
    errorOf? (tree.code options i) =
      if (tree.branch i (tree.nodeAt i)).reach ≤ Branch.maxReach then
        ((tree.branch i (tree.nodeAt i)).attributes.findSome? Attribute.fault?).map .literal
      else some .tooDeep := by
  rw [Tree.code, Tree.branch?_of_lt h]
  dsimp only
  split
  · rw [errorOf?_mapError, Branch.code, errorOf?_bind_pure, Branch.errorOf?_statements]
  · rfl

/-- The code of a tree fails if it is too deep, and otherwise with the first fault among its
attributes. -/
theorem Tree.Rooted.errorOf?_code {tree : Tree} (h : tree.Rooted) (options : Options) :
    errorOf? (tree.code options 0) =
      if (tree.branch 0 Node.root).reach ≤ Branch.maxReach then
        ((tree.branch 0 Node.root).attributes.findSome? Attribute.fault?).map .literal
      else some .tooDeep := by
  rw [Tree.errorOf?_code h.size_pos, h.nodeAt_zero]

/-- A node that does not nest too deep has code exactly when no attribute that is rendered with it
has a literal value that cannot be evaluated, and a failure is that of such an attribute. -/
theorem Tree.code_outcome {tree : Tree} {i : Nat} (h : i < tree.size) (options : Options)
    (hreach : (tree.branch i (tree.nodeAt i)).reach ≤ Branch.maxReach) :
    ((∃ text, tree.code options i = .ok text) ↔
      ∀ j given, Relation.ReflTransGen tree.RendersChild i j →
        given ∈ (tree.contentAt j).attributes → given.fault? = none) ∧
    ∀ failure, tree.code options i = .error failure →
      ∃ j given fault, Relation.ReflTransGen tree.RendersChild i j ∧
        given ∈ (tree.contentAt j).attributes ∧ given.fault? = some fault ∧
        failure = .literal fault := by
  have herror := Tree.errorOf?_code h options
  rw [if_pos hreach] at herror
  constructor
  · rw [← errorOf?_eq_none_iff, herror, Option.map_eq_none_iff, List.findSome?_eq_none_iff]
    constructor
    · intro hall j given hj hgiven
      exact hall given (Tree.mem_attributes_branch.mpr ⟨j, hj, hgiven⟩)
    · intro hall given hgiven
      obtain ⟨j, hj, hmem⟩ := Tree.mem_attributes_branch.mp hgiven
      exact hall j given hj hmem
  · intro failure hfailure
    rw [errorOf?_eq_some_iff.mpr hfailure] at herror
    obtain ⟨fault, hfault, rfl⟩ := Option.map_eq_some_iff.mp herror.symm
    obtain ⟨given, hgiven, hof⟩ := List.exists_of_findSome?_eq_some hfault
    obtain ⟨j, hj, hmem⟩ := Tree.mem_attributes_branch.mp hgiven
    exact ⟨j, given, fault, hj, hmem, hof, rfl⟩

/-- A name and a namespace with segments are never the reason of a failure. -/
theorem errorOf?_compile {options : Options} {source name nameSpace : Text} {tree : Tree}
    (hname : Registration.nameSegments name ≠ [])
    (hspace : Registration.nameSegments (Registration.spaceOf options nameSpace) ≠ [])
    (h : Template.parse source = .ok tree) :
    errorOf? (compile options source name nameSpace) = errorOf? (tree.code options 0) := by
  obtain ⟨place, hplace⟩ := Registration.exists_target hname hspace
  rw [compile, h]
  change errorOf? (emit options tree name nameSpace) = _
  rw [emit, hplace]
  exact errorOf?_bind_pure

/-- How a compilation ends, for every name and namespace with at least one segment each. A template
that is refused is reported with its error. Otherwise the compilation fails if the tree nests too
deep; and if it does not, there is code exactly when no attribute of a rendered element has a
literal value that cannot be evaluated, and a failure is that of such an attribute. -/
theorem compile_outcome (options : Options) (source name nameSpace : Text)
    (hname : Registration.nameSegments name ≠ [])
    (hspace : Registration.nameSegments (Registration.spaceOf options nameSpace) ≠ []) :
    (∀ error, Template.parse source = .error error →
      compile options source name nameSpace = .error (.template error) ∧
      error.fault.kind?.isSome = true) ∧
    ∀ tree, Template.parse source = .ok tree → ∃ root, tree.branch? 0 = some root ∧
      (Branch.maxReach < root.reach → compile options source name nameSpace = .error .tooDeep) ∧
      (root.reach ≤ Branch.maxReach →
        ((∃ code, compile options source name nameSpace = .ok code) ↔
          ∀ given, tree.Evaluates given → given.fault? = none) ∧
        ∀ failure, compile options source name nameSpace = .error failure →
          ∃ given fault, tree.Evaluates given ∧ given.fault? = some fault ∧
            failure = .literal fault) := by
  constructor
  · intro error herror
    refine ⟨?_, Template.isSome_kind? herror⟩
    rw [compile, herror]
    rfl
  · intro tree htree
    obtain ⟨n, hrun, rfl⟩ := Nesting.exists_run htree
    have hrooted := (Nesting.reads_run hrun).1.rooted
    have herror := errorOf?_compile hname hspace htree
    rw [hrooted.errorOf?_code] at herror
    refine ⟨_, hrooted.branch?_zero, ?_, ?_⟩
    · intro hdeep
      rw [if_neg (Nat.not_le_of_lt hdeep)] at herror
      exact errorOf?_eq_some_iff.mp herror
    · intro hreach
      rw [if_pos hreach] at herror
      constructor
      · rw [← errorOf?_eq_none_iff, herror, Option.map_eq_none_iff, List.findSome?_eq_none_iff]
        exact forall_congr' fun given => imp_congr_left hrooted.mem_attributes
      · intro failure hfailure
        rw [errorOf?_eq_some_iff.mpr hfailure] at herror
        obtain ⟨fault, hfault, rfl⟩ := Option.map_eq_some_iff.mp herror.symm
        obtain ⟨given, hgiven, hof⟩ := List.exists_of_findSome?_eq_some hfault
        exact ⟨given, fault, hrooted.mem_attributes.mp hgiven, hof, rfl⟩

/-- A template with an attribute whose value has a list as a key. -/
def listKey : Text := "%p\x7ba: \x7b[]: 1\x7d\x7d".toList

/-- The tree of `listKey`. -/
def listKeyTree : Tree := (Template.parse listKey).toOption.getD Tree.empty

/-- The template is accepted, but there is no code for it, and the failure is no error of the
template. -/
theorem compile_outcome_listKey :
    Template.parse listKey = .ok listKeyTree ∧
      (¬∃ code, compile {} listKey "template".toList [] = .ok code) ∧
      compile {} listKey "template".toList [] = .error (.literal .unhashable) := by
  have hparse : Template.parse listKey = .ok listKeyTree := by decide +kernel
  obtain ⟨root, hroot, -, hfit⟩ := (compile_outcome {} listKey "template".toList []
    (by decide +kernel) (by decide +kernel)).2 listKeyTree hparse
  have hread : (listKeyTree.branch? 0).map (fun root => (root.reach, root.attributes)) =
      some (2, [⟨"a".toList, "\x7b[]: 1\x7d".toList⟩]) := by decide +kernel
  rw [hroot] at hread
  obtain ⟨hreach, hattributes⟩ := Prod.mk.inj (Option.some.inj hread)
  have hevaluates : listKeyTree.Evaluates ⟨"a".toList, "\x7b[]: 1\x7d".toList⟩ := by
    obtain ⟨n, hrun, htree⟩ := Nesting.exists_run hparse
    have hrooted : listKeyTree.Rooted := htree ▸ (Nesting.reads_run hrun).1.rooted
    obtain rfl := Option.some.inj (hrooted.branch?_zero.symm.trans hroot)
    rw [← hrooted.mem_attributes, hattributes]
    exact List.mem_cons_self
  refine ⟨hparse, ?_, by decide +kernel⟩
  rw [(hfit (by rw [hreach]; decide)).1]
  intro hall
  exact absurd (hall _ hevaluates) (by decide +kernel)

end Haml
