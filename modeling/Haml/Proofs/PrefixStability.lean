import Haml.Proofs.Concatenation
import Haml.Proofs.FilterBody

/-!
# Lines added at the end

Reading a template only ever adds to what is there. Whatever follows some lines, the logical lines
before their last one stay, and the last one keeps its number and its width, though its expression
can become longer. Where a line goes, and whether it is refused, depends on no more than that. So an
error is not mended by lines after it. When the last line is not continued, the nodes stay as they
are, and a node gets further children only among the nodes of the later lines.
-/

namespace Haml

namespace LogicalLine

/-- Nothing is joined to a blank line. -/
theorem joinLines_nil (lines : List Text) : (joinLines [] lines).expression = [] := by
  cases lines with
  | nil => rfl
  | cons next rest =>
    rw [joinLines, if_neg (by rw [not_continues_nil]; exact Bool.false_ne_true)]

/-- A logical line is blank exactly if its first physical line is. -/
theorem joinLines_eq_nil_iff {expression : Text} {lines : List Text} :
    (joinLines expression lines).expression = [] ↔ expression = [] := by
  constructor
  · intro h
    obtain ⟨more, hmore⟩ := exists_joinLines_eq expression lines
    rw [hmore] at h
    exact (List.append_eq_nil_iff.mp h).1
  · rintro rfl
    exact joinLines_nil lines

/-- Lines at the end can change the expression of the last logical line and no other. -/
theorem exists_ofLines_append (number : Nat) {lines : List Text} (hne : lines ≠ [])
    (more : List Text) :
    ∃ front line text later, ofLines number lines = front ++ [line] ∧
      ofLines number (lines ++ more) = front ++ { line with expression := text } :: later ∧
      (text = [] ↔ line.expression = []) := by
  induction hl : lines.length using Nat.strong_induction_on generalizing number lines with
  | _ size ih =>
    cases lines with
    | nil => exact absurd rfl hne
    | cons first rest =>
      obtain ⟨taken, tail, expression, rfl, hnext, heq⟩ := ofLines_cons_eq number first rest
      cases tail with
      | nil =>
        have hone := heq [] hnext
        have hline := (List.cons.inj (hone.symm.trans (ofLines_cons number first (taken ++ [])))).1
        rw [List.append_nil] at hone hline
        rw [List.append_nil, hone, ofLines_nil, List.cons_append, ofLines_cons, hline]
        exact ⟨[], _, (joinLines (Text.trim first) (taken ++ more)).expression, _, rfl, rfl,
          joinLines_eq_nil_iff.trans joinLines_eq_nil_iff.symm⟩
      | cons second tail =>
        rw [List.length_cons, List.length_append] at hl
        obtain ⟨front, line, text, later, hfront, hwhole, htext⟩ :=
          ih (second :: tail).length (by omega) (number + 1 + taken.length)
            (List.cons_ne_nil second tail) rfl
        have hsame : ∀ next ∈ (second :: (tail ++ more)).head?,
            continues expression next = false := hnext
        rw [List.cons_append] at hwhole
        rw [heq _ hnext, hfront, List.cons_append, List.append_assoc, List.cons_append, heq _ hsame,
          hwhole]
        exact ⟨_ :: front, line, text, later, rfl, rfl, htext⟩

end LogicalLine

namespace Nesting

variable {n : Nesting} {line : LogicalLine} {error : TemplateError}

/-- What is refused about a line is its width. -/
theorem step_error_of_expression (h : n.step line = .error error) {text : Text}
    (ht : text = [] ↔ line.expression = []) :
    n.step { line with expression := text } = .error error := by
  rw [step_eq_error_iff] at h ⊢
  exact ⟨mt ht.mp h.1, h.2⟩

/-- An error stays when the last line becomes longer and lines follow. -/
theorem run_error_of_longer {front later : List LogicalLine} {text : Text}
    (h : run (front ++ [line]) = .error error) (ht : text = [] ↔ line.expression = []) :
    run (front ++ { line with expression := text } :: later) = .error error := by
  rw [run_concat] at h
  rw [run_append]
  cases hfront : run front with
  | error other =>
    rw [hfront] at h
    exact h
  | ok n =>
    rw [hfront] at h
    change List.foldlM step n ({ line with expression := text } :: later) = _
    rw [List.foldlM_cons, step_error_of_expression h ht]
    rfl

end Nesting

namespace Tree

variable {first whole : Tree}

/-- A tree that starts with the nodes of another. -/
theorem nodes_prefix_of_nodeAt (hsize : first.size ≤ whole.size)
    (hnodes : ∀ i < first.size, whole.nodeAt i = first.nodeAt i) :
    first.nodes.toList <+: whole.nodes.toList := by
  rw [List.prefix_iff_getElem?]
  intro i hi
  have hlt : i < first.size := by rwa [Array.length_toList] at hi
  have hget : whole.get? i = first.get? i := by
    rw [get?_eq_some_nodeAt hlt, get?_eq_some_nodeAt (by omega), hnodes i hlt]
  rw [Array.getElem?_toList, ← List.getElem?_eq_getElem hi, Array.getElem?_toList]
  exact hget

/-- A node keeps its children, and gets further ones after them only among later nodes. -/
def ChildrenGrow (first whole : Tree) (i : Nat) : Prop :=
  ∃ later, whole.children i = first.children i ++ later ∧
    ∀ j ∈ later, first.size ≤ j ∧ j < whole.size

/-- Without new nodes there are no new children. -/
theorem ChildrenGrow.refl (tree : Tree) (i : Nat) : tree.ChildrenGrow tree i :=
  ⟨[], (List.append_nil _).symm, List.forall_mem_nil _⟩

/-- A new node is a further child of its parent, and of no other node. -/
theorem childrenGrow_add (tree : Tree) (node : Node) (i : Nat) :
    tree.ChildrenGrow (tree.add node) i := by
  refine ⟨_, children_add tree node i, fun j hj => ?_⟩
  rw [size_add]
  split at hj
  · obtain rfl := List.mem_singleton.mp hj
    omega
  · cases hj

/-- Children that grow twice have grown. -/
theorem ChildrenGrow.trans {middle : Tree} {i : Nat} (h : first.ChildrenGrow middle i)
    (hmore : middle.ChildrenGrow whole i) (hfirst : first.size ≤ middle.size)
    (hmiddle : middle.size ≤ whole.size) : first.ChildrenGrow whole i := by
  obtain ⟨later, hlater, hbounds⟩ := h
  obtain ⟨last, hlast, hbounds'⟩ := hmore
  refine ⟨later ++ last, by rw [hlast, hlater, List.append_assoc], fun j hj => ?_⟩
  obtain hj | hj := List.mem_append.mp hj
  · have := hbounds j hj
    omega
  · have := hbounds' j hj
    omega

end Tree

namespace Nesting

variable {n m : Nesting}

/-- One line adds at most one node, as the last child of its parent. -/
theorem step_children {line : LogicalLine} (h : n.step line = .ok m) (i : Nat) :
    n.tree.ChildrenGrow m.tree i := by
  obtain ⟨-, -, rfl⟩ | ⟨-, top, -, rfl⟩ | ⟨-, -, rfl⟩ := step_cases h
  · exact .refl _ i
  · exact Tree.childrenGrow_add n.tree _ i
  · rw [tree_add, tree_moveTo]
    exact Tree.childrenGrow_add n.tree _ i

/-- All lines together add children only after those that are there. -/
theorem foldlM_children {lines : List LogicalLine} (h : lines.foldlM Nesting.step n = .ok m)
    (i : Nat) : n.tree.ChildrenGrow m.tree i := by
  induction lines generalizing n with
  | nil =>
    obtain rfl : n = m := Except.ok.inj h
    exact .refl n.tree i
  | cons line lines ih =>
    obtain ⟨next, hstep, hrest⟩ := exists_foldlM_cons h
    exact (step_children hstep i).trans (ih hrest) (step_frame hstep).1 (foldlM_frame hrest).1

end Nesting

namespace Template

open LogicalLine (ofLines continues)

/-- An error of some lines is the error of all longer lists of lines. -/
theorem parseLines_error_append {lines : List Text} {error : TemplateError}
    (h : parseLines lines = .error error) (more : List Text) :
    parseLines (lines ++ more) = .error error := by
  rw [parseLines, Nesting.build_eq_error_iff] at h ⊢
  cases lines with
  | nil =>
    rw [LogicalLine.ofLines_nil] at h
    cases h
  | cons line lines =>
    obtain ⟨front, last, text, later, hlines, hwhole, htext⟩ :=
      LogicalLine.exists_ofLines_append 0 (List.cons_ne_nil line lines) more
    rw [hlines] at h
    rw [hwhole]
    exact Nesting.run_error_of_longer h htext

/-- Reading is stable under lines added at the end. An error of the first lines is the error of all.
If all lines are accepted then so are the first; and when the line after them does not continue
their last one, their nodes are the first nodes of the whole, in every field, and each node keeps
its children and gets further ones only among the later nodes. -/
theorem parseLines_stable (lines more : List Text) :
    (∀ error, parseLines lines = .error error → parseLines (lines ++ more) = .error error) ∧
    ∀ whole, parseLines (lines ++ more) = .ok whole → ∃ tree, parseLines lines = .ok tree ∧
      ((∀ line ∈ (ofLines 0 lines).getLast?, ∀ next ∈ more.head?,
          continues line.expression next = false) →
        tree.nodes.toList <+: whole.nodes.toList ∧
        ∀ i < tree.size, ∃ later, whole.children i = tree.children i ++ later ∧
          ∀ j ∈ later, tree.size ≤ j ∧ j < whole.size) := by
  refine ⟨fun error h => parseLines_error_append h more, ?_⟩
  intro whole hwhole
  cases hlines : parseLines lines with
  | error error =>
    rw [parseLines_error_append hlines more] at hwhole
    cases hwhole
  | ok tree =>
    refine ⟨tree, rfl, ?_⟩
    intro hapart
    obtain ⟨n, hn, rfl⟩ := Nesting.build_eq_ok_iff.mp hlines
    rw [parseLines, LogicalLine.ofLines_append_of_apart hapart] at hwhole
    obtain ⟨m, hm, rfl⟩ := Nesting.build_eq_ok_iff.mp hwhole
    obtain ⟨mid, hmid, hrest⟩ := Nesting.exists_run_of_append hm
    obtain rfl : n = mid := Except.ok.inj (hn.symm.trans hmid)
    obtain ⟨hsize, hnodes⟩ := Nesting.foldlM_frame hrest
    exact ⟨Tree.nodes_prefix_of_nodeAt hsize hnodes,
      fun i _ => Nesting.foldlM_children hrest i⟩

/-- Lines of which the last is at no whole level, and is still open. -/
def unevenEnd : List Text := ["%p".toList, "  %i".toList, "   %b\x7b".toList]

/-- The error at the end stays when the open line is continued. The tree of the lines with a filter
stays, and its filter gets the blank line that follows. -/
theorem parseLines_stable_filterEnd :
    parseLines unevenEnd = .error ⟨.uneven 3 2, 3⟩ ∧
    parseLines (unevenEnd ++ ["a: 1".toList]) = .error ⟨.uneven 3 2, 3⟩ ∧
    ∃ whole later, parseLines (filterEnd ++ blankStart) = .ok whole ∧
      (treeOf filterEnd).nodes.toList <+: whole.nodes.toList ∧
      whole.children 2 = (treeOf filterEnd).children 2 ++ later ∧
      ∀ j ∈ later, (treeOf filterEnd).size ≤ j ∧ j < whole.size := by
  have herror : parseLines unevenEnd = .error ⟨.uneven 3 2, 3⟩ := by decide +kernel
  refine ⟨herror, (parseLines_stable unevenEnd _).1 _ herror, ?_⟩
  have hwhole : parseLines (filterEnd ++ blankStart) = .ok (treeOf (filterEnd ++ blankStart)) := by
    decide +kernel
  have htree : parseLines filterEnd = .ok (treeOf filterEnd) := by decide +kernel
  have hapart : ∀ line ∈ (ofLines 0 filterEnd).getLast?, ∀ next ∈ blankStart.head?,
      continues line.expression next = false := by decide +kernel
  obtain ⟨tree, hlines, hstable⟩ := (parseLines_stable filterEnd blankStart).2 _ hwhole
  obtain rfl : treeOf filterEnd = tree := Except.ok.inj (htree.symm.trans hlines)
  obtain ⟨hnodes, hchildren⟩ := hstable hapart
  obtain ⟨later, hlater, hbounds⟩ := hchildren 2 (by decide +kernel)
  exact ⟨_, later, hwhole, hnodes, hlater, hbounds⟩

end Template

end Haml
