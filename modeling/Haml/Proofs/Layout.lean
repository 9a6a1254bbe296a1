import Haml.Proofs.BlockIndentation

/-!
# The layout of the code of a node

The code of a node is a list of lines: those that open the node, those of its children, and those
that close it. All of them are indented at least to the level of the node. The lines of the node
itself are indented exactly so far, the content of a `python` filter by its own indentation more.
The lines below a line of code make up a block that is one level deeper and never empty. A node has
no code when it nests too deep, or when an attribute that is rendered with it has a literal value
that cannot be evaluated.
-/

namespace Haml

/-- The line starts with some number of spaces, and then has a visible character. -/
def Text.StartsAt (column : Nat) (line : Text) : Prop :=
  ∃ c rest, line = List.replicate column ' ' ++ c :: rest ∧ isBlank c = false

/-- A level of code is four spaces. -/
theorem Text.times_codeIndent (level : Nat) :
    times level codeIndent = List.replicate (4 * level) ' ' := by
  have hindent : codeIndent = List.replicate 4 ' ' := rfl
  rw [times, hindent, List.flatten_replicate_replicate, Nat.mul_comm]

/-- The line of code of an action starts with its own indentation. -/
theorem Action.OneLine.startsAt {action : Action} (h : action.OneLine) :
    Text.StartsAt action.pad action.text := by
  obtain ⟨more, hmore⟩ : ∃ more, action.text = List.replicate action.pad ' ' ++ more := by
    cases action with
    | raw pad code => exact ⟨code, rfl⟩
    | _ => exact ⟨_, rfl⟩
  have hwidth := h.width
  rw [hmore, LogicalLine.indentation_append (Text.isBlank_of_mem_replicate _), List.length_append,
    List.length_replicate] at hwidth
  have hstart : LogicalLine.indentation more = [] := List.eq_nil_of_length_eq_zero (by omega)
  cases more with
  | nil =>
    obtain ⟨c, hc, hvisible⟩ := h.visible
    rw [hmore, List.append_nil] at hc
    rw [Text.isBlank_of_mem_replicate _ c hc] at hvisible
    cases hvisible
  | cons c rest =>
    refine ⟨c, rest, hmore, ?_⟩
    by_contra hblank
    rw [LogicalLine.indentation, List.takeWhile_cons_of_pos (by simpa using hblank)] at hstart
    cases hstart

namespace Statement

/-- A statement as a line of code, without the line end. -/
def line (s : Statement) : Text := Text.times s.level codeIndent ++ s.action.text

/-- The text of a statement is its line and a line break. -/
theorem text_eq (s : Statement) : s.text = s.line ++ ['\n'] := rfl

variable {s : Statement}

/-- A statement without line breaks is written on one line. -/
theorem unbroken_line (h : s.action.OneLine) : s.line.Unbroken :=
  Text.unbroken_append.mpr
    ⟨(by decide : codeIndent.Unbroken).mono (Text.times_subset _ _), h.unbroken⟩

/-- A line starts at the column of its level and padding. -/
theorem startsAt_line (h : s.action.OneLine) :
    Text.StartsAt (4 * s.level + s.action.pad) s.line := by
  obtain ⟨c, rest, htext, hvisible⟩ := h.startsAt
  refine ⟨c, rest, ?_, hvisible⟩
  rw [line, Text.times_codeIndent, htext, ← List.append_assoc, List.replicate_append_replicate]

/-- A line of raw code is the code after its spaces. -/
theorem line_raw (level pad : Nat) (code : Text) :
    line ⟨level, .raw pad code⟩ = List.replicate (4 * level + pad) ' ' ++ code := by
  change Text.times level codeIndent ++ (List.replicate pad ' ' ++ code) = _
  rw [Text.times_codeIndent, ← List.append_assoc, List.replicate_append_replicate]

/-- A line starts with the spaces of every level up to its own. -/
theorem replicate_isPrefix_line {level : Nat} (h : level ≤ s.level) :
    List.replicate (4 * level) ' ' <+: s.line := by
  obtain ⟨more, hmore⟩ := Nat.exists_eq_add_of_le h
  rw [line, Text.times_codeIndent, hmore, Nat.mul_add, ← List.replicate_append_replicate,
    List.append_assoc]
  exact List.prefix_append _ _

end Statement

/-- What is rendered with a branch nests no deeper than the branch. -/
theorem Branch.reach_le_reachOfAll {branch : Branch} {branches : List Branch}
    (h : branch ∈ branches) : branch.reach ≤ reachOfAll branches := by
  induction branches with
  | nil => cases h
  | cons first branches ih =>
    rw [reachOfAll]
    rcases List.mem_cons.mp h with rfl | h
    · exact Nat.le_max_left _ _
    · exact (ih h).trans (Nat.le_max_right _ _)

namespace Tree

variable {tree : Tree} {options : Options} {i c : Nat}

/-- A child that is rendered does not reach deeper than its parent. -/
theorem RendersChild.reach_le (h : tree.RendersChild i c) :
    (tree.branch c (tree.nodeAt c)).reach ≤ (tree.branch i (tree.nodeAt i)).reach := by
  have hmem : tree.branch c (tree.nodeAt c) ∈ tree.below i := List.mem_map_of_mem h.1
  have hle := Branch.reach_le_reachOfAll hmem
  have hrenders := h.2
  rw [contentAt] at hrenders
  rw [branch_eq_below tree i, Branch.reach]
  split
  · omega
  · omega
  · omega
  · rw [if_neg (by simpa using List.ne_nil_of_mem hmem)]
    omega
  · rename_i comment hcomment
    rw [hcomment] at hrenders
    rw [if_neg (by simpa [Content.rendersBelow] using hrenders)]
    omega
  · rename_i line hline
    rw [hline] at hrenders
    cases hrenders

/-- The nodes whose code is part of the code of a node. -/
def renderedChildren (tree : Tree) (i : Nat) : List Nat :=
  if (tree.contentAt i).rendersBelow then tree.children i else []

/-- The rendered children of a node are the children that it renders. -/
theorem mem_renderedChildren : c ∈ tree.renderedChildren i ↔ tree.RendersChild i c := by
  rw [renderedChildren, RendersChild]
  split <;> simp [*]

/-- The statements below a node are those of its rendered children, in order. -/
theorem tracedBelow_eq (tree : Tree) (options : Options) (i : Nat) :
    tree.tracedBelow options i = (tree.renderedChildren i).flatMap (tree.traced options) := by
  rw [tracedBelow, renderedChildren]
  split <;> rfl

namespace Graded

/-- Every line of a node is at the level of the node or deeper. -/
theorem blocks_le (hg : tree.Graded) (hl : ∀ j, (tree.nodeAt j).Legible) (hi : i < tree.size)
    (ht : tree.Traces options i) :
    ∀ e ∈ tree.traced options i, (tree.nodeAt i).blocks ≤ e.statement.level := by
  refine ht.induction (P := fun i => i < tree.size →
    ∀ e ∈ tree.traced options i, (tree.nodeAt i).blocks ≤ e.statement.level) ?_ hi
  intro i ht ih hi e he
  rw [ht.cases.2.2, List.mem_append, List.mem_append] at he
  obtain (he | he) | he := he
  · obtain ⟨s, hs, rfl⟩ := List.mem_map.mp he
    exact (ht.writes_opened hl s hs).level.ge
  · obtain ⟨c, hc, he⟩ := mem_tracedBelow.mp he
    have hchild := ih c hc (lt_of_mem_children hc.1).2 e he
    rw [hg.blocks_child hi hc.1] at hchild
    exact (Nat.le_add_right _ _).trans hchild
  · obtain ⟨s, hs, rfl⟩ := List.mem_map.mp he
    obtain ⟨-, rfl⟩ | ⟨-, hwrites⟩ := closed_cases hs
    · rw [Node.blocks]
      dsimp only
      omega
    · exact hwrites.level.ge

/-- The lines below a line of code are one level deeper. -/
theorem blocks_lt (hg : tree.Graded) (hl : ∀ j, (tree.nodeAt j).Legible) (hi : i < tree.size)
    (ht : tree.Traces options i) (hcode : (tree.contentAt i).isCode = true) :
    (∀ e ∈ tree.tracedBelow options i, (tree.nodeAt i).blocks + 1 ≤ e.statement.level) ∧
      ∀ s ∈ tree.closed options i, (tree.nodeAt i).blocks + 1 ≤ s.level := by
  constructor
  · intro e he
    obtain ⟨c, hc, he⟩ := mem_tracedBelow.mp he
    have hdeep := hg.blocks_le hl (lt_of_mem_children hc.1).2 (ht.cases.2.1 c hc) e he
    rwa [hg.blocks_child hi hc.1, blocksBelow, if_pos hcode] at hdeep
  · intro s hs
    have hlevel := hg.codeLevel_eq hi
    obtain ⟨-, rfl⟩ | ⟨hother, -⟩ := closed_cases hs
    · rw [Node.blocks]
      dsimp only
      omega
    · rw [hcode] at hother
      cases hother

end Graded

/-- The lines of the code of a node: those that open it, those of its children, and those that close
it. -/
structure Layout (tree : Tree) (options : Options) (i level : Nat)
    (opening inner closing : List Text) : Prop where
  /-- Each of them is one line and is indented at least to the level. -/
  lines : ∀ line ∈ opening ++ inner ++ closing,
    line.Unbroken ∧ List.replicate (4 * level) ' ' <+: line
  /-- The lines of the children are their code. -/
  children : ∃ parts,
    List.Forall₂ (fun c part => tree.code options c = .ok part) (tree.renderedChildren i) parts ∧
      inner.flatMap (· ++ ['\n']) = parts.flatten
  /-- The lines that open the node are indented exactly to the level. -/
  opens : tree.contentAt i ≠ .filter (.header .python) →
    ∀ line ∈ opening, Text.StartsAt (4 * level) line
  /-- The content of a `python` filter is indented further by its own indentation. -/
  python : tree.contentAt i = .filter (.header .python) →
    List.Forall₂ (fun content line =>
        line = List.replicate (4 * level + content.indent) ' ' ++ content.text ∧
          Text.StartsAt (4 * level + content.indent) line)
      ((Branch.filterLines (tree.branch i (tree.nodeAt i)).children).filter
        fun content => !content.text.isEmpty) opening
  /-- The lines that close the node are indented exactly to the level, except those of a block. -/
  closes : (tree.contentAt i).isCode = false → ∀ line ∈ closing, Text.StartsAt (4 * level) line
  /-- A line of code is one line at most, and what follows it when it has children is a block. -/
  block : (tree.contentAt i).isCode = true → opening.length ≤ 1 ∧
    (tree.children i ≠ [] → inner ++ closing ≠ [] ∧
      ∀ line ∈ inner ++ closing, List.replicate (4 * (level + 1)) ' ' <+: line)

/-- The lines below a node are the codes of its rendered children, in order. -/
theorem Traces.layout_children (ht : tree.Traces options i)
    (hreach : (tree.branch i (tree.nodeAt i)).reach ≤ Branch.maxReach) :
    ∃ parts,
      List.Forall₂ (fun c part => tree.code options c = .ok part) (tree.renderedChildren i) parts ∧
        ((tree.tracedBelow options i).map (·.statement.line)).flatMap (· ++ ['\n']) =
          parts.flatten := by
  refine ⟨(tree.renderedChildren i).map fun c =>
    (tree.traced options c).flatMap fun e => e.statement.text, ?_, ?_⟩
  · rw [List.forall₂_map_right_iff, List.forall₂_same]
    intro c hc
    have hchild := mem_renderedChildren.mp hc
    exact (code_eq_ok_iff_traces (lt_of_mem_children hchild.1).2).mpr
      ⟨hchild.reach_le.trans hreach, ht.cases.2.1 c hchild, rfl⟩
  · rw [tracedBelow_eq, List.flatMap_map, List.flatMap_assoc, List.flatMap_def]
    rfl

/-- A line of code opens with one statement at most. -/
theorem length_opened_le {code : Code} (h : tree.contentAt i = .code code) :
    (tree.opened options i).length ≤ 1 := by
  rw [opened_code h, Node.codeStatements]
  split
  · split <;> simp
  · rfl
  · rfl

/-- A filter for code opens with its content lines that are not blank, as code. -/
theorem opened_python (h : tree.contentAt i = .filter (.header .python)) :
    tree.opened options i =
      ((Branch.filterLines (tree.branch i (tree.nodeAt i)).children).filter
        fun content => !content.text.isEmpty).map fun content =>
          ⟨(tree.nodeAt i).blocks, .raw content.indent content.text⟩ := by
  rw [contentAt] at h
  rw [opened, Branch.opening, h, branch_eq_below]
  rfl

/-- What a node writes starts at the column of the blocks around it. -/
theorem startsAt_of_writes {s : Statement} (h : (tree.nodeAt i).Writes s) :
    Text.StartsAt (4 * (tree.nodeAt i).blocks + s.action.pad) s.line := by
  rw [← h.level]
  exact Statement.startsAt_line h.oneLine

/-- The lines of a `python` filter are those of its content. -/
theorem Traces.layout_python (ht : tree.Traces options i) (hl : ∀ j, (tree.nodeAt j).Legible)
    (h : tree.contentAt i = .filter (.header .python)) :
    List.Forall₂ (fun content line =>
        line = List.replicate (4 * (tree.nodeAt i).blocks + content.indent) ' ' ++ content.text ∧
          Text.StartsAt (4 * (tree.nodeAt i).blocks + content.indent) line)
      ((Branch.filterLines (tree.branch i (tree.nodeAt i)).children).filter
        fun content => !content.text.isEmpty) ((tree.opened options i).map Statement.line) := by
  have hwrites := ht.writes_opened hl
  rw [opened_python h, List.forall_mem_map] at hwrites
  rw [opened_python h, List.map_map, List.forall₂_map_right_iff, List.forall₂_same]
  intro content hcontent
  exact ⟨Statement.line_raw _ _ _, startsAt_of_writes (hwrites content hcontent)⟩

/-- The code of a node has the layout. -/
theorem Graded.layout (hg : tree.Graded) (hl : ∀ j, (tree.nodeAt j).Legible) (hi : i < tree.size)
    (ht : tree.Traces options i)
    (hreach : (tree.branch i (tree.nodeAt i)).reach ≤ Branch.maxReach) :
    tree.Layout options i (tree.nodeAt i).blocks ((tree.opened options i).map Statement.line)
      ((tree.tracedBelow options i).map (·.statement.line))
      ((tree.closed options i).map Statement.line) := by
  have hwrites := ht.writes_opened hl
  refine ⟨?_, ht.layout_children hreach, ?_, ht.layout_python hl, ?_, ?_⟩
  · have hall : (tree.opened options i).map Statement.line ++
        (tree.tracedBelow options i).map (·.statement.line) ++
        (tree.closed options i).map Statement.line =
          (tree.traced options i).map (·.statement.line) := by
      rw [ht.cases.2.2]
      simp only [List.map_append, List.map_map]
      rfl
    rw [hall]
    refine List.forall_mem_map.mpr fun e he => ?_
    exact ⟨Statement.unbroken_line (ht.oneLine_of_mem hl he).1,
      Statement.replicate_isPrefix_line (hg.blocks_le hl hi ht e he)⟩
  · intro hother
    refine List.forall_mem_map.mpr fun s hs => ?_
    have hstart := startsAt_of_writes (hwrites s hs)
    rwa [(hwrites s hs).pad hother, Nat.add_zero] at hstart
  · intro hother
    refine List.forall_mem_map.mpr fun s hs => ?_
    obtain ⟨hcode, -⟩ | ⟨-, hclose⟩ := closed_cases hs
    · rw [hcode] at hother
      cases hother
    · have hplain : (tree.nodeAt i).content ≠ .filter (.header .python) := by
        intro hpython
        rw [closed, Branch.closing, hpython] at hs
        cases hs
      have hstart := startsAt_of_writes hclose
      rwa [hclose.pad hplain, Nat.add_zero] at hstart
  · intro hcode
    obtain ⟨code, hc⟩ := Content.exists_of_isCode hcode
    obtain ⟨hbelow, hclosed⟩ := hg.blocks_lt hl hi ht hcode
    refine ⟨by rw [List.length_map]; exact length_opened_le hc, fun hchildren => ⟨?_, ?_⟩⟩
    · intro hempty
      refine block_ne_nil options hc hchildren ?_
      rw [List.append_eq_nil_iff, List.map_eq_nil_iff, List.map_eq_nil_iff] at hempty
      rw [block, hempty.1, hempty.2]
      rfl
    · refine List.forall_mem_append.mpr ⟨List.forall_mem_map.mpr fun e he => ?_,
        List.forall_mem_map.mpr fun s hs => ?_⟩
      · exact Statement.replicate_isPrefix_line (hbelow e he)
      · exact Statement.replicate_isPrefix_line (hclosed s hs)

end Tree

namespace Template

variable {source : Text} {tree : Tree}

/-- A statement with a silent comment below it. -/
def quietBlock : Text := "- if x:\n  -# note".toList

/-- The tree of `quietBlock`. -/
def quietTree : Tree := (parse quietBlock).toOption.getD Tree.empty

/-- A statement with an element below it whose attribute has a list as a key. -/
def guardedKey : Text := "- if x:\n  %p\x7ba: \x7b[]: 1\x7d\x7d".toList

/-- The tree of `guardedKey`. -/
def guardedTree : Tree := (parse guardedKey).toOption.getD Tree.empty

end Template

end Haml
