import Haml.Proofs.Level
import Haml.Proofs.SourceOrder
import Haml.Proofs.StatementLine
import Mathlib.Data.List.Perm.Subperm

/-!
# Blocks of the generated function

The body of the generated function is a list of lines: one that binds the escape function, the
statements, and one that returns the output. A line is indented by the blocks around it, and there
is a block below every line of code of the template. So indentation rises only where a block starts.
Below a statement of the template the block starts under the line of that statement. A line of code
that outputs a value, or an empty one, has no statement to start a block with, and the block below
it has no head.
-/

namespace Haml

open Literal (Fault)

/-- Behind an element outside of the front part of a list, nothing is in the front part. -/
theorem not_of_infix_pair {α : Type} {P : α → Prop} {front back : List α} {a b : α}
    (hfront : ∀ x ∈ front, P x) (hback : ∀ x ∈ back, ¬P x) (hab : [a, b] <:+: front ++ back)
    (ha : ¬P a) : ¬P b := by
  induction front with
  | nil => exact hback b (hab.subset (by simp))
  | cons x front ih =>
    obtain ⟨hx, hrest⟩ := List.forall_mem_cons.mp hfront
    rcases List.infix_cons_iff.mp hab with hhead | htail
    · obtain rfl : a = x := (List.cons_prefix_cons.mp hhead).1
      exact absurd hx ha
    · exact ih hrest htail

/-- Where two neighbours enter the middle part of a list, the first is the last of the front and the
second is the first of the middle. -/
theorem exists_boundary {α : Type} {P : α → Prop} {front middle back : List α} {a b : α}
    (hfront : ∀ x ∈ front, ¬P x) (hmiddle : ∀ x ∈ middle, P x) (hback : ∀ x ∈ back, ¬P x)
    (hab : [a, b] <:+: front ++ (middle ++ back)) (ha : ¬P a) (hb : P b) :
    (∃ before, front = before ++ [a]) ∧ ∃ after, middle = b :: after := by
  induction front with
  | nil => exact absurd hb (not_of_infix_pair hmiddle hback hab ha)
  | cons x front ih =>
    obtain ⟨-, hrest⟩ := List.forall_mem_cons.mp hfront
    rcases List.infix_cons_iff.mp hab with hhead | htail
    · obtain ⟨rfl, hnext⟩ := List.cons_prefix_cons.mp hhead
      cases front with
      | cons y front =>
        obtain rfl : b = y := (List.cons_prefix_cons.mp hnext).1
        exact absurd hb (hrest b List.mem_cons_self)
      | nil =>
        cases middle with
        | nil => exact absurd hb (hback b (hnext.subset List.mem_cons_self))
        | cons y middle =>
          obtain rfl : b = y := (List.cons_prefix_cons.mp hnext).1
          exact ⟨⟨[], rfl⟩, middle, rfl⟩
    · obtain ⟨⟨before, rfl⟩, hafter⟩ := ih hrest htail
      exact ⟨⟨x :: before, rfl⟩, hafter⟩

/-- A line of code has its code. -/
theorem Content.exists_of_isCode {content : Content} (h : content.isCode = true) :
    ∃ code, content = .code code := by
  cases content with
  | code code => exact ⟨code, rfl⟩
  | _ => cases h

namespace Tree

variable {tree : Tree} {options : Options} {i j k : Nat}

/-- A node is the start of the way to what is rendered with it. -/
theorem eq_or_mem_ancestors_of_path (h : Relation.ReflTransGen tree.RendersChild i j) :
    i = j ∨ i ∈ tree.ancestors j := by
  induction h with
  | refl => exact .inl rfl
  | @tail m j _ hj ih =>
    obtain ⟨hlt, -, hparent⟩ := mem_children.mp hj.1
    rw [ancestors_of_some hparent hlt]
    refine .inr (ih.elim (fun heq => ?_) (List.mem_cons_of_mem _))
    rw [heq]
    exact List.mem_cons_self

/-- No node is twice above another. -/
theorem nodup_ancestors (tree : Tree) (i : Nat) : (tree.ancestors i).Nodup := by
  induction i using Nat.strong_induction_on with
  | _ i ih =>
    rw [ancestors]
    split
    · exact List.nodup_nil
    · rename_i p _
      split
      · rename_i hlt
        exact List.nodup_cons.mpr
          ⟨fun hp => absurd (lt_of_mem_ancestors hp) (Nat.lt_irrefl _), ih p hlt⟩
      · exact List.nodup_nil

/-- No node is above itself. -/
theorem nodup_cons_ancestors (tree : Tree) (i : Nat) : (i :: tree.ancestors i).Nodup :=
  List.nodup_cons.mpr
    ⟨fun hi => absurd (lt_of_mem_ancestors hi) (Nat.lt_irrefl _), tree.nodup_ancestors i⟩

/-- The statements of a node that is rendered stand together, and no other statement comes from the
node or from below it. Above it, the other children of a node are beside the one that leads to
it. -/
theorem Traces.exists_split (h : tree.Traces options i)
    (hj : Relation.ReflTransGen tree.RendersChild i j) :
    ∃ before after, tree.traced options i = before ++ tree.traced options j ++ after ∧
      ∀ e ∈ before ++ after, ¬(j = e.index ∨ j ∈ tree.ancestors e.index) := by
  induction hj using Relation.ReflTransGen.head_induction_on with
  | refl => exact ⟨[], [], by simp, List.forall_mem_nil _⟩
  | @head m c hc hpath ih =>
    obtain ⟨-, hchildren, hcut⟩ := h.cases
    obtain ⟨before, after, heq, hapart⟩ := ih (hchildren c hc)
    obtain ⟨earlier, later, hsplit⟩ := List.append_of_mem hc.1
    have hnodup := tree.nodup_children m
    rw [hsplit, List.nodup_middle, List.nodup_cons] at hnodup
    have hcj := eq_or_mem_ancestors_of_path hpath
    have hmj : m < j := by
      have hlt := (lt_of_mem_children hc.1).1
      rcases hcj with rfl | hcj
      · exact hlt
      · exact hlt.trans (lt_of_mem_ancestors hcj)
    have hown : ∀ {closes} {own : List Statement}, ∀ e ∈ own.map (Emitted.mk m closes),
        ¬(j = e.index ∨ j ∈ tree.ancestors e.index) := by
      intro closes own e he
      obtain ⟨statement, -, rfl⟩ := List.mem_map.mp he
      rintro (rfl | hj)
      · exact absurd hmj (Nat.lt_irrefl _)
      · exact absurd (lt_of_mem_ancestors hj) (by dsimp only; omega)
    have hbeside : ∀ e ∈ (earlier ++ later).flatMap (tree.traced options),
        ¬(j = e.index ∨ j ∈ tree.ancestors e.index) := by
      intro e he hje
      obtain ⟨d, hd, he⟩ := List.mem_flatMap.mp he
      have hdm : d ∈ tree.children m := by
        rw [hsplit]
        exact List.mem_append.mpr ((List.mem_append.mp hd).imp id (List.mem_cons_of_mem _))
      have hne : c ≠ d := by
        rintro rfl
        exact hnodup.1 hd
      have hde := eq_or_mem_ancestors_of_path ((hchildren d ⟨hdm, hc.2⟩).mem_cases he).1
      refine siblings_apart hc.1 hdm hne hde ?_
      rcases hje with rfl | hje
      · exact hcj
      · rcases hcj with rfl | hcj
        · exact .inr hje
        · exact .inr (mem_ancestors_trans hcj hje)
    refine ⟨(tree.opened options m).map (⟨m, false, ·⟩) ++
      earlier.flatMap (tree.traced options) ++ before,
      after ++ later.flatMap (tree.traced options) ++
        (tree.closed options m).map (⟨m, true, ·⟩), ?_, ?_⟩
    · rw [hcut, tracedBelow, if_pos hc.2, hsplit, List.flatMap_append, List.flatMap_cons, heq]
      simp only [List.append_assoc]
    · simp only [List.flatMap_append, List.forall_mem_append] at hapart hbeside ⊢
      exact ⟨⟨⟨hown, hbeside.1⟩, hapart.1⟩, ⟨hapart.2, hbeside.2⟩, hown⟩

/-- A node that is rendered is a node of the tree. -/
theorem Rooted.lt_size_of_rendered (h : tree.Rooted) (hi : tree.Rendered i) : i < tree.size := by
  rcases Relation.ReflTransGen.cases_tail hi with rfl | ⟨p, -, hp⟩
  · exact h.size_pos
  · exact (lt_of_mem_children hp.1).2

end Tree

/-- A line of the generated function. -/
inductive BodyLine where
  /-- The line that binds the escape function. -/
  | binding
  /-- A statement. -/
  | statement (emitted : Emitted)
  /-- The line that returns the output. -/
  | result

namespace BodyLine

/-- The text of a line, without the line end. -/
def text (escape : Text) : BodyLine → Text
  | binding => codeIndent ++ ("e = ".toList ++ escape)
  | statement emitted =>
    Text.times emitted.statement.level codeIndent ++ emitted.statement.action.text
  | result => codeIndent ++ "return '\\n'.join(o)".toList

/-- The level of a line. -/
def level : BodyLine → Nat
  | statement emitted => emitted.statement.level
  | _ => 1

/-- How far a line is indented beyond its level. -/
def pad : BodyLine → Nat
  | statement emitted => emitted.statement.action.pad
  | _ => 0

/-- The width of a line's indentation. -/
def width (escape : Text) (line : BodyLine) : Nat :=
  (LogicalLine.indentation (line.text escape)).length

/-- The nodes around a line: those above its node, and the node itself for a line that comes after
the lines below it. -/
def around (tree : Tree) : BodyLine → List Nat
  | statement emitted =>
    (if emitted.closes then [emitted.index] else []) ++ tree.ancestors emitted.index
  | _ => []

/-- No block is twice around a line. -/
theorem nodup_around (tree : Tree) (line : BodyLine) : (line.around tree).Nodup := by
  cases line with
  | statement emitted =>
    rw [around]
    split
    · exact tree.nodup_cons_ancestors _
    · exact tree.nodup_ancestors _
  | _ => exact List.nodup_nil

/-- A line in more blocks than another is in a block that does not hold the other. -/
theorem exists_around_of_lt {tree : Tree} {a b : BodyLine} {p : Nat → Bool}
    (h : (a.around tree).countP p < (b.around tree).countP p) :
    ∃ k, p k = true ∧ k ∈ b.around tree ∧ k ∉ a.around tree := by
  by_contra hnone
  push Not at hnone
  rw [List.countP_eq_length_filter, List.countP_eq_length_filter] at h
  have hsub : (b.around tree).filter p ⊆ (a.around tree).filter p := by
    intro k hk
    obtain ⟨hmem, hp⟩ := List.mem_filter.mp hk
    exact List.mem_filter.mpr ⟨hnone k hp hmem, hp⟩
  have hle := (List.subperm_of_subset ((b.nodup_around tree).filter p) hsub).length_le
  omega

end BodyLine

/-- A text that is repeated has no new characters. -/
theorem Text.times_subset (n : Nat) (t : Text) : times n t ⊆ t := by
  intro c hc
  obtain ⟨piece, hpiece, hc⟩ := List.mem_flatten.mp hc
  rwa [List.eq_of_mem_replicate hpiece] at hc

/-- The length of a text that is repeated. -/
theorem Text.length_times (n : Nat) (t : Text) : (times n t).length = n * t.length := by
  induction n with
  | zero => rw [Nat.zero_mul]; rfl
  | succ n ih =>
    have hstep : times (n + 1) t = t ++ times n t := by
      rw [times, List.replicate_succ, List.flatten_cons, times]
    rw [hstep, List.length_append, ih, Nat.succ_mul, Nat.add_comm]

namespace Tree

variable {tree : Tree} {options : Options}

/-- The lines of the generated function. -/
def bodyLines (tree : Tree) (options : Options) : List BodyLine :=
  .binding :: ((tree.traced options 0).map .statement ++ [.result])

/-- What holds of the first line, the last line and every statement holds of all lines of the
body. -/
theorem forall_mem_bodyLines {P : BodyLine → Prop} (hbinding : P .binding) (hresult : P .result)
    (hstatement : ∀ emitted ∈ tree.traced options 0, P (.statement emitted)) :
    ∀ line ∈ tree.bodyLines options, P line :=
  List.forall_mem_cons.mpr ⟨hbinding, List.forall_mem_append.mpr
    ⟨List.forall_mem_map.mpr hstatement, List.forall_mem_singleton.mpr hresult⟩⟩

/-- The number of blocks around the lines below a node: code has a block below it. -/
def blocksBelow (tree : Tree) (i : Nat) : Nat :=
  (tree.nodeAt i).blocks + if (tree.contentAt i).isCode then 1 else 0

/-- A child is in the blocks that are below its parent. -/
theorem Graded.blocks_child (hg : tree.Graded) {i c : Nat} (hi : i < tree.size)
    (hc : c ∈ tree.children i) : (tree.nodeAt c).blocks = tree.blocksBelow i := by
  obtain ⟨hlt, hsize, hparent⟩ := mem_children.mp hc
  have hfollow := hg.follow c hsize i ((parent?_eq hsize).symm.trans hparent)
  have hlevel := hg.codeLevel_eq hi
  rw [blocksBelow, Node.blocks, Node.blocks, hfollow.code, Node.childCodeLevel, ← contentAt, hlevel]
  split <;> omega

/-- A line is at the level of the blocks around it. -/
theorem Graded.level_eq (hg : tree.Graded) (hl : ∀ j, (tree.nodeAt j).Legible)
    (ht : tree.Traces options 0) : ∀ line ∈ tree.bodyLines options,
      line.level = 1 + (line.around tree).countP fun k => (tree.contentAt k).isCode := by
  refine forall_mem_bodyLines rfl rfl fun emitted he => ?_
  obtain ⟨hrendered, htraces, hown⟩ := ht.mem_cases he
  have hcode := hg.codeLevel_eq (hg.lt_size_of_rendered hrendered)
  have hblocks : (tree.nodeAt emitted.index).blocks = 1 +
      (tree.ancestors emitted.index).countP fun k => (tree.contentAt k).isCode := by
    rw [Node.blocks, hcode]
    omega
  rw [BodyLine.level, BodyLine.around]
  rcases hown with ⟨hopens, hmem⟩ | ⟨hcloses, hmem⟩
  · rw [(htraces.writes_opened hl _ hmem).level, hblocks, hopens]
    rfl
  · rw [hcloses, if_pos rfl, List.singleton_append]
    obtain ⟨hc, hs⟩ | ⟨hc, hs⟩ := closed_cases hmem
    · rw [List.countP_cons, hc, if_pos rfl, hs]
      dsimp only
      rw [hcode]
      omega
    · rw [List.countP_cons, hc, if_neg Bool.false_ne_true, hs.level, hblocks]
      rfl

/-- A line of the body is one line, indented by its level and its own indentation, and only the
lines of `python` filters have one of their own. -/
structure IsBodyLine (tree : Tree) (escape : Text) (line : BodyLine) : Prop where
  /-- The width of its indentation. -/
  width : line.width escape = 4 * line.level + line.pad
  /-- No line break is in it, the name of the escape function apart. -/
  unbroken : line ≠ .binding → (line.text escape).Unbroken
  /-- Which lines are indented further. -/
  pad : line.pad ≠ 0 → ∃ emitted, line = .statement emitted ∧
    tree.contentAt emitted.index = .filter (.header .python)

/-- Each statement is one line, and only those of `python` filters are indented further. -/
theorem Traces.oneLine_of_mem {i : Nat} (ht : tree.Traces options i)
    (hl : ∀ j, (tree.nodeAt j).Legible) {emitted : Emitted} (he : emitted ∈ tree.traced options i) :
    emitted.statement.action.OneLine ∧ (emitted.statement.action.pad ≠ 0 →
      tree.contentAt emitted.index = .filter (.header .python)) := by
  obtain ⟨-, htraces, ⟨-, hmem⟩ | ⟨-, hmem⟩⟩ := ht.mem_cases he
  · have hwrites := htraces.writes_opened hl _ hmem
    exact ⟨hwrites.oneLine, fun hpad => by_contra fun hne => hpad (hwrites.pad hne)⟩
  · obtain ⟨-, hs⟩ | ⟨-, hs⟩ := closed_cases hmem
    · rw [hs]
      exact ⟨Action.oneLine_pass, fun hpad => absurd rfl hpad⟩
    · exact ⟨hs.oneLine, fun hpad => by_contra fun hne => hpad (hs.pad hne)⟩

/-- The lines of the body are lines. -/
theorem Traces.isBodyLine (ht : tree.Traces options 0) (hl : ∀ j, (tree.nodeAt j).Legible)
    (escape : Text) : ∀ line ∈ tree.bodyLines options, tree.IsBodyLine escape line := by
  refine forall_mem_bodyLines ?_ ?_ fun emitted he => ?_
  · exact ⟨rfl, fun hne => absurd rfl hne, fun hpad => absurd rfl hpad⟩
  · exact ⟨rfl, fun _ => (by decide : (codeIndent ++ "return '\\n'.join(o)".toList).Unbroken),
      fun hpad => absurd rfl hpad⟩
  · obtain ⟨honeLine, hpad⟩ := ht.oneLine_of_mem hl he
    have hblank : ∀ c ∈ Text.times emitted.statement.level codeIndent, Text.isBlank c = true :=
      fun c hc => List.all_eq_true.mp (by decide : codeIndent.all Text.isBlank = true) c
        (Text.times_subset _ _ hc)
    have hindent : (Text.times emitted.statement.level codeIndent).Unbroken :=
      (by decide : codeIndent.Unbroken).mono (Text.times_subset _ _)
    refine ⟨?_, fun _ => Text.unbroken_append.mpr ⟨hindent, honeLine.unbroken⟩,
      fun hne => ⟨emitted, rfl, hpad hne⟩⟩
    rw [BodyLine.width, BodyLine.text, LogicalLine.indentation_append hblank, List.length_append,
      Text.length_times, honeLine.width, Nat.mul_comm]
    rfl

/-- What is above a node that is rendered is rendered. -/
theorem Rendered.of_mem_ancestors {j k : Nat} (hj : tree.Rendered j) (hk : k ∈ tree.ancestors j)
    (h : tree.Rooted) : tree.Rendered k := by
  induction hj with
  | refl =>
    rw [h.ancestors_zero] at hk
    cases hk
  | @tail m j hm hj ih =>
    obtain ⟨hlt, -, hparent⟩ := mem_children.mp hj.1
    rw [ancestors_of_some hparent hlt] at hk
    rcases List.mem_cons.mp hk with rfl | hk
    · exact hm
    · exact ih hk

/-- The nodes whose blocks are around a line are rendered. -/
theorem Traces.rendered_of_mem_around (ht : tree.Traces options 0) (hr : tree.Rooted) :
    ∀ line ∈ tree.bodyLines options, ∀ k ∈ line.around tree, tree.Rendered k := by
  refine forall_mem_bodyLines (List.forall_mem_nil _) (List.forall_mem_nil _)
    fun emitted he k hk => ?_
  have hrendered := (ht.mem_cases he).1
  rcases List.mem_append.mp hk with hk | hk
  · split at hk
    · rwa [List.mem_singleton.mp hk]
    · cases hk
  · exact Rendered.of_mem_ancestors hrendered hk hr

/-- The lines below a node, and those that close it. -/
def block (tree : Tree) (options : Options) (k : Nat) : List BodyLine :=
  (tree.tracedBelow options k).map .statement ++
    (tree.closed options k).map fun s => .statement ⟨k, true, s⟩

/-- The lines that open a node. -/
def heads (tree : Tree) (options : Options) (k : Nat) : List BodyLine :=
  (tree.opened options k).map fun s => .statement ⟨k, false, s⟩

/-- The node and all above it are around the lines of its block. -/
theorem around_of_mem_block {k : Nat} (ht : tree.Traces options k) {line : BodyLine}
    (h : line ∈ tree.block options k) : k :: tree.ancestors k ⊆ line.around tree := by
  rcases List.mem_append.mp h with h | h
  · obtain ⟨emitted, hmem, rfl⟩ := List.mem_map.mp h
    obtain ⟨c, hc, hmem⟩ := mem_tracedBelow.mp hmem
    obtain ⟨hlt, -, hparent⟩ := mem_children.mp hc.1
    have hk : k ∈ tree.ancestors emitted.index := by
      have hkc : k ∈ tree.ancestors c := by
        rw [ancestors_of_some hparent hlt]
        exact List.mem_cons_self
      rcases eq_or_mem_ancestors_of_path ((ht.cases.2.1 c hc).mem_cases hmem).1 with heq | hce
      · rwa [← heq]
      · exact mem_ancestors_trans hkc hce
    refine List.cons_subset.mpr ⟨List.mem_append_right _ hk, fun a ha => ?_⟩
    exact List.mem_append_right _ (mem_ancestors_trans ha hk)
  · obtain ⟨s, -, rfl⟩ := List.mem_map.mp h
    exact List.Subset.refl _

/-- A node that is rendered cuts the body: its block is between lines that it is not around. -/
theorem Traces.exists_block {k : Nat} (ht : tree.Traces options 0) (hk : tree.Rendered k) :
    ∃ front back, tree.bodyLines options =
        front ++ tree.heads options k ++ (tree.block options k ++ back) ∧
      (∀ line ∈ front ++ tree.heads options k, k ∉ line.around tree) ∧
      ∀ line ∈ back, k ∉ line.around tree := by
  obtain ⟨before, after, heq, hapart⟩ := ht.exists_split hk
  have houtside : ∀ e ∈ before ++ after, k ∉ (BodyLine.statement e).around tree := by
    intro e he hmem
    refine hapart e he ?_
    rcases List.mem_append.mp hmem with hmem | hmem
    · split at hmem
      · exact .inl (List.mem_singleton.mp hmem)
      · cases hmem
    · exact .inr hmem
  obtain ⟨hbefore, hafter⟩ := List.forall_mem_append.mp houtside
  refine ⟨.binding :: before.map .statement, after.map .statement ++ [.result], ?_, ?_, ?_⟩
  · rw [bodyLines, heq, (ht.of_path hk).cases.2.2, heads, block]
    simp only [List.map_append, List.map_map, List.append_assoc, List.cons_append]
    rfl
  · refine List.forall_mem_append.mpr ⟨List.forall_mem_cons.mpr
      ⟨List.not_mem_nil, List.forall_mem_map.mpr hbefore⟩,
      List.forall_mem_map.mpr fun s _ hmem => ?_⟩
    exact absurd (lt_of_mem_ancestors hmem) (Nat.lt_irrefl _)
  · exact List.forall_mem_append.mpr
      ⟨List.forall_mem_map.mpr hafter, List.forall_mem_singleton.mpr List.not_mem_nil⟩

/-- A line of code opens with its own statement. -/
theorem opened_code {k : Nat} {code : Code} (hc : tree.contentAt k = .code code) :
    tree.opened options k = (tree.nodeAt k).codeStatements options code := by
  rw [contentAt] at hc
  rw [opened, Branch.opening, hc]
  rfl

/-- A block below code is never empty. -/
theorem block_ne_nil (options : Options) {k : Nat} {code : Code}
    (hc : tree.contentAt k = .code code) (hchildren : tree.children k ≠ []) :
    tree.block options k ≠ [] := by
  intro hempty
  obtain ⟨hbelow, hclosed⟩ := List.append_eq_nil_iff.mp hempty
  rw [contentAt] at hc
  rw [List.map_eq_nil_iff] at hbelow hclosed
  rw [closed, Branch.closing, hc, hbelow, isEmpty_below] at hclosed
  simp [hchildren] at hclosed

/-- A line that is deeper than the one before it is in a block that starts between the two. If the
block is that of a statement, the line before is this statement. -/
theorem Graded.exists_code_of_rise (hg : tree.Graded) (hl : ∀ j, (tree.nodeAt j).Legible)
    (ht : tree.Traces options 0) {a b : BodyLine} (hab : [a, b] <:+: tree.bodyLines options)
    (hlt : a.level < b.level) :
    ∃ k code, tree.contentAt k = .code code ∧ k ∈ b.around tree ∧ k ∉ a.around tree ∧
      (code.marker = .statement → code.code ≠ [] →
        a = .statement ⟨k, false, ⟨(tree.nodeAt k).blocks, .run code.code⟩⟩) := by
  have hbmem : b ∈ tree.bodyLines options := hab.subset (by simp)
  rw [hg.level_eq hl ht a (hab.subset (by simp)), hg.level_eq hl ht b hbmem] at hlt
  obtain ⟨k, hcode, hkb, hka⟩ := BodyLine.exists_around_of_lt (Nat.lt_of_add_lt_add_left hlt)
  obtain ⟨code, hc⟩ := Content.exists_of_isCode hcode
  refine ⟨k, code, hc, hkb, hka, fun hmarker hne => ?_⟩
  have hk := ht.rendered_of_mem_around hg.toRooted b hbmem k hkb
  obtain ⟨front, back, heq, hfront, hback⟩ := ht.exists_block hk
  have hblock : ∀ line ∈ tree.block options k, k ∈ line.around tree := fun line hline =>
    around_of_mem_block (ht.of_path hk) hline List.mem_cons_self
  rw [heq] at hab
  obtain ⟨⟨before, hlast⟩, -⟩ := exists_boundary hfront hblock hback hab hka hkb
  have hheads : tree.heads options k =
      [.statement ⟨k, false, ⟨(tree.nodeAt k).blocks, .run code.code⟩⟩] := by
    rw [heads, opened_code hc, Node.codeStatements, hmarker]
    simp [hne]
  rw [hheads] at hlast
  exact (List.singleton_inj.mp (List.append_inj_right' hlast rfl)).symm

/-- Below a line of code that outputs a value, the first line is deeper than the output. -/
theorem Graded.rise_of_output (hg : tree.Graded) (hl : ∀ j, (tree.nodeAt j).Legible)
    (ht : tree.Traces options 0) {k : Nat} {code : Code} (hk : tree.Rendered k)
    (hc : tree.contentAt k = .code code) (hmarker : code.marker ≠ .statement)
    (hchildren : tree.children k ≠ []) :
    ∃ line b, [.statement ⟨k, false, (tree.nodeAt k).push line⟩, b] <:+: tree.bodyLines options ∧
      (BodyLine.statement ⟨k, false, (tree.nodeAt k).push line⟩).level < b.level := by
  obtain ⟨line, hopened⟩ : ∃ line, tree.opened options k = [(tree.nodeAt k).push line] := by
    rw [opened_code hc, Node.codeStatements]
    split
    · contradiction
    · exact ⟨_, rfl⟩
    · exact ⟨_, rfl⟩
  obtain ⟨front, back, heq, -, -⟩ := ht.exists_block hk
  obtain ⟨b, after, hblock⟩ := List.exists_cons_of_ne_nil (block_ne_nil options hc hchildren)
  have hnext : [.statement ⟨k, false, (tree.nodeAt k).push line⟩, b] <:+:
      tree.bodyLines options := by
    rw [heq, heads, hopened, hblock]
    exact ⟨front, after ++ back, by simp⟩
  refine ⟨line, b, hnext, ?_⟩
  have haround := around_of_mem_block (ht.of_path hk) (hblock ▸ List.mem_cons_self)
  have hcount := (List.subperm_of_subset (nodup_cons_ancestors tree k) haround).countP_le
    fun k => (tree.contentAt k).isCode
  rw [List.countP_cons, hc] at hcount
  rw [hg.level_eq hl ht _ (hnext.subset (by simp)), hg.level_eq hl ht b (hnext.subset (by simp))]
  exact Nat.add_lt_add_left hcount 1

/-- The first line is that of a statement of the template, and the second is in its block. -/
def HeadsBlock (tree : Tree) (a b : BodyLine) : Prop :=
  ∃ k code, tree.contentAt k = .code code ∧ code.marker = .statement ∧ code.code ≠ [] ∧
    a = .statement ⟨k, false, ⟨(tree.nodeAt k).blocks, .run code.code⟩⟩ ∧ k ∈ b.around tree

/-- The line is content of a `python` filter. -/
def IsPython (tree : Tree) (line : BodyLine) : Prop :=
  ∃ emitted, line = .statement emitted ∧
    tree.contentAt emitted.index = .filter (.header .python)

/-- A line of code without a statement: its value is output, or there is no code. -/
def Headless (tree : Tree) (k : Nat) : Prop :=
  ∃ code, tree.contentAt k = .code code ∧ (code.marker ≠ .statement ∨ code.code = [])

end Tree

/-- The levels of a parsed template agree with its tree. -/
theorem Template.graded_of_parse {source : Text} {tree : Tree} (h : parse source = .ok tree) :
    tree.Graded := by
  obtain ⟨n, hrun, rfl⟩ := Nesting.exists_run h
  obtain ⟨hsound, hlevelled⟩ := Nesting.levelled_run hrun
  exact hlevelled.tree hsound

namespace Compilation

variable {options : Options} {source name nameSpace code : Text}

/-- The levels in the tree follow from those of the parents. -/
theorem graded (c : Compilation options source name nameSpace code) : c.tree.Graded :=
  Template.graded_of_parse c.parse_eq

/-- The escape function that the body calls. -/
def escape (c : Compilation options source name nameSpace code) : Text :=
  Registration.escapeName options c.place.root

/-- The lines of the body stand in the module one after the other. -/
theorem lines_in_code (c : Compilation options source name nameSpace code) :
    ((c.tree.bodyLines options).flatMap fun line => line.text c.escape ++ ['\n']) <:+: code := by
  have hresult : "return '\\n'.join(o)\n".toList = "return '\\n'.join(o)".toList ++ ['\n'] := by
    decide
  refine ⟨Registration.scaffold c.place.root c.place.inner ++
    Registration.escapeDefinition options c.place.root ++
    ("\n\ndef _template(context):\n".toList ++ codeIndent ++ "o = []\n".toList),
    Registration.registration (Registration.innermost c.place.root c.place.inner) c.place.name,
    Eq.trans ?_ c.code_eq.symm⟩
  delta Registration.moduleText Registration.functionText
  simp only [Tree.bodyLines, BodyLine.text, Statement.text, escape, hresult, List.flatMap_cons,
    List.flatMap_append, List.flatMap_map, List.flatMap_nil, List.append_assoc, List.append_nil]

end Compilation

/-- Indentation rises under a statement of the template, before a line of a `python` filter, and
where a block starts below code that has no statement. The last always happens under the output of a
value that has lines below it. -/
theorem compile_indentation {options : Options} {source name nameSpace code : Text}
    (h : compile options source name nameSpace = .ok code) :
    ∃ c : Compilation options source name nameSpace code,
      ((c.tree.bodyLines options).flatMap fun line => line.text c.escape ++ ['\n']) <:+: code ∧
      (∀ line ∈ c.tree.bodyLines options, line ≠ .binding → (line.text c.escape).Unbroken) ∧
      (∀ a b, [a, b] <:+: c.tree.bodyLines options → a.width c.escape < b.width c.escape →
        c.tree.HeadsBlock a b ∨ c.tree.IsPython b ∨
          ∃ k, c.tree.Headless k ∧ k ∈ b.around c.tree ∧ k ∉ a.around c.tree) ∧
      ∀ k value, c.tree.Rendered k → c.tree.contentAt k = .code value →
        value.marker ≠ .statement → c.tree.children k ≠ [] →
        ∃ line b, [.statement ⟨k, false, (c.tree.nodeAt k).push line⟩, b] <:+:
            c.tree.bodyLines options ∧
          (BodyLine.statement ⟨k, false, (c.tree.nodeAt k).push line⟩).width c.escape <
            b.width c.escape := by
  obtain ⟨c⟩ := nonempty_compilation h
  have hg := c.graded
  have hl := Template.legible_of_parse c.parse_eq
  have hline := c.traces.isBodyLine hl c.escape
  refine ⟨c, c.lines_in_code, fun line hmem => (hline line hmem).unbroken, ?_, ?_⟩
  · intro a b hab hwidth
    have ha := hline a (hab.subset (by simp))
    have hb := hline b (hab.subset (by simp))
    rw [ha.width, hb.width] at hwidth
    by_cases hpad : b.pad = 0
    · obtain ⟨k, code, hc, hkb, hka, hhead⟩ :=
        hg.exists_code_of_rise hl c.traces hab (by omega)
      by_cases hstatement : code.marker = .statement ∧ code.code ≠ []
      · exact .inl ⟨k, code, hc, hstatement.1, hstatement.2, hhead hstatement.1 hstatement.2, hkb⟩
      · refine .inr (.inr ⟨k, ⟨code, hc, ?_⟩, hkb, hka⟩)
        by_contra hnot
        push Not at hnot
        exact hstatement hnot
    · exact .inr (.inl (hb.pad hpad))
  · intro k value hk hc hmarker hchildren
    obtain ⟨line, b, hnext, hlt⟩ := hg.rise_of_output hl c.traces hk hc hmarker hchildren
    refine ⟨line, b, hnext, ?_⟩
    rw [(hline _ (hnext.subset (by simp))).width, (hline b (hnext.subset (by simp))).width]
    have hpad : (BodyLine.statement ⟨k, false, (c.tree.nodeAt k).push line⟩).pad = 0 := rfl
    omega

/-- A value with an element below it. -/
def valueBlock : Text := "= x\n  %p y".toList

/-- The tree of `valueBlock`. -/
def valueTree : Tree := (Template.parse valueBlock).toOption.getD Tree.empty

/-- The line under the output of the value is deeper, and is no content of a filter. -/
theorem compile_indentation_valueBlock :
    ∃ code, compile {} valueBlock "template".toList [] = .ok code ∧
      ∃ line b, [.statement ⟨1, false, ⟨1, .output line⟩⟩, b] <:+: valueTree.bodyLines {} ∧
        ¬valueTree.IsPython b ∧
        (BodyLine.statement ⟨1, false, ⟨1, .output line⟩⟩).width "HAML.html_escape".toList <
          b.width "HAML.html_escape".toList := by
  have hok : (compile {} valueBlock "template".toList []).isOk = true := by decide +kernel
  cases hcode : compile {} valueBlock "template".toList [] with
  | error failure =>
    rw [hcode] at hok
    cases hok
  | ok code =>
    obtain ⟨c, -, -, -, hrise⟩ := compile_indentation hcode
    have htree : c.tree = valueTree := by rw [valueTree, c.parse_eq]; rfl
    have htarget : Registration.target {} "template".toList [] =
        .ok ⟨"HAML".toList, [], "template".toList⟩ := by decide +kernel
    have hescape : c.escape = "HAML.html_escape".toList := by
      rw [Compilation.escape, ← Except.ok.inj (htarget.symm.trans c.target_eq)]
      rfl
    rw [htree, hescape] at hrise
    obtain ⟨line, b, hnext, hwidth⟩ := hrise 1 ⟨.escaped, ['x']⟩
      (.single ⟨by decide +kernel, by decide +kernel⟩) (by decide +kernel) (by decide)
      (by decide +kernel)
    have hlevel : (valueTree.nodeAt 1).push line = ⟨1, .output line⟩ := by
      rw [Node.push, (by decide +kernel : (valueTree.nodeAt 1).blocks = 1)]
    have hfilters : ∀ i, valueTree.contentAt i ≠ .filter (.header .python) := by
      have hnodes : ∀ i < valueTree.size, valueTree.contentAt i ≠ .filter (.header .python) := by
        decide +kernel
      intro i
      rcases Nat.lt_or_ge i valueTree.size with hi | hi
      · exact hnodes i hi
      · rw [Tree.contentAt, Tree.nodeAt_of_size_le hi]
        exact Content.noConfusion
    rw [hlevel] at hnext hwidth
    refine ⟨code, rfl, line, b, hnext, ?_, hwidth⟩
    rintro ⟨e, -, he⟩
    exact hfilters e.index he

end Haml
