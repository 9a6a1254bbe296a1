import Haml.Proofs.Acceptance
import Haml.Proofs.FilterBlock
import Mathlib.Data.List.Chain

/-!
# The stack of parents

Between two lines the outline keeps a width, two levels, a stack, a parent and a code level. The
levels agree and count the entries of the stack, and the width is that many units. The stack with
the parent on top is a chain from the root: each entry is a child of the one before, or repeats it
where a line has skipped levels inside of a filter or a comment, or is a blank line that was the
last node when a deeper line came. A blank line is a child of the header of its filter, so it need
not be one of the entry before it: that entry is in the filter too, or it is the parent of the
header, if nothing but blank lines has followed the header. From this it follows that a line is
never measured without a unit and that no parent is taken off an empty stack.
-/

namespace Haml

namespace Tree

variable {tree : Tree} {node : Node} {t x y : Nat}

/-- The node `y` is a blank line of the filter with the header `t`, and a child of it. -/
structure IsBlankOf (tree : Tree) (t y : Nat) : Prop where
  /-- It is a blank line of a filter. -/
  blank : tree.IsBlankFilterLine y
  /-- The filter is that of the header. -/
  top : tree.topOf? y = some (t : Int)
  /-- The header is its parent. -/
  parent : tree.parent? y = some t

/-- How the last node stands to the node `x` that lines of its level are added to. -/
inductive Attached (tree : Tree) (x y : Nat) : Prop
  /-- It is a child. -/
  | child (parent : tree.parent? y = some x)
  /-- It is a blank line of the filter that `x` belongs to. -/
  | inside (t : Nat) (blank : tree.IsBlankOf t y) (within : t = x ∨ t ∈ tree.ancestors x)
  /-- It is a blank line after the header of a filter below `x`, and all lines between the two are
  blank as well. -/
  | header (t : Nat) (blank : tree.IsBlankOf t y) (below : tree.parent? t = some x)
      (only : ∀ j, t < j → j ≤ y → tree.IsBlankOf t j)

/-- How an entry `y` of the parents follows the entry `x`. -/
inductive Links (tree : Tree) (x y : Nat) : Prop
  /-- It stands for a level that was skipped inside of a filter or a comment. -/
  | skipped (same : y = x) (raw : tree.insideRaw x = true)
  /-- It was the last node when a deeper line came. -/
  | attached (last : tree.Attached x y)

/-- Only nodes have parents. -/
theorem lt_size_of_parent? (h : tree.parent? y = some x) : y < tree.size := by
  obtain ⟨node, hget, -⟩ := Option.bind_eq_some_iff.mp h
  exact lt_size_of_get? hget

/-- Adding a node does not change the parents of the others. -/
theorem parent?_add (h : tree.parent? y = some x) : (tree.add node).parent? y = some x := by
  rw [parent?_add_lt (lt_size_of_parent? h), h]

/-- The node that was added has its own parent. -/
theorem parent?_add_size (tree : Tree) (node : Node) :
    (tree.add node).parent? tree.size = node.parent := by
  rw [parent?_eq (by rw [size_add]; omega), nodeAt_add_size]

/-- Only nodes have ancestors. -/
theorem lt_size_of_mem_ancestors (h : t ∈ tree.ancestors x) : x < tree.size := by
  cases hp : tree.parent? x with
  | none =>
    rw [ancestors_of_none hp] at h
    cases h
  | some p => exact lt_size_of_parent? hp

/-- Adding a node does not change what is above the others. -/
theorem mem_ancestors_add (h : t ∈ tree.ancestors x) : t ∈ (tree.add node).ancestors x := by
  rw [ancestors_add_lt (lt_size_of_mem_ancestors h)]
  exact h

/-- Only nodes are in filters. -/
theorem lt_size_of_topOf? {top : Int} (h : tree.topOf? y = some top) : y < tree.size := by
  by_contra hn
  rw [topOf?_eq_none_of_size_le (Nat.le_of_not_lt hn)] at h
  cases h

/-- Nothing outside of the tree is raw. -/
theorem lt_size_of_insideRaw (h : tree.insideRaw x = true) : x < tree.size := by
  obtain ⟨a, ha, hraw⟩ := List.any_eq_true.mp h
  obtain rfl | ha := List.mem_cons.mp ha
  · by_contra hn
    rw [contentAt, nodeAt_of_size_le (Nat.le_of_not_lt hn)] at hraw
    cases hraw
  · exact lt_size_of_mem_ancestors ha

/-- Adding a node leaves the blank lines of a filter in it. -/
theorem IsBlankOf.add (h : tree.IsBlankOf t y) : (tree.add node).IsBlankOf t y := by
  have hy := lt_size_of_topOf? h.top
  exact ⟨(isBlankFilterLine_add_lt hy).mpr h.blank, (topOf?_add_lt hy).trans h.top,
    parent?_add h.parent⟩

/-- Adding a node leaves another attached as it was. -/
theorem Attached.add (h : tree.Attached x y) : (tree.add node).Attached x y := by
  cases h with
  | child parent => exact .child (parent?_add parent)
  | inside t blank within => exact .inside t blank.add (within.imp_right mem_ancestors_add)
  | header t blank below only =>
    exact .header t blank.add (parent?_add below) fun j hlt hle => (only j hlt hle).add

/-- Adding a node leaves parents linked. -/
theorem Links.add (h : tree.Links x y) : (tree.add node).Links x y := by
  cases h with
  | skipped same raw =>
    exact .skipped same ((insideRaw_add_lt (lt_size_of_insideRaw raw)).trans raw)
  | attached last => exact .attached last.add

/-- The blank lines at the end of the tree leave the last line what it is. -/
theorem IsLastLine.add_blank (h : tree.IsLastLine x) (he : node.expression = []) :
    (tree.add node).IsLastLine x := by
  have hx := lt_size_of_isLine h.1
  refine ⟨(isLine_add_lt hx).mpr h.1, fun j hj hline => ?_⟩
  have hlt := lt_size_of_isLine hline
  rw [size_add] at hlt
  rcases Nat.lt_succ_iff_lt_or_eq.mp hlt with hlt | rfl
  · exact h.2 j hj ((isLine_add_lt hlt).mp hline)
  · exact isLine_add_size.mp hline he

/-- A line that is added is the last one. -/
theorem isLastLine_add (hne : node.expression ≠ []) : (tree.add node).IsLastLine tree.size := by
  refine ⟨isLine_add_size.mpr hne, fun j hj hline => ?_⟩
  have hlt := lt_size_of_isLine hline
  rw [size_add] at hlt
  omega

end Tree

namespace Nesting

variable {n m : Nesting} {line : LogicalLine} {width : Nat}

/-- The parents are a chain, and the last node and the last line are where a deeper line and a line
of the same level go on. -/
structure Linked (n : Nesting) : Prop where
  /-- From the root on, each parent follows the one before. -/
  chain : (0 :: n.parents).IsChain n.tree.Links
  /-- The last node can be the next parent. -/
  last : n.tree.size ≠ 1 → n.tree.Attached n.parent n.last
  /-- The last line has the present parent. -/
  line : n.tree.size ≠ 1 → ∃ s, n.tree.IsLastLine s ∧ n.tree.parent? s = some n.parent

/-- At the start the root alone is a chain. -/
theorem linked_start : start.Linked where
  chain := .singleton 0
  last h := absurd rfl h
  line h := absurd rfl h

namespace Linked

/-- Adding a node leaves the parents a chain. -/
theorem chain_add (h : n.Linked) (node : Node) :
    (0 :: n.parents).IsChain (n.add node).tree.Links := h.chain.imp fun _ _ => Tree.Links.add

/-- Going back cuts the chain, and going deeper adds the last node to it, once for each level. -/
theorem chain_moveTo (h : n.Linked) (hf : n.fault? width = none) :
    (0 :: (n.moveTo width).parents).IsChain n.tree.Links := by
  obtain ⟨-, hdeep, hfirst⟩ := fault?_eq_none_iff.mp hf
  by_cases hlt : n.level < n.levelAt width
  · have hparents : 0 :: (n.moveTo width).parents =
        (0 :: n.parents) ++ List.replicate (n.levelAt width - n.level) n.last := by
      rw [moveTo, List.take_of_length_le (Nat.le_of_lt hlt), List.cons_append]
    rw [hparents]
    refine h.chain.append ?_ ?_
    · by_cases hone : n.levelAt width - n.level = 1
      · rw [hone]
        exact .singleton _
      · exact List.isChain_replicate_of_rel _ (.skipped rfl (hdeep (by omega)))
    · intro x hx y hy
      have hparent : n.parent = x := by
        rw [parent, List.getLastD_eq_getLast?, ← Option.some_inj, ← hx, List.getLast?_cons]
      obtain rfl : y = n.last := List.eq_of_mem_replicate (List.mem_of_mem_head? hy)
      rw [← hparent]
      exact .attached (h.last (hfirst hlt))
  · have hparents : 0 :: (n.moveTo width).parents =
        (0 :: n.parents).take (n.levelAt width + 1) := by
      rw [moveTo, Nat.sub_eq_zero_of_le (Nat.le_of_not_lt hlt), List.replicate_zero,
        List.append_nil, List.take_succ_cons]
    rw [hparents]
    exact h.chain.take _

/-- Adding a line leaves the parents linked, and the line is attached to the innermost one. -/
theorem add_line (h : n.Linked) (hne : line.expression ≠ []) (hf : n.fault? line.indent = none) :
    ((n.moveTo line.indent).add ((n.moveTo line.indent).lineNode line)).Linked where
  chain := (h.chain_moveTo hf).imp fun _ _ => Tree.Links.add
  last _ := by
    rw [last_add, tree_add]
    exact .child (Tree.parent?_add_size _ _)
  line _ := ⟨_, Tree.isLastLine_add hne, Tree.parent?_add_size _ _⟩

/-- A parent in a filter is its header or below it. -/
theorem top_within (hs : n.Sound) (hb : n.Blocks) {t : Nat}
    (ht : n.tree.topOf? n.parent = some (t : Int)) :
    t = n.parent ∨ t ∈ n.tree.ancestors n.parent := by
  obtain ⟨t', hle, heq, kind, hk⟩ := hs.filters n.parent hs.parent_lt t ht
  obtain rfl : t = t' := Int.ofNat.inj heq
  rcases Nat.lt_or_eq_of_le hle with hlt | heq
  · have hheader : n.tree.topOf? t = some (t : Int) := by
      rw [Tree.topOf?_eq (hlt.trans hs.parent_lt), hk]
      rfl
    exact .inr ((hb.mem_ancestors_iff hs hheader hs.parent_lt).mpr ⟨hlt, ht⟩)
  · exact .inl heq

/-- A blank line stands to the parent as the last node does if that is blank as well. After a header
it is right below the header, and after any other line of a filter the parent is in the filter. -/
theorem attached_blank (hs : n.Sound) (hb : n.Blocks) (h : n.Linked) {t : Nat} {node : Node}
    (ht : n.tree.topOf? n.last = some (t : Int))
    (hnew : (n.tree.add node).IsBlankOf t n.tree.size) :
    (n.tree.add node).Attached n.parent n.tree.size := by
  have hlast : n.last + 1 = n.tree.size := Nat.succ_pred_eq_of_pos (Nat.zero_lt_of_lt hs.last_lt)
  have hsame {t' : Nat} (hblank : n.tree.IsBlankOf t' n.last) : t' = t :=
    Int.ofNat.inj (Option.some.inj (hblank.top.symm.trans ht))
  cases h.last (hs.size_ne_one_of_filter ht) with
  | child parent =>
    rcases hb.above n.last hs.last_lt t ht with heq | ⟨p, hp, hpt⟩
    · obtain rfl : t = n.last := Int.ofNat.inj heq
      refine .header _ hnew (Tree.parent?_add parent) fun j hlt hle => ?_
      obtain rfl : j = n.tree.size := by omega
      exact hnew
    · rw [← Tree.parent?_eq hs.last_lt, parent] at hp
      obtain rfl := Option.some.inj hp
      exact .inside t hnew ((top_within hs hb hpt).imp_right Tree.mem_ancestors_add)
  | inside t' blank within =>
    obtain rfl := hsame blank
    exact .inside t' hnew (within.imp_right Tree.mem_ancestors_add)
  | header t' blank below only =>
    obtain rfl := hsame blank
    refine .header t' hnew (Tree.parent?_add below) fun j hlt hle => ?_
    rcases Nat.lt_or_eq_of_le hle with hold | rfl
    · exact (only j hlt (by omega)).add
    · exact hnew

/-- Adding a blank line of a filter leaves the parents linked. -/
theorem add_blank (hs : n.Sound) (hb : n.Blocks) (h : n.Linked) {top : Int}
    (ht : n.tree.topOf? n.last = some top) : (n.add (n.blankNode top.toNat)).Linked := by
  have hne := hs.size_ne_one_of_filter ht
  obtain ⟨-, htop, -⟩ := hs.header_of_last ht
  have hnew : (n.tree.add (n.blankNode top.toNat)).IsBlankOf top.toNat n.tree.size := by
    refine ⟨⟨?_, ?_⟩, ?_, Tree.parent?_add_size _ _⟩
    · rw [Tree.nodeAt_add_size]
      rfl
    · rw [Tree.contentAt_add_size]
      rfl
    · rw [Tree.topOf?_add_size]
      rfl
  refine ⟨h.chain_add _, fun _ => ?_, fun _ => ?_⟩
  · rw [last_add, tree_add]
    exact h.attached_blank hs hb (htop ▸ ht) hnew
  · obtain ⟨s, hlast, hparent⟩ := h.line hne
    exact ⟨s, hlast.add_blank rfl, Tree.parent?_add hparent⟩

/-- A step leaves the parents linked. -/
theorem step (hs : n.Sound) (hb : n.Blocks) (h : n.Linked) (hm : n.step line = .ok m) :
    m.Linked := by
  obtain ⟨-, -, rfl⟩ | ⟨-, top, ht, rfl⟩ | ⟨hne, hf, rfl⟩ := step_cases hm
  · exact h
  · exact h.add_blank hs hb ht
  · exact h.add_line hne hf

end Linked

/-- After a run the parents are linked. -/
theorem linked_run {lines : List LogicalLine} (h : run lines = .ok n) : n.Sound ∧ n.Linked := by
  obtain ⟨hs, -, hlinked⟩ := run_induction (P := fun n _ => n.Blocks ∧ n.Linked)
    ⟨blocks_start, linked_start⟩
    (fun _ _ _ _ hs hn hm => ⟨hn.1.step hs hm, hn.2.step hs hn.1 hm⟩) h
  exact ⟨hs, hlinked⟩

/-- A line is refused for its width only. -/
theorem fault?_ne {fault : Outline.Fault} (h : n.fault? width = some fault) :
    fault ≠ .noUnit ∧ fault ≠ .emptyStack ∧ fault ≠ .noNode := by
  unfold fault? at h
  split_ifs at h
  all_goals
    obtain rfl := Option.some.inj h
    exact ⟨Outline.Fault.noConfusion, Outline.Fault.noConfusion, Outline.Fault.noConfusion⟩

end Nesting

namespace Template

/-- What the outline keeps between two lines. -/
structure Progress.Coherent (p : Progress) : Prop where
  /-- The width is that of the level. -/
  width : p.state.previousIndent = p.state.unit * p.state.previousLevel
  /-- There is one level. -/
  level : p.state.currentLevel = p.state.previousLevel
  /-- The stack has an entry for each level. -/
  height : (p.state.stack.length : Int) = p.state.previousLevel
  /-- Before the first line there is only the root. -/
  fresh : p.state.node = none → p.state.stack = [] ∧ p.state.parent = 0
  /-- From the root on, the entries of the stack and then the present parent are a chain. -/
  chain : ∃ entries : List Nat,
    p.state.stack.reverse ++ [p.state.parent] = entries.map Int.ofNat ∧
    entries.head? = some 0 ∧ entries.IsChain p.tree.Links
  /-- The present parent is that of the last line. -/
  line : p.state.node ≠ none → ∃ s q, p.tree.IsLastLine s ∧ p.tree.parent? s = some q ∧
    p.state.parent = Int.ofNat q
  /-- The code level is that of the parent, and one more below code. -/
  code : ∃ parent, p.tree.find? p.state.parent = some parent ∧
    p.state.codeLevel = parent.codeLevel + if parent.content.isCode then 1 else 0

end Template

namespace Nesting

variable {n : Nesting} {p : Template.Progress}

/-- A state of the outline that the lines so far have led to is that of a nesting. -/
theorem exists_tracks {lines : List LogicalLine}
    (h : lines.foldlM Template.Progress.step Template.start = .ok p) :
    ∃ n, run lines = .ok n ∧ n.Tracks p := by
  obtain ⟨herror, hok⟩ := tracks_start.foldlM sound_start lines
  cases hr : run lines with
  | error error =>
    rw [herror error hr] at h
    cases h
  | ok n =>
    obtain ⟨q, hq, htracks⟩ := hok n hr
    obtain rfl := Except.ok.inj (hq.symm.trans h)
    exact ⟨n, rfl, htracks⟩

/-- An outline that tracks a linked nesting is coherent. -/
theorem Tracks.coherent (hs : n.Sound) (hl : n.Linked) (h : n.Tracks p) : p.Coherent := by
  have hstack : p.state.stack.length = n.level := by
    have hlength := congrArg List.length h.stack
    simpa [level] using hlength
  refine ⟨?_, h.level.trans h.previousLevel.symm, ?_, fun hnone => ?_, ?_, fun hsome => ?_, ?_⟩
  · rw [h.previousIndent, h.unit, h.previousLevel, Int.natCast_mul]
  · rw [hstack, h.previousLevel]
  · have hone : n.tree.size = 1 := by
      by_contra hne
      rw [h.node_eq hne] at hnone
      cases hnone
    have hparents := h.stack
    rw [hs.unit (hs.fresh hone)] at hparents
    exact (List.cons.inj hparents).symm
  · refine ⟨0 :: n.parents, ?_, rfl, h.tree ▸ hl.chain⟩
    rw [← List.reverse_cons, h.stack, List.reverse_reverse]
  · have hne : n.tree.size ≠ 1 := fun hone => hsome (h.node.trans (if_pos hone))
    obtain ⟨s, hlast, hparent⟩ := hl.line hne
    exact ⟨s, n.parent, h.tree ▸ hlast, h.tree ▸ hparent, h.parent⟩
  · refine ⟨n.tree.nodeAt n.parent, ?_, ?_⟩
    · rw [h.tree, h.parent]
      exact Tree.find?_natCast hs.parent_lt
    · rw [h.code, Node.childCodeLevel]
      split <;> simp

end Nesting

namespace Template

/-- The outline is in a state before some line of a source or after the last. -/
def Visits (source : Text) (p : Progress) : Prop :=
  ∃ before after, logicalLines source = before ++ after ∧
    before.foldlM Progress.step start = .ok p

/-- In every state between two lines of a source the outline is coherent. So whatever line comes
next, it is not measured without a unit, no parent is taken off an empty stack, and every reference
that is followed leads to a node. -/
theorem coherent_of_visits {source : Text} {p : Progress} (h : Visits source p) :
    p.Coherent ∧ ∀ line error, p.step line = .error error →
      error.fault ≠ .noUnit ∧ error.fault ≠ .emptyStack ∧ error.fault ≠ .noNode := by
  obtain ⟨before, after, -, hp⟩ := h
  obtain ⟨n, hr, htracks⟩ := Nesting.exists_tracks hp
  obtain ⟨hs, hlinked⟩ := Nesting.linked_run hr
  refine ⟨htracks.coherent hs hlinked, fun line error herror => ?_⟩
  cases hstep : n.step line with
  | error other =>
    obtain rfl := Except.error.inj (((htracks.step hs line).1 other hstep).symm.trans herror)
    exact Nesting.fault?_ne (Nesting.step_eq_error_iff.mp hstep).2.1
  | ok m =>
    obtain ⟨q, hq, -⟩ := (htracks.step hs line).2 m hstep
    rw [hq] at herror
    cases herror

/-- A filter with a blank line after its header and a line that skips two levels. -/
def skippedLevels : Text := "%p\n  :plain\n\n        a\n      b".toList

/-- The outline after the line that skips levels. -/
def afterSkip : Progress :=
  (((logicalLines skippedLevels).take 4).foldlM Progress.step start).toOption.getD start

/-- A line of a filter that skips levels has a blank line as its parent for each of them, and the
stack does not run empty after it. -/
theorem coherent_of_visits_skippedLevels :
    Visits skippedLevels afterSkip ∧
      afterSkip.state.stack.reverse ++ [afterSkip.state.parent] = [0, 1, 3, 3, 3] ∧
      afterSkip.Coherent ∧
      ∀ line error, afterSkip.step line = .error error → error.fault ≠ .emptyStack := by
  have hvisits : Visits skippedLevels afterSkip :=
    ⟨_, _, (List.take_append_drop 4 _).symm, by decide +kernel⟩
  obtain ⟨hcoherent, hfaults⟩ := coherent_of_visits hvisits
  exact ⟨hvisits, by decide +kernel, hcoherent, fun line error h => (hfaults line error h).2.1⟩

/-- A filter whose first line is blank. -/
def blankFirst : Text := ":plain\n\n  a".toList

/-- The outline after the lines of `blankFirst`. -/
def afterBlank : Progress :=
  ((logicalLines blankFirst).foldlM Progress.step start).toOption.getD start

/-- A blank line among the parents need not be one of a filter that the entry before it belongs to:
it can be a blank line right after the header of a filter. -/
theorem not_within_blankFirst :
    Visits blankFirst afterBlank ∧ ¬∃ entries : List Nat,
      afterBlank.state.stack.reverse ++ [afterBlank.state.parent] = entries.map Int.ofNat ∧
      entries.IsChain fun x y =>
        (y = x ∧ afterBlank.tree.insideRaw x = true) ∨ afterBlank.tree.parent? y = some x ∨
        ∃ t : Nat, afterBlank.tree.IsBlankFilterLine y ∧
          afterBlank.tree.topOf? y = some (t : Int) ∧
          (t = x ∨ t ∈ afterBlank.tree.ancestors x) := by
  obtain ⟨hrun, hstate, hparent, htop⟩ :
      (logicalLines blankFirst).foldlM Progress.step start = .ok afterBlank ∧
      afterBlank.state.stack.reverse ++ [afterBlank.state.parent] = [0, 2].map Int.ofNat ∧
      afterBlank.tree.parent? 2 = some 1 ∧ afterBlank.tree.topOf? 2 = some 1 := by decide +kernel
  refine ⟨⟨_, [], (List.append_nil _).symm, hrun⟩, ?_⟩
  rintro ⟨entries, hentries, hchain⟩
  obtain rfl : [0, 2] = entries :=
    List.map_injective_iff.mpr (fun _ _ => Int.ofNat.inj) (hstate.symm.trans hentries)
  obtain ⟨hsame, -⟩ | hchild | ⟨t, -, hfilter, hwithin⟩ := (List.isChain_cons_cons.mp hchain).1
  · cases hsame
  · rw [hparent] at hchild
    cases hchild
  · obtain rfl : t = 1 := Int.ofNat.inj (Option.some.inj (hfilter.symm.trans htop))
    obtain hzero | habove := hwithin
    · cases hzero
    · exact absurd (Tree.lt_of_mem_ancestors habove) (Nat.not_lt_zero 1)

end Template

end Haml
