import Haml.Proofs.JoinedLines
import Haml.Proofs.SilentComment

/-!
# Blank lines

A blank line counts only after a line of a filter. There it becomes a node of its own, so all later
nodes move on by one, and it is the last node when the next line is placed. But a line below the
last node would be a line of the filter. So where no such line follows, the next line goes where it
would have gone, and from then on the two runs are in step. The filter has one more blank line at
its end, which its text does not show.
-/

namespace Haml

/-- The map that leaves out one index. -/
def leaveOut (s i : Nat) : Nat := if i < s then i else i + 1

section leaveOut

variable {s i j : Nat}

/-- Indices before the one left out stay. -/
theorem leaveOut_of_lt (h : i < s) : leaveOut s i = i := if_pos h

/-- Indices from it on move up by one. -/
theorem leaveOut_of_le (h : s ≤ i) : leaveOut s i = i + 1 := if_neg (Nat.not_lt.mpr h)

/-- The indices keep their order. -/
theorem strictMono_leaveOut (s : Nat) : StrictMono (leaveOut s) := by
  intro i j hij
  rw [leaveOut, leaveOut]
  split_ifs <;> omega

/-- Every index but one is met. -/
theorem exists_leaveOut (h : j ≠ s) : ∃ i, leaveOut s i = j := by
  rcases Nat.lt_or_gt_of_ne h with hlt | hgt
  · exact ⟨j, leaveOut_of_lt hlt⟩
  · exact ⟨j - 1, by rw [leaveOut_of_le (by omega)]; omega⟩

end leaveOut

namespace Tree

variable {t u : Tree} {s i j : Nat}

/-- The lines of a filter before an index and from it on. -/
theorem bodyOf_split {tree : Tree} (hs : s ≤ tree.size) (i : Nat) :
    ∃ later, tree.bodyOf i =
        ((List.range s).filter fun j => tree.contentAt j == .filter (.body i)) ++ later ∧
      ∀ j ∈ later, s ≤ j ∧ j < tree.size ∧ tree.contentAt j = .filter (.body i) := by
  obtain ⟨more, hmore⟩ : ∃ more, tree.size = s + more := ⟨_, (Nat.add_sub_of_le hs).symm⟩
  rw [bodyOf, hmore, List.range_add, List.filter_append]
  refine ⟨_, rfl, ?_⟩
  intro j hj
  rw [List.mem_filter, List.mem_map, beq_iff_eq] at hj
  obtain ⟨⟨k, hk, rfl⟩, hc⟩ := hj
  have hlt := List.mem_range.mp hk
  exact ⟨by omega, by omega, hc⟩

/-- The tree `u` has one node more than the tree `t`: at the index `s`, a blank line of the filter
`top`, after which `t` has no other lines of it. -/
structure PaddedAt (s top : Nat) (t u : Tree) : Prop where
  /-- The other nodes are those of `t`. -/
  embeds : t.Embeds (leaveOut s) u
  /-- The node comes among those of `t` or after them. -/
  le : s ≤ t.size
  /-- The filter is before it. -/
  lt : top < s
  /-- It is a filter. -/
  header : ∃ kind, t.contentAt top = .filter (.header kind)
  /-- The node belongs to the filter. -/
  parent : (u.nodeAt s).parent = some top
  /-- It is one of its lines. -/
  content : u.contentAt s = .filter (.body top)
  /-- The node is blank. -/
  blank : (u.nodeAt s).expression = []
  /-- So are later lines of the filter. -/
  ends : ∀ j, s ≤ j → j < t.size → t.contentAt j = .filter (.body top) →
    (t.nodeAt j).expression = []

namespace PaddedAt

variable {top : Nat}

/-- A padded tree has one node more. -/
theorem size_eq (h : PaddedAt s top t u) : u.size = t.size + 1 := by
  rw [← h.embeds.apply_size, leaveOut_of_le h.le]

/-- A node of the longer tree is the blank line or a node of the other. -/
theorem index_cases (h : PaddedAt s top t u) (hj : j < u.size) :
    j = s ∨ ∃ k < t.size, j = leaveOut s k := by
  by_cases heq : j = s
  · exact .inl heq
  · obtain ⟨k, rfl⟩ := exists_leaveOut heq
    exact .inr ⟨k, h.embeds.mono.lt_iff_lt.mp (hj.trans_eq h.embeds.apply_size.symm), rfl⟩

/-- The other nodes have the same parents, by their new indices. -/
theorem parent?_leaveOut (h : PaddedAt s top t u) (hi : i < t.size) :
    u.parent? (leaveOut s i) = (t.parent? i).map (leaveOut s) := by
  rw [parent?_eq (h.embeds.apply_lt_size hi), parent?_eq hi, h.embeds.nodes i hi]
  rfl

/-- Nodes other than filters have the same children. -/
theorem children_leaveOut (h : PaddedAt s top t u)
    (hrenders : (t.contentAt i).rendersBelow = true) :
    u.children (leaveOut s i) = (t.children i).map (leaveOut s) := by
  refine (u.pairwise_children _).eq_of_mem_iff (h.embeds.pairwise_map (t.pairwise_children i)) ?_
  intro j
  rw [mem_children, List.mem_map]
  constructor
  · rintro ⟨hij, hj, hp⟩
    obtain rfl | ⟨k, hk, rfl⟩ := h.index_cases hj
    · rw [parent?_eq hj, h.parent] at hp
      have htop : leaveOut j top = leaveOut j i := by rw [leaveOut_of_lt h.lt, Option.some.inj hp]
      obtain ⟨kind, hkind⟩ := h.header
      rw [← h.embeds.mono.injective htop, hkind] at hrenders
      cases hrenders
    · rw [h.parent?_leaveOut hk] at hp
      obtain ⟨q, hq, heq⟩ := Option.map_eq_some_iff.mp hp
      obtain rfl : q = i := h.embeds.mono.injective heq
      exact ⟨k, mem_children.mpr ⟨h.embeds.mono.lt_iff_lt.mp hij, hk, hq⟩, rfl⟩
  · rintro ⟨k, hk, rfl⟩
    obtain ⟨hik, hks, hp⟩ := mem_children.mp hk
    exact ⟨h.embeds.mono hik, h.embeds.apply_lt_size hks, by rw [h.parent?_leaveOut hks, hp]; rfl⟩

end PaddedAt

end Tree

namespace Nesting

variable {m n : Nesting} {s top : Nat}

/-- Lines of the filters of a tree are sent to lines of the images. -/
theorem Sound.contentAt_leaveOut_iff (hm : m.Sound) (h : m.tree.PaddedAt s top n.tree) {i k : Nat}
    (hk : k < m.tree.size) :
    n.tree.contentAt (leaveOut s k) = .filter (.body (leaveOut s i : Nat)) ↔
      m.tree.contentAt k = .filter (.body i) := by
  rw [h.embeds.contentAt hk, Content.relabel_eq_body_iff]
  constructor
  · rintro ⟨other, hother, heq⟩
    have hsame : i = other.toNat := h.embeds.mono.injective (Int.ofNat.inj heq)
    obtain ⟨t, -, rfl, -⟩ := hm.filters k hk other (by rw [Tree.topOf?_eq hk, hother]; rfl)
    rw [Int.toNat_natCast] at hsame
    rw [hother, hsame]
  · intro hc
    exact ⟨i, hc, rfl⟩

/-- Other filters have the same lines. -/
theorem bodyOf_leaveOut (hm : m.Sound) (h : m.tree.PaddedAt s top n.tree) {i : Nat} (hi : i ≠ top) :
    n.tree.bodyOf (leaveOut s i) = (m.tree.bodyOf i).map (leaveOut s) := by
  refine (n.tree.pairwise_bodyOf _).eq_of_mem_iff
    (h.embeds.pairwise_map (m.tree.pairwise_bodyOf i)) ?_
  intro j
  rw [Tree.mem_bodyOf, List.mem_map]
  constructor
  · rintro ⟨hj, hc⟩
    obtain rfl | ⟨k, hk, rfl⟩ := h.index_cases hj
    · rw [h.content, Content.filter.injEq, FilterLine.body.injEq] at hc
      have hsame : leaveOut j top = leaveOut j i := by rw [leaveOut_of_lt h.lt, Int.ofNat.inj hc]
      exact absurd (h.embeds.mono.injective hsame).symm hi
    · exact ⟨k, Tree.mem_bodyOf.mpr ⟨hk, (hm.contentAt_leaveOut_iff h hk).mp hc⟩, rfl⟩
  · rintro ⟨k, hk, rfl⟩
    obtain ⟨hks, hc⟩ := Tree.mem_bodyOf.mp hk
    exact ⟨h.embeds.apply_lt_size hks, (hm.contentAt_leaveOut_iff h hks).mpr hc⟩

/-- The filter of the blank line has the same text. -/
theorem ofNodes_bodyOf_top (hm : m.Sound) (h : m.tree.PaddedAt s top n.tree) :
    FilterText.ofNodes ((n.tree.bodyOf top).map n.tree.nodeAt) =
      FilterText.ofNodes ((m.tree.bodyOf top).map m.tree.nodeAt) := by
  have hle : s ≤ n.tree.size := h.le.trans (by rw [h.size_eq]; omega)
  have htop : leaveOut s top = top := leaveOut_of_lt h.lt
  obtain ⟨back, hback, hblank⟩ := Tree.bodyOf_split h.le top
  obtain ⟨back', hback', hblank'⟩ := Tree.bodyOf_split hle top
  have hnone : ∀ node ∈ back.map m.tree.nodeAt, node.expression = [] := by
    refine List.forall_mem_map.mpr fun j hj => ?_
    obtain ⟨hge, hlt, hc⟩ := hblank j hj
    exact h.ends j hge hlt hc
  have hnone' : ∀ node ∈ back'.map n.tree.nodeAt, node.expression = [] := by
    refine List.forall_mem_map.mpr fun j hj => ?_
    obtain ⟨hge, hlt, hc⟩ := hblank' j hj
    obtain rfl | ⟨k, hk, rfl⟩ := h.index_cases hlt
    · exact h.blank
    · have hks : s ≤ k := by
        by_contra hn
        rw [leaveOut_of_lt (by omega)] at hge
        omega
      rw [← htop, hm.contentAt_leaveOut_iff h hk] at hc
      rw [h.embeds.nodes k hk]
      exact h.ends k hks hk hc
  have hfront : (List.range s).filter (fun j => n.tree.contentAt j == .filter (.body top)) =
      (List.range s).filter fun j => m.tree.contentAt j == .filter (.body top) := by
    refine List.filter_congr fun j hj => ?_
    have hlt := List.mem_range.mp hj
    have hiff := hm.contentAt_leaveOut_iff h (i := top) (hlt.trans_le h.le)
    rw [htop, leaveOut_of_lt hlt] at hiff
    rw [Bool.eq_iff_iff, beq_iff_eq, beq_iff_eq, hiff]
  have hnodes : ((List.range s).filter fun j => m.tree.contentAt j == .filter (.body top)).map
        n.tree.nodeAt =
      (((List.range s).filter fun j => m.tree.contentAt j == .filter (.body top)).map
        m.tree.nodeAt).map (Node.relabel (leaveOut s)) := by
    rw [List.map_map]
    refine List.map_congr_left fun j hj => ?_
    have hlt := List.mem_range.mp (List.mem_filter.mp hj).1
    have hnode := h.embeds.nodes j (hlt.trans_le h.le)
    rwa [leaveOut_of_lt hlt] at hnode
  rw [hback, hback', List.map_append, List.map_append, FilterText.ofNodes_append_blank _ hnone,
    FilterText.ofNodes_append_blank _ hnone', hfront, hnodes, FilterText.ofNodes_map_relabel]

/-- The two trees render alike. -/
theorem mirrors_leaveOut (hm : m.Sound ∧ m.Blocks) (hn : n.Sound ∧ n.Blocks)
    (h : m.tree.PaddedAt s top n.tree) :
    m.tree.Mirrors n.tree (leaveOut s) (· < m.tree.size) where
  node i hi := by
    rw [h.embeds.nodes i hi]
    exact Node.rendersLike_relabel _ _
  children i _ hrenders := h.children_leaveOut hrenders
  closed i _ _ c hc := (Tree.lt_of_mem_children hc).2
  filter i kind hi hk := by
    have hk' : n.tree.contentAt (leaveOut s i) = .filter (.header kind) := by
      rw [h.embeds.contentAt hi, hk]
      rfl
    rw [hn.2.filterLines_eq hn.1 hk', hm.2.filterLines_eq hm.1 hk]
    by_cases htop : i = top
    · rw [htop, leaveOut_of_lt h.lt]
      exact ofNodes_bodyOf_top hm.1 h
    · have hnodes : ((m.tree.bodyOf i).map (leaveOut s)).map n.tree.nodeAt =
          ((m.tree.bodyOf i).map m.tree.nodeAt).map (Node.relabel (leaveOut s)) := by
        rw [List.map_map, List.map_map]
        exact List.map_congr_left fun j hj => h.embeds.nodes j (Tree.mem_bodyOf.mp hj).1
      rw [bodyOf_leaveOut hm.1 h htop, hnodes, FilterText.ofNodes_map_relabel]

section run

variable {m' : Nesting} {line blank : LogicalLine} {blanks : List LogicalLine} {width : Nat}

/-- Blank lines are all the same. -/
theorem foldlM_blank (hb : ∀ other ∈ blanks, other.expression = []) (he : blank.expression = [])
    (n : Nesting) :
    blanks.foldlM step n = (List.replicate blanks.length blank).foldlM step n := by
  induction blanks generalizing n with
  | nil => rfl
  | cons other blanks ih =>
    obtain ⟨hother, hrest⟩ := List.forall_mem_cons.mp hb
    have hstep : n.step other = n.step blank := by rw [step, step, if_pos hother, if_pos he]
    rw [List.length_cons, List.replicate_succ, List.foldlM_cons, List.foldlM_cons, hstep]
    simp only [ih hrest]

/-- A blank line can as well come after other blank lines. -/
theorem foldlM_blank_comm (hb : ∀ other ∈ blanks, other.expression = [])
    (he : blank.expression = []) (n : Nesting) :
    (blank :: blanks).foldlM step n = (blanks ++ [blank]).foldlM step n := by
  have hfirst : ∀ other ∈ blank :: blanks, other.expression = [] :=
    List.forall_mem_cons.mpr ⟨he, hb⟩
  have hlast : ∀ other ∈ blanks ++ [blank], other.expression = [] :=
    List.forall_mem_append.mpr ⟨hb, List.forall_mem_singleton.mpr he⟩
  rw [foldlM_blank hfirst he, foldlM_blank hlast he, List.length_append, List.length_cons,
    List.length_singleton]

/-- After blank lines of a filter the last node is still a line of it. -/
theorem topOf?_last_of_blanks (hs : n.Sound) {filter : Int}
    (ht : n.tree.topOf? n.last = some filter) (hb : ∀ other ∈ blanks, other.expression = [])
    (h : blanks.foldlM step n = .ok m) : m.tree.topOf? m.last = some filter := by
  induction blanks generalizing n with
  | nil =>
    obtain rfl : n = m := Except.ok.inj h
    exact ht
  | cons other blanks ih =>
    obtain ⟨hother, hrest⟩ := List.forall_mem_cons.mp hb
    obtain ⟨mid, hstep, hmore⟩ := exists_foldlM_cons h
    have hmid : mid = n.add (n.blankNode filter.toNat) := by
      rw [step, if_pos hother, ht] at hstep
      exact (Except.ok.inj hstep).symm
    subst hmid
    refine ih (hs.add_blank ht) ?_ hrest hmore
    rw [last_add, tree_add, Tree.topOf?_add_size]
    exact congrArg some (hs.header_of_last ht).2.1.symm

/-- A line deeper than the last one is below the last node. -/
theorem parent_moveTo_of_lt (h : n.level < n.levelAt width) : (n.moveTo width).parent = n.last := by
  obtain ⟨hl, -⟩ | ⟨j, hl, hj⟩ := (n.moveTo width).parent_cases
  · rw [level_moveTo] at hl
    omega
  · rw [level_moveTo] at hl
    rw [getElem?_moveTo, if_pos (by omega), if_neg (by omega)] at hj
    exact (Option.some.inj hj).symm

/-- One more node moves on those after it. -/
theorem Sound.embeds_add (hs : n.Sound) (node : Node) :
    n.tree.Embeds (leaveOut n.tree.size) (n.tree.add node) where
  mono := strictMono_leaveOut _
  zero := leaveOut_of_lt hs.rooted.size_pos
  size k := by
    rw [leaveOut_of_le (Nat.le_add_right _ _), Tree.size_add]
    omega
  nodes i hi := by
    have hself := hs.sent_self hi (f := leaveOut n.tree.size) fun j hj =>
      leaveOut_of_lt (hj.trans_lt hi)
    rw [leaveOut_of_lt hi, Tree.nodeAt_add_lt hi, Node.relabel, ← hself.parent, ← hself.content]

/-- A line that is not below the last node goes where it would go without that node. -/
theorem exists_inStep_add (hs : m.Sound) (node : Node) (hne : line.expression ≠ [])
    (hm : m.step line = .ok m') (hlevel : m.levelAt line.indent ≤ m.level) {v : Nat}
    (hv : m'.unit = 0 ∨ v = 0 ∨ m'.unit = v) :
    ∃ n', (m.add node).step line = .ok n' ∧ InStep (leaveOut m.tree.size) v m' n' := by
  obtain ⟨hf, rfl⟩ := step_cases_line hne hm
  have hembeds : (m.moveTo line.indent).tree.Embeds (leaveOut m.tree.size)
      ((m.add node).moveTo line.indent).tree := hs.embeds_add node
  have hfault : (m.add node).fault? line.indent = none := by
    have hlevelAt : (m.add node).levelAt line.indent = m.levelAt line.indent := rfl
    have hlevel' : (m.add node).level = m.level := rfl
    rw [fault?_eq_none_iff, hlevelAt, hlevel']
    exact ⟨(fault?_eq_none_iff.mp hf).1, fun hlt => by omega, fun hlt => by omega⟩
  have hparents : ((m.add node).moveTo line.indent).parents =
      (m.moveTo line.indent).parents.map (leaveOut m.tree.size) := by
    have hkeep : (m.moveTo line.indent).parents = m.parents.take (m.levelAt line.indent) := by
      rw [moveTo, Nat.sub_eq_zero_of_le hlevel, List.replicate_zero, List.append_nil]
    have hsame : ((m.add node).moveTo line.indent).parents =
        m.parents.take (m.levelAt line.indent) := by
      change _ ++ List.replicate (m.levelAt line.indent - m.level) _ = _
      rw [Nat.sub_eq_zero_of_le hlevel, List.replicate_zero, List.append_nil]
      rfl
    rw [hkeep, hsame]
    symm
    refine (List.map_congr_left fun p hp => ?_).trans (List.map_id _)
    exact leaveOut_of_lt (hs.parents_lt p (List.mem_of_mem_take hp))
  refine ⟨((m.add node).moveTo line.indent).add (((m.add node).moveTo line.indent).lineNode line),
    ?_, ?_⟩
  · rw [step, if_neg hne, hfault]
  · rw [lineNode_of_embeds (hs.moveTo hf) hembeds hparents]
    exact ⟨hembeds.add _, by rw [last_add, last_add, hembeds.apply_size], hparents, .inr rfl, hv⟩

/-- A deeper line would be a line of the filter that the last node belongs to. -/
theorem levelAt_le_of_ends (hs : m.Sound) {filter : Int} (ht : m.tree.topOf? m.last = some filter)
    (hne : line.expression ≠ []) {rest : List LogicalLine}
    (hm : (line :: rest).foldlM step m = .ok m')
    (hends : ∀ j, m.tree.size ≤ j → j < m'.tree.size →
      m'.tree.contentAt j = .filter (.body filter.toNat) → (m'.tree.nodeAt j).expression = []) :
    m.levelAt line.indent ≤ m.level := by
  by_contra hdeep
  obtain ⟨next, hstep, hmore⟩ := exists_foldlM_cons hm
  obtain ⟨-, rfl⟩ := step_cases_line hne hstep
  have htop : (m.moveTo line.indent).tree.topOf? (m.moveTo line.indent).parent = some filter := by
    rw [parent_moveTo_of_lt (by omega)]
    exact ht
  obtain ⟨hsize, hnodes⟩ := foldlM_frame hmore
  rw [tree_add, tree_moveTo, Tree.size_add] at hsize hnodes
  have hnode : m'.tree.nodeAt m.tree.size = (m.moveTo line.indent).lineNode line := by
    rw [hnodes _ (by omega), Tree.nodeAt_add_size]
  refine hne ((congrArg Node.expression hnode).symm.trans (hends _ le_rfl (by omega) ?_))
  rw [Tree.contentAt, hnode, content_lineNode_of_some line htop, ← (hs.header_of_last ht).2.1]

/-- A blank line of a filter right before lines of which none but blank ones belong to it. -/
theorem exists_foldlM_add_blank {before rest : List LogicalLine} (hrun : run before = .ok m)
    {filter : Int} (ht : m.tree.topOf? m.last = some filter)
    (hrest : ∀ next ∈ rest.head?, next.expression ≠ []) (hm : rest.foldlM step m = .ok m')
    (hends : ∀ j, m.tree.size ≤ j → j < m'.tree.size →
      m'.tree.contentAt j = .filter (.body filter.toNat) → (m'.tree.nodeAt j).expression = []) :
    ∃ n', rest.foldlM step (m.add (m.blankNode filter.toNat)) = .ok n' ∧
      m'.tree.PaddedAt m.tree.size filter.toNat n'.tree := by
  obtain ⟨hs, -⟩ := reads_run hrun
  obtain ⟨hlt, -, kind, hheader⟩ := hs.header_of_last ht
  obtain ⟨hsize, hnodes⟩ := foldlM_frame hm
  have hpadded : ∀ n', rest.foldlM step (m.add (m.blankNode filter.toNat)) = .ok n' →
      m'.tree.Embeds (leaveOut m.tree.size) n'.tree →
      m'.tree.PaddedAt m.tree.size filter.toNat n'.tree := by
    intro n' hn' hembeds
    have hnode : n'.tree.nodeAt m.tree.size = m.blankNode filter.toNat := by
      rw [(foldlM_frame hn').2 _ (by rw [tree_add, Tree.size_add]; omega), tree_add,
        Tree.nodeAt_add_size]
    have hkept : m'.tree.contentAt filter.toNat = .filter (.header kind) := by
      rw [Tree.contentAt, hnodes _ hlt]
      exact hheader
    exact ⟨hembeds, hsize, hlt, ⟨kind, hkept⟩, by rw [hnode]; rfl,
      by rw [Tree.contentAt, hnode]; rfl, by rw [hnode]; rfl, hends⟩
  cases rest with
  | nil =>
    obtain rfl : m = m' := Except.ok.inj hm
    exact ⟨_, rfl, hpadded _ rfl (hs.embeds_add _)⟩
  | cons line rest =>
    have hne := hrest line rfl
    have hlevel := levelAt_le_of_ends hs ht hne hm hends
    obtain ⟨next, hstep, hmore⟩ := exists_foldlM_cons hm
    have hnext : run (before ++ [line]) = .ok next := by
      rw [run_concat, hrun]
      exact hstep
    have hunit : next.unit = 0 ∨ LogicalLine.unitOf (before ++ [line] ++ rest) = 0 ∨
        next.unit = LogicalLine.unitOf (before ++ [line] ++ rest) := by
      rw [(reads_run hnext).2.unit, LogicalLine.unitOf_append _ rest]
      split
      · exact .inl ‹_›
      · exact .inr (.inr rfl)
    obtain ⟨other, hother, hinstep⟩ :=
      exists_inStep_add hs (m.blankNode filter.toNat) hne hstep hlevel hunit
    obtain ⟨n', hn', hfinal⟩ := hinstep.foldlM hnext hmore
    have hall : (line :: rest).foldlM step (m.add (m.blankNode filter.toNat)) = .ok n' := by
      rw [List.foldlM_cons, hother]
      exact hn'
    exact ⟨n', hall, hpadded n' hall hfinal.tree⟩

/-- One more blank line after a line of a filter of which no line but blank ones follows. The blank
line may as well come after the other blank ones. -/
theorem exists_run_blank {before after : List LogicalLine} (he : blank.expression = [])
    (hbefore : run before = .ok m) {filter : Int} (ht : m.tree.topOf? m.last = some filter)
    (hrun : run (before ++ after) = .ok m')
    (hends : ∀ j, m.tree.size ≤ j → j < m'.tree.size →
      m'.tree.contentAt j = .filter (.body filter.toNat) → (m'.tree.nodeAt j).expression = []) :
    ∃ n' s, run (before ++ blank :: after) = .ok n' ∧
      m'.tree.PaddedAt s filter.toNat n'.tree := by
  obtain ⟨hs, -⟩ := reads_run hbefore
  obtain ⟨blanks, rest, rfl, hblanks, hrest⟩ := LogicalLine.exists_blanks after
  obtain ⟨mid, hmid, hmore⟩ := exists_run_of_append (List.append_assoc .. ▸ hrun)
  obtain ⟨n, hn, hfold⟩ := exists_run_of_append hmid
  obtain rfl : m = n := Except.ok.inj (hbefore.symm.trans hn)
  have ht' := topOf?_last_of_blanks hs ht hblanks hfold
  have hsize := (foldlM_frame hfold).1
  obtain ⟨n', hn', hpadded⟩ := exists_foldlM_add_blank hmid ht' hrest hmore fun j hj =>
    hends j (hsize.trans hj)
  refine ⟨n', mid.tree.size, ?_, hpadded⟩
  have hblank : mid.step blank = .ok (mid.add (mid.blankNode filter.toNat)) := by
    rw [step, if_pos he, ht']
  have hstart : (blank :: blanks).foldlM step m = .ok (mid.add (mid.blankNode filter.toNat)) := by
    rw [foldlM_blank_comm hblanks he, List.foldlM_append, hfold]
    change [blank].foldlM step mid = _
    rw [List.foldlM_cons, hblank]
    rfl
  rw [run_append, hbefore, ← List.cons_append]
  change ((blank :: blanks) ++ rest).foldlM step m = _
  rw [List.foldlM_append, hstart]
  exact hn'

/-- One more blank line anywhere but before a further line of a filter. -/
theorem run_blank_cases {before after : List LogicalLine} (he : blank.expression = [])
    (hbefore : run before = .ok m) (hrun : run (before ++ after) = .ok m')
    (hends : ∀ top < m.tree.size, ∀ j, m.tree.size ≤ j → j < m'.tree.size →
      m'.tree.contentAt j = .filter (.body top) → (m'.tree.nodeAt j).expression = []) :
    (m.tree.topOf? m.last = none ∧ run (before ++ blank :: after) = .ok m') ∨
      ∃ filter n' s, m.tree.topOf? m.last = some filter ∧
        run (before ++ blank :: after) = .ok n' ∧ m'.tree.PaddedAt s filter.toNat n'.tree ∧
        n'.tree.nodeAt m.tree.size = m.blankNode filter.toNat := by
  have hsplit : run (before ++ blank :: after) =
      m.step blank >>= fun n => after.foldlM step n := by
    rw [run_append, hbefore]
    exact List.foldlM_cons
  cases ht : m.tree.topOf? m.last with
  | none =>
    refine .inl ⟨rfl, ?_⟩
    rw [hsplit, step, if_pos he, ht]
    rw [run_append, hbefore] at hrun
    exact hrun
  | some filter =>
    obtain ⟨hlt, -⟩ := (reads_run hbefore).1.header_of_last ht
    obtain ⟨n', s, hn', hpadded⟩ := exists_run_blank he hbefore ht hrun (hends _ hlt)
    refine .inr ⟨filter, n', s, rfl, hn', hpadded, ?_⟩
    rw [hsplit, step, if_pos he, ht] at hn'
    rw [(foldlM_frame hn').2 _ (by rw [tree_add, Tree.size_add]; omega), tree_add,
      Tree.nodeAt_add_size]

end run

end Nesting

namespace LogicalLine

/-- The logical line of a blank physical line before all others. -/
def blankLine (blank : Text) : LogicalLine := ⟨1, (indentation blank).length, []⟩

/-- A blank line has no expression. -/
theorem expression_blankLine (blank : Text) : (blankLine blank).expression = [] := rfl

/-- Logical lines with a blank line between two of them. -/
theorem ofLines_blank {before after : List Text} {blank : Text}
    (hblank : ∀ c ∈ blank, Text.isBlank c = true) :
    ofLines 0 (before ++ blank :: after) = ofLines 0 before ++
      (blankLine blank :: (ofLines 0 after).map (later 1)).map (later before.length) := by
  have htrim : Text.trim blank = [] := by
    rw [Text.trim, Text.trimLeft, List.dropWhile_eq_nil_iff.mpr hblank]
    rfl
  have hapart : ∀ line ∈ (ofLines 0 before).getLast?, ∀ next ∈ (blank :: after).head?,
      continues line.expression next = false := by
    intro line _ next hnext
    obtain rfl : blank = next := Option.some.inj hnext
    by_contra hcontinues
    exact trim_ne_nil_of_continues (by simpa using hcontinues) htrim
  have hnext : ∀ next ∈ after.head?, continues (Text.trim blank) next = false := by
    intro next _
    rw [htrim, not_continues_nil]
  rw [ofLines_append_of_apart hapart, ofLines_cons_of_not_continues hnext, htrim, ofLines_add 1 0]
  rfl

end LogicalLine

namespace Template

open LogicalLine (ofLines continues)

/-- The filters of the first lines get no line from those after them, except for blank ones. -/
def FiltersEnd (before after : List Text) : Prop :=
  ∀ front whole, parseLines before = .ok front → parseLines (before ++ after) = .ok whole →
    ∀ top < front.size, ∀ j, front.size ≤ j → j < whole.size →
      whole.contentAt j = .filter (.body top) → (whole.nodeAt j).expression = []

/-- The numbers of the lines after a blank one change nothing. -/
theorem parseLines_blank {before after : List Text} {blank : Text} {n : Nesting}
    (hblank : ∀ c ∈ blank, Text.isBlank c = true)
    (h : Nesting.run (ofLines 0 before ++ LogicalLine.blankLine blank :: ofLines 0 after) = .ok n) :
    parseLines (before ++ blank :: after) = .ok n.tree := by
  rw [List.append_cons] at h
  have hlater := Nesting.run_append_later 1 h
  rw [← List.append_cons] at hlater
  rw [parseLines, LogicalLine.ofLines_blank hblank]
  exact Nesting.build_eq_ok_iff.mpr ⟨n, Nesting.run_append_later _ hlater, rfl⟩

end Template

open LogicalLine (ofLines continues) in
open Template (parse parseLines FiltersEnd) in
/-- Blank lines outside of filters do not count. A blank line between two physical lines of an
accepted source, of which the second does not continue the first and the lines after which add
nothing to a filter before it, leaves the code as it is. After a line that is no line of a filter it
leaves the tree as it is; else it becomes a blank line of the filter. -/
theorem compile_blankLine {source other blank : Text} {before after : List Text} {tree : Tree}
    (hsource : Text.splitLines source = before ++ after)
    (hother : Text.splitLines other = before ++ blank :: after)
    (hblank : ∀ c ∈ blank, Text.isBlank c = true) (hparse : parse source = .ok tree)
    (hapart : ∀ line ∈ (ofLines 0 before).getLast?, ∀ next ∈ after.head?,
      continues line.expression next = false)
    (hends : FiltersEnd before after) :
    ∃ front padded, parseLines before = .ok front ∧ parse other = .ok padded ∧
      (front.topOf? (front.size - 1) = none → padded = tree) ∧
      (∀ top, front.topOf? (front.size - 1) = some top → padded.size = tree.size + 1 ∧
        (padded.nodeAt front.size).expression = [] ∧
        padded.contentAt front.size = .filter (.body top)) ∧
      ∀ options name nameSpace,
        compile options other name nameSpace = compile options source name nameSpace := by
  have hwhole : parseLines (before ++ after) = .ok tree := hsource ▸ hparse
  have hlines := hwhole
  rw [parseLines, LogicalLine.ofLines_append_of_apart hapart] at hlines
  obtain ⟨m', hm', rfl⟩ := Nesting.build_eq_ok_iff.mp hlines
  obtain ⟨m, hm, hlater⟩ := Nesting.exists_run_of_append hm'
  have hfront : parseLines before = .ok m.tree := Nesting.build_eq_ok_iff.mpr ⟨m, hm, rfl⟩
  have hrun : Nesting.run (ofLines 0 before ++ ofLines 0 after) = .ok m' := by
    rw [Nesting.run_append, hm]
    exact Nesting.foldlM_of_later hlater
  obtain ⟨hnone, hn'⟩ | ⟨filter, n', s, hsome, hn', hpadded, hnode⟩ :=
    Nesting.run_blank_cases (LogicalLine.expression_blankLine blank) hm hrun
      (hends _ _ hfront hwhole)
  · have hsame : parse other = .ok m'.tree := by
      rw [parse, hother]
      exact Template.parseLines_blank hblank hn'
    refine ⟨m.tree, m'.tree, hfront, hsame, fun _ => rfl, ?_, ?_⟩
    · intro top htop
      cases hnone.symm.trans htop
    · intro options name nameSpace
      rw [compile, compile, hparse, hsame]
  · have hlonger : parse other = .ok n'.tree := by
      rw [parse, hother]
      exact Template.parseLines_blank hblank hn'
    obtain ⟨hs, hs'⟩ := And.intro (Nesting.blocks_run hm') (Nesting.blocks_run hn')
    refine ⟨m.tree, n'.tree, hfront, hlonger, ?_, ?_, ?_⟩
    · intro hnone
      cases hnone.symm.trans hsome
    · intro top htop
      obtain rfl : filter = top := Option.some.inj (hsome.symm.trans htop)
      refine ⟨hpadded.size_eq, by rw [hnode]; rfl, ?_⟩
      rw [Tree.contentAt, hnode, ((Nesting.reads_run hm).1.header_of_last hsome).2.1]
      rfl
    · exact compile_eq_of_mirrors hparse hlonger hs.1.rooted hs'.1.rooted
        (Nesting.mirrors_leaveOut hs hs' hpadded) hs.1.rooted.size_pos hpadded.embeds.zero

/-- A filter with a blank line in it. -/
def spacedFilter : List Text := [":plain".toList, "  a".toList, [], "    b".toList]

/-- A blank line and a paragraph. -/
def spacedParagraph : List Text := [[], "%p".toList, "  c".toList]

open LogicalLine (ofLines continues) in
open Template (parse parseLines treeOf FiltersEnd) in
/-- A further blank line after the filter is a node of the filter, and the nodes of the paragraph
move on by one. -/
theorem compile_blankLine_spacedFilter :
    (compile {} ":plain\n  a\n\n    b\n\n%p\n  c".toList "t".toList "HAML".toList).isOk = true ∧
    compile {} ":plain\n  a\n\n    b\n \t\n\n%p\n  c".toList "t".toList "HAML".toList =
      compile {} ":plain\n  a\n\n    b\n\n%p\n  c".toList "t".toList "HAML".toList ∧
    ∃ padded, parse ":plain\n  a\n\n    b\n \t\n\n%p\n  c".toList = .ok padded ∧
      padded.size = 9 ∧ padded.contentAt 5 = .filter (.body 1) := by
  have hsource : Text.splitLines ":plain\n  a\n\n    b\n\n%p\n  c".toList =
      spacedFilter ++ spacedParagraph := by decide +kernel
  have hother : Text.splitLines ":plain\n  a\n\n    b\n \t\n\n%p\n  c".toList =
      spacedFilter ++ [' ', '\t'] :: spacedParagraph := by decide +kernel
  have hfront : parseLines spacedFilter = .ok (treeOf spacedFilter) := by decide +kernel
  have hwhole : parseLines (spacedFilter ++ spacedParagraph) =
      .ok (treeOf (spacedFilter ++ spacedParagraph)) := by decide +kernel
  have hsize : (treeOf (spacedFilter ++ spacedParagraph)).size = 8 := by decide +kernel
  have hsize' : (treeOf spacedFilter).size = 5 := by decide +kernel
  have hcheck : ((List.range 8).all fun j => (List.range 5).all fun top => j < 5 ||
      (treeOf (spacedFilter ++ spacedParagraph)).contentAt j != .filter (.body top) ||
      ((treeOf (spacedFilter ++ spacedParagraph)).nodeAt j).expression.isEmpty) = true := by
    decide +kernel
  have hends : FiltersEnd spacedFilter spacedParagraph := by
    intro front whole hbefore hall top htop j hj hlt hc
    rw [hfront] at hbefore
    rw [hwhole] at hall
    obtain rfl := Except.ok.inj hbefore
    obtain rfl := Except.ok.inj hall
    rw [hsize'] at htop hj
    rw [hsize] at hlt
    have hrow := List.all_eq_true.mp hcheck j (List.mem_range.mpr hlt)
    have hline := List.all_eq_true.mp hrow top (List.mem_range.mpr htop)
    rw [hc] at hline
    simpa [Nat.not_lt.mpr hj] using hline
  have hparse := hwhole
  rw [← hsource] at hparse
  obtain ⟨front, padded, hbefore, hpadded, -, hblank, hcompile⟩ :=
    compile_blankLine hsource hother (List.all_eq_true.mp (by decide)) hparse (by decide +kernel)
      hends
  rw [hfront] at hbefore
  obtain rfl := Except.ok.inj hbefore
  obtain ⟨hgrown, -, hcontent⟩ := hblank 1 (by decide +kernel)
  refine ⟨by decide +kernel, hcompile {} _ _, padded, hpadded, ?_, ?_⟩
  · rw [hgrown, hsource, hsize]
  · rw [← hsize', hcontent]

end Haml
