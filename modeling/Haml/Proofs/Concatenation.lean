import Haml.Proofs.Embedding
import Mathlib.Data.List.Sort

/-!
# Templates one after the other

When the lines of one accepted template follow those of another, the first tree stays as it is,
except that blank lines at the start of the second template can be added to a filter at the end of
the first. The second tree follows it, moved on by a fixed number of nodes, its first level below
the common root. What a filter takes as its text does not depend on blank lines at its end, so the
statements of the whole are those of the first template and then those of the second.
-/

namespace Haml

namespace LogicalLine

/-- The line with a number of physical lines before it. -/
def later (k : Nat) (line : LogicalLine) : LogicalLine := { line with number := k + line.number }

/-- Lines before the first change the numbers only. -/
theorem ofLines_add (k before : Nat) (lines : List Text) :
    ofLines (k + before) lines = (ofLines before lines).map (later k) := by
  induction hl : lines.length using Nat.strong_induction_on generalizing before lines with
  | _ size ih =>
    cases lines with
    | nil => rw [ofLines_nil, ofLines_nil, List.map_nil]
    | cons line rest =>
      have hrest := length_rest_joinLines (Text.trim line) rest
      rw [List.length_cons] at hl
      rw [ofLines_cons, ofLines_cons, List.map_cons, ← ih _ (by omega) _ _ rfl]
      simp only [later, Nat.add_assoc]

/-- Lines that do not continue the line before them are logical lines by themselves. -/
theorem ofLines_append_of_apart {lines more : List Text}
    (h : ∀ line ∈ (ofLines 0 lines).getLast?, ∀ next ∈ more.head?,
      continues line.expression next = false) :
    ofLines 0 (lines ++ more) = ofLines 0 lines ++ (ofLines 0 more).map (later lines.length) := by
  cases more with
  | nil => rw [List.append_nil, ofLines_nil, List.map_nil, List.append_nil]
  | cons next rest =>
    rw [ofLines_append fun line hl => h line hl next rfl, ← ofLines_add, Nat.add_comm]

/-- Lines start with blank lines, if only with none. -/
theorem exists_blanks (lines : List LogicalLine) : ∃ blanks rest, lines = blanks ++ rest ∧
    (∀ line ∈ blanks, line.expression = []) ∧ ∀ line ∈ rest.head?, line.expression ≠ [] := by
  induction lines with
  | nil => exact ⟨[], [], rfl, nofun, nofun⟩
  | cons line lines ih =>
    by_cases he : line.expression = []
    · obtain ⟨blanks, rest, rfl, hblank, hrest⟩ := ih
      exact ⟨line :: blanks, rest, rfl, List.forall_mem_cons.mpr ⟨he, hblank⟩, hrest⟩
    · refine ⟨[], line :: lines, rfl, nofun, ?_⟩
      intro other ho
      rwa [← Option.some.inj ho]

end LogicalLine

namespace Nesting

variable {n m : Nesting} {line : LogicalLine} {k : Nat}

/-- What a line becomes does not depend on its number. -/
theorem step_later (k : Nat) (h : n.step line = .ok m) : n.step (line.later k) = .ok m := by
  have hexpr : (line.later k).expression = line.expression := rfl
  have hindent : (line.later k).indent = line.indent := rfl
  obtain ⟨he, ht, rfl⟩ | ⟨he, top, ht, rfl⟩ | ⟨hne, hf, rfl⟩ := step_cases h
  · rw [step, hexpr, if_pos he, ht]
  · rw [step, hexpr, if_pos he, ht]
  · rw [step, hexpr, if_neg hne, hindent, hf]
    rfl

/-- The numbers of lines do not matter for how they are nested. -/
theorem foldlM_later (k : Nat) {lines : List LogicalLine}
    (h : lines.foldlM Nesting.step n = .ok m) :
    (lines.map (LogicalLine.later k)).foldlM Nesting.step n = .ok m := by
  induction lines generalizing n with
  | nil => exact h
  | cons line lines ih =>
    obtain ⟨mid, hstep, hrest⟩ := exists_foldlM_cons h
    rw [List.map_cons, List.foldlM_cons, step_later k hstep]
    exact ih hrest

/-- The numbers of the second part of the lines do not matter for how all of them are nested. -/
theorem run_append_later (k : Nat) {first second : List LogicalLine}
    (h : run (first ++ second) = .ok m) :
    run (first ++ second.map (LogicalLine.later k)) = .ok m := by
  obtain ⟨n, hn, hrest⟩ := exists_run_of_append h
  rw [run_append, hn]
  exact foldlM_later k hrest

end Nesting

/-- The map that keeps the root and moves all other nodes on. -/
def moveOn (d i : Nat) : Nat := if i = 0 then 0 else i + d

/-- All nodes but the root move on. -/
theorem moveOn_pos {i : Nat} (d : Nat) (hi : 0 < i) : moveOn d i = i + d := if_neg hi.ne'

/-- Nodes that move on keep their order. -/
theorem strictMono_moveOn (d : Nat) : StrictMono (moveOn d) := by
  intro i j hij
  rw [moveOn, moveOn]
  split_ifs <;> omega

namespace Tree

/-- The tree `whole` is the tree `first` with blank lines of a filter after it, up to the index `d`,
and then the tree `second` without its root. -/
structure Joined (first second whole : Tree) (d : Nat) : Prop where
  /-- The first tree ends at `d` or before. -/
  le : first.size ≤ d + 1
  /-- Its nodes stay. -/
  nodes : ∀ i < first.size, whole.nodeAt i = first.nodeAt i
  /-- Between the trees there are blank lines of a filter of the first. -/
  blanks : ∀ i, first.size ≤ i → i ≤ d → ∃ t kind, t < first.size ∧
    first.contentAt t = .filter (.header kind) ∧ (whole.nodeAt i).expression = [] ∧
    (whole.nodeAt i).parent = some t ∧ (whole.nodeAt i).content = .filter (.body t)
  /-- Then come the nodes of the second tree. -/
  embeds : second.Embeds (moveOn d) whole

namespace Joined

variable {first second whole : Tree} {d i j k : Nat}

/-- The joined tree has the nodes of both, with one root. -/
theorem size_whole (h : first.Joined second whole d) (hr : second.Rooted) :
    whole.size = second.size + d := by
  rw [← h.embeds.apply_size, moveOn_pos d hr.size_pos]

/-- A node of the whole is one of the first tree, a blank line or one of the second tree. -/
theorem index_cases (h : first.Joined second whole d) (hr : second.Rooted) (hj : j < whole.size) :
    j < first.size ∨ (first.size ≤ j ∧ j ≤ d) ∨ ∃ k, 0 < k ∧ k < second.size ∧ j = moveOn d k := by
  have hsize := h.size_whole hr
  rcases Nat.lt_or_ge j first.size with hlt | hge
  · exact .inl hlt
  · rcases Nat.lt_or_ge d j with hd | hd
    · refine .inr (.inr ⟨j - d, by omega, by omega, ?_⟩)
      rw [moveOn_pos d (by omega)]
      omega
    · exact .inr (.inl ⟨hge, hd⟩)

/-- Nodes of the second tree keep their parents, by their new indices. -/
theorem parent_second (h : first.Joined second whole d) (hk : k < second.size) :
    whole.parent? (moveOn d k) = (second.parent? k).map (moveOn d) := by
  rw [parent?_eq (h.embeds.apply_lt_size hk), parent?_eq hk, h.embeds.nodes k hk]
  rfl

/-- Nodes of the first tree keep their parents. -/
theorem parent_first (h : first.Joined second whole d) (hr : second.Rooted) (hi : i < first.size) :
    whole.parent? i = first.parent? i := by
  have hle := h.le
  have hsize := h.size_whole hr
  have hpos := hr.size_pos
  rw [parent?_eq hi, parent?_eq (by omega), h.nodes i hi]

/-- The first tree has no further children, except for lines of filters. Blank lines are below the
header of a filter, and the lines of the second tree are below its lines or the root. -/
theorem children_first (h : first.Joined second whole d) (hr : second.Rooted) (hz : 0 < i)
    (hi : i < first.size) (hrenders : (first.contentAt i).rendersBelow = true) :
    whole.children i = first.children i := by
  have hle := h.le
  have hsize := h.size_whole hr
  have hpos := hr.size_pos
  refine (whole.pairwise_children i).eq_of_mem_iff (first.pairwise_children i) ?_
  intro j
  rw [mem_children, mem_children]
  constructor
  · rintro ⟨hij, hj, hp⟩
    rcases h.index_cases hr hj with hlt | ⟨hge, hd⟩ | ⟨k, hk, hks, rfl⟩
    · exact ⟨hij, hlt, h.parent_first hr hlt ▸ hp⟩
    · obtain ⟨t, kind, -, hheader, -, hparent, -⟩ := h.blanks j hge hd
      rw [parent?_eq hj, hparent] at hp
      obtain rfl : t = i := Option.some.inj hp
      rw [hheader] at hrenders
      cases hrenders
    · rw [h.parent_second hks] at hp
      obtain ⟨q, -, hq⟩ := Option.map_eq_some_iff.mp hp
      rw [moveOn] at hq
      split at hq <;> omega
  · rintro ⟨hij, hj, hp⟩
    exact ⟨hij, by omega, (h.parent_first hr hj).trans hp⟩

/-- Nodes of the second tree, the root apart, keep their children, by their new indices. -/
theorem children_second (h : first.Joined second whole d) (hr : second.Rooted) (hz : 0 < i)
    (hi : i < second.size) : whole.children (moveOn d i) = (second.children i).map (moveOn d) := by
  have hle := h.le
  refine (whole.pairwise_children _).eq_of_mem_iff
    (h.embeds.pairwise_map (second.pairwise_children i)) ?_
  intro j
  rw [mem_children, List.mem_map]
  constructor
  · rintro ⟨hij, hj, hp⟩
    rw [moveOn_pos d hz] at hij
    rcases h.index_cases hr hj with hlt | ⟨-, hd⟩ | ⟨k, hk, hks, rfl⟩
    · omega
    · omega
    · rw [h.parent_second hks] at hp
      obtain ⟨q, hq, heq⟩ := Option.map_eq_some_iff.mp hp
      obtain rfl : q = i := h.embeds.mono.injective heq
      rw [moveOn_pos d hk] at hij
      exact ⟨k, mem_children.mpr ⟨by omega, hks, hq⟩, rfl⟩
  · rintro ⟨k, hk, rfl⟩
    obtain ⟨hik, hks, hp⟩ := mem_children.mp hk
    exact ⟨h.embeds.mono hik, h.embeds.apply_lt_size hks, by rw [h.parent_second hks, hp]; rfl⟩

/-- Below the root are the lines below the two roots. -/
theorem children_zero (h : first.Joined second whole d) (hr : second.Rooted)
    (hr' : first.Rooted) :
    whole.children 0 = first.children 0 ++ (second.children 0).map (moveOn d) := by
  have hle := h.le
  have hsize := h.size_whole hr
  have hpos := hr.size_pos
  have hsorted : (first.children 0 ++ (second.children 0).map (moveOn d)).Pairwise (· < ·) := by
    refine List.pairwise_append.mpr ⟨first.pairwise_children 0,
      h.embeds.pairwise_map (second.pairwise_children 0), ?_⟩
    intro a ha b hb
    obtain ⟨k, hk, rfl⟩ := List.mem_map.mp hb
    have hlt := lt_of_mem_children ha
    have hkpos := (lt_of_mem_children hk).1
    rw [moveOn_pos d hkpos]
    omega
  refine (whole.pairwise_children 0).eq_of_mem_iff hsorted ?_
  intro j
  rw [List.mem_append, mem_children, mem_children, List.mem_map]
  constructor
  · rintro ⟨hj0, hj, hp⟩
    rcases h.index_cases hr hj with hlt | ⟨hge, hd⟩ | ⟨k, hk, hks, rfl⟩
    · exact .inl ⟨hj0, hlt, h.parent_first hr hlt ▸ hp⟩
    · obtain ⟨t, kind, -, hheader, -, hparent, -⟩ := h.blanks j hge hd
      rw [parent?_eq hj, hparent] at hp
      obtain rfl : t = 0 := Option.some.inj hp
      rw [hr'.contentAt_zero] at hheader
      cases hheader
    · rw [h.parent_second hks] at hp
      obtain ⟨q, hq, heq⟩ := Option.map_eq_some_iff.mp hp
      obtain rfl : q = 0 := h.embeds.mono.injective (heq.trans h.embeds.zero.symm)
      exact .inr ⟨k, mem_children.mpr ⟨hk, hks, hq⟩, rfl⟩
  · rintro (⟨hj0, hj, hp⟩ | ⟨k, hk, rfl⟩)
    · exact ⟨hj0, by omega, (h.parent_first hr hj).trans hp⟩
    · obtain ⟨hk0, hks, hp⟩ := mem_children.mp hk
      refine ⟨by rw [moveOn_pos d hk0]; omega, h.embeds.apply_lt_size hks, ?_⟩
      rw [h.parent_second hks, hp]
      rfl

/-- A filter of the first tree gets blank lines only. -/
theorem bodyOf_first (h : first.Joined second whole d) (hr : second.Rooted) {t : Nat}
    (hz : 0 < t) (ht : t < first.size) :
    ∃ blanks, whole.bodyOf t = first.bodyOf t ++ blanks ∧
      ∀ j ∈ blanks, (whole.nodeAt j).expression = [] := by
  have hle := h.le
  have hsize := h.size_whole hr
  have hpos := hr.size_pos
  obtain ⟨more, hmore⟩ : ∃ more, whole.size = first.size + more :=
    ⟨whole.size - first.size, by omega⟩
  rw [bodyOf, hmore, List.range_add, List.filter_append]
  refine ⟨_, congrArg (· ++ _) (List.filter_congr ?_), ?_⟩
  · intro j hj
    rw [contentAt, h.nodes j (List.mem_range.mp hj), contentAt]
  · intro j hj
    rw [List.mem_filter, List.mem_map, beq_iff_eq] at hj
    obtain ⟨⟨k, hk, rfl⟩, hc⟩ := hj
    have hlt := List.mem_range.mp hk
    rcases h.index_cases hr (by omega : first.size + k < whole.size) with
      hlt | ⟨hge, hd⟩ | ⟨q, -, hq, heq⟩
    · omega
    · obtain ⟨-, -, -, -, hblank, -⟩ := h.blanks _ hge hd
      exact hblank
    · rw [heq, h.embeds.contentAt hq, Content.relabel_eq_body_iff] at hc
      obtain ⟨other, -, hother⟩ := hc
      rw [moveOn] at hother
      split at hother <;> omega

end Joined

end Tree

/-- A filter takes no blank lines at its end. -/
theorem FilterText.ofNodes_append_blank (nodes : List Node) {blanks : List Node}
    (hb : ∀ node ∈ blanks, node.expression = []) : ofNodes (nodes ++ blanks) = ofNodes nodes := by
  have hnone : (blanks.filter fun node => !node.expression.isEmpty) = [] := by
    rw [List.filter_eq_nil_iff]
    intro node hn
    rw [hb node hn]
    decide
  have hbase : base (nodes ++ blanks) = base nodes := by
    rw [base, base, List.filter_append, hnone, List.append_nil]
  rw [ofNodes, ofNodes, hbase, List.map_append, List.reverse_append, List.dropWhile_append_of_pos]
  intro line hline
  obtain ⟨node, hn, rfl⟩ := List.mem_map.mp (List.mem_reverse.mp hline)
  rw [text_ofNode, hb node hn]
  rfl

namespace Nesting

variable {n m w : Nesting} {d : Nat}

/-- A filter of the second tree has the same lines in the whole. -/
theorem bodyOf_second (hm : m.Sound) (hw : w.Sound) (h : n.tree.Joined m.tree w.tree d) {t : Nat}
    (hz : 0 < t) :
    w.tree.bodyOf (moveOn d t) = (m.tree.bodyOf t).map (moveOn d) := by
  have hle := h.le
  refine (w.tree.pairwise_bodyOf _).eq_of_mem_iff
    (h.embeds.pairwise_map (m.tree.pairwise_bodyOf t)) ?_
  intro j
  rw [Tree.mem_bodyOf, List.mem_map]
  constructor
  · rintro ⟨hj, hc⟩
    have hgt := ((hw.contentAt_eq_body_iff hj).mp hc).1
    rw [moveOn_pos d hz] at hgt
    rcases h.index_cases hm.rooted hj with hlt | ⟨-, hd⟩ | ⟨k, hk, hks, rfl⟩
    · omega
    · omega
    · rw [h.embeds.contentAt hks, Content.relabel_eq_body_iff] at hc
      obtain ⟨top, htop, heq⟩ := hc
      have hsame : t = top.toNat := h.embeds.mono.injective (Int.ofNat.inj heq)
      obtain ⟨t', -, rfl, -⟩ := hm.filters k hks top (by rw [Tree.topOf?_eq hks, htop]; rfl)
      rw [Int.toNat_natCast] at hsame
      exact ⟨k, Tree.mem_bodyOf.mpr ⟨hks, hsame ▸ htop⟩, rfl⟩
  · rintro ⟨k, hk, rfl⟩
    obtain ⟨hks, hc⟩ := Tree.mem_bodyOf.mp hk
    refine ⟨h.embeds.apply_lt_size hks, ?_⟩
    rw [h.embeds.contentAt hks, hc]
    rfl

/-- The first tree renders in the whole as it does by itself. -/
theorem mirrors_first (hn : n.Sound ∧ n.Blocks) (hm : m.Sound) (hw : w.Sound ∧ w.Blocks)
    (h : n.tree.Joined m.tree w.tree d) :
    n.tree.Mirrors w.tree id fun i => 0 < i ∧ i < n.tree.size where
  node := by
    rintro i ⟨-, hi⟩
    rw [id, h.nodes i hi]
    exact .refl _
  children := by
    rintro i ⟨hz, hi⟩ hrenders
    rw [id, h.children_first hm.rooted hz hi hrenders, List.map_id]
  closed := by
    rintro i ⟨hz, -⟩ - c hc
    have hlt := Tree.lt_of_mem_children hc
    exact ⟨by omega, hlt.2⟩
  filter := by
    rintro i kind ⟨hz, hi⟩ hk
    have hk' : w.tree.contentAt i = .filter (.header kind) := by
      rw [Tree.contentAt, h.nodes i hi]
      exact hk
    obtain ⟨blanks, hbody, hblank⟩ := h.bodyOf_first hm.rooted hz hi
    have hsame : (n.tree.bodyOf i).map w.tree.nodeAt = (n.tree.bodyOf i).map n.tree.nodeAt :=
      List.map_congr_left fun j hj => h.nodes j (Tree.mem_bodyOf.mp hj).1
    rw [id, hw.2.filterLines_eq hw.1 hk', hn.2.filterLines_eq hn.1 hk, hbody, List.map_append,
      FilterText.ofNodes_append_blank _ (List.forall_mem_map.mpr hblank), hsame]

/-- So does the second. -/
theorem mirrors_second (hm : m.Sound ∧ m.Blocks) (hw : w.Sound ∧ w.Blocks)
    (h : n.tree.Joined m.tree w.tree d) :
    m.tree.Mirrors w.tree (moveOn d) fun i => 0 < i ∧ i < m.tree.size where
  node := by
    rintro i ⟨-, hi⟩
    rw [h.embeds.nodes i hi]
    exact Node.rendersLike_relabel _ _
  children := by
    rintro i ⟨hz, hi⟩ -
    exact h.children_second hm.1.rooted hz hi
  closed := by
    rintro i ⟨hz, -⟩ - c hc
    have hlt := Tree.lt_of_mem_children hc
    exact ⟨by omega, hlt.2⟩
  filter := by
    rintro i kind ⟨hz, hi⟩ hk
    have hk' : w.tree.contentAt (moveOn d i) = .filter (.header kind) := by
      rw [h.embeds.contentAt hi, hk]
      rfl
    have hsame : ((m.tree.bodyOf i).map (moveOn d)).map w.tree.nodeAt =
        ((m.tree.bodyOf i).map m.tree.nodeAt).map (Node.relabel (moveOn d)) := by
      rw [List.map_map, List.map_map]
      exact List.map_congr_left fun j hj => h.embeds.nodes j (Tree.mem_bodyOf.mp hj).1
    rw [hw.2.filterLines_eq hw.1 hk', hm.2.filterLines_eq hm.1 hk, bodyOf_second hm.1 hw.1 h hz,
      hsame, FilterText.ofNodes_map_relabel]

/-- The whole renders as the first tree and then as the second. -/
theorem root_of_joined (hn : n.Sound ∧ n.Blocks) (hm : m.Sound ∧ m.Blocks)
    (hw : w.Sound ∧ w.Blocks) (h : n.tree.Joined m.tree w.tree d) (options : Options) :
    (w.tree.branch 0 Node.root).statements options = (do
      return (← (n.tree.branch 0 Node.root).statements options) ++
        (← (m.tree.branch 0 Node.root).statements options)) ∧
    (w.tree.branch 0 Node.root).reach =
      max (n.tree.branch 0 Node.root).reach (m.tree.branch 0 Node.root).reach := by
  obtain ⟨hfirst, hfirst'⟩ := (mirrors_first hn hm.1 hw h).branches_eq options
    fun c (hc : c ∈ n.tree.children 0) => Tree.lt_of_mem_children hc
  obtain ⟨hsecond, hsecond'⟩ := (mirrors_second hm hw h).branches_eq options
    fun c (hc : c ∈ m.tree.children 0) => Tree.lt_of_mem_children hc
  rw [List.map_id] at hfirst hfirst'
  have hroot : Node.root.content = .root := rfl
  rw [Tree.branch_eq w.tree, Tree.branch_eq n.tree, Tree.branch_eq m.tree,
    h.children_zero hm.1.rooted hn.1.rooted, List.map_append]
  constructor
  · simp only [Branch.statements, hroot, Branch.statementsOfAll_append]
    rw [hfirst, hsecond]
  · simp only [Branch.reach, hroot, Branch.reachOfAll_append]
    rw [hfirst', hsecond', Nat.add_max_add_right]

/-- The root is sent to the root. -/
theorem Sound.embeds_start (hs : n.Sound) : start.tree.Embeds (moveOn n.last) n.tree where
  mono := strictMono_moveOn _
  zero := rfl
  size := by
    intro k
    have hpos := hs.rooted.size_pos
    have hone : start.tree.size = 1 := rfl
    rw [moveOn_pos _ (by omega), hone, last]
    omega
  nodes := by
    intro i hi
    have hone : start.tree.size = 1 := rfl
    obtain rfl : i = 0 := by omega
    exact hs.rooted.nodeAt_zero

/-- A line at the margin closes all open parents. -/
theorem parents_moveTo_zero (n : Nesting) : (n.moveTo 0).parents = [] := by
  rw [moveTo, levelAt_zero, List.take_zero, Nat.zero_sub, List.replicate_zero, List.append_nil]

/-- A run that starts after another goes on as it would from the root. An indented line cannot be
the first. -/
theorem exists_inStep (hs : n.Sound) {v : Nat} (hv : n.unit = 0 ∨ v = 0 ∨ n.unit = v)
    {line : LogicalLine} (hne : line.expression ≠ []) (hm : start.step line = .ok m) :
    ∃ w, n.step line = .ok w ∧ InStep (moveOn n.last) v m w := by
  obtain ⟨hf, rfl⟩ := step_cases_line hne hm
  have hwidth : line.indent = 0 := by
    have hunit := (sound_start.moveTo hf).fresh rfl
    by_contra hw
    exact absurd hunit (start.unitAt_pos (Nat.pos_of_ne_zero hw)).ne'
  have hfault : n.fault? line.indent = none := by
    rw [fault?_eq_none_iff, hwidth, levelAt_zero]
    exact ⟨Nat.zero_mod _, nofun, nofun⟩
  have hparents : (n.moveTo line.indent).parents =
      (start.moveTo line.indent).parents.map (moveOn n.last) := by
    rw [hwidth, parents_moveTo_zero, parents_moveTo_zero, List.map_nil]
  have hembeds : (start.moveTo line.indent).tree.Embeds (moveOn n.last)
      (n.moveTo line.indent).tree := hs.embeds_start
  refine ⟨(n.moveTo line.indent).add ((n.moveTo line.indent).lineNode line), ?_, ?_⟩
  · rw [step, if_neg hne, hfault]
  · rw [lineNode_of_embeds (sound_start.moveTo hf) hembeds hparents]
    refine ⟨hembeds.add _, ?_, hparents, .inl ?_, ?_⟩
    · rw [last_add, last_add, hembeds.apply_size]
    · rw [hwidth]
      rfl
    · rw [add, moveTo, hwidth, unitAt_zero]
      exact hv

/-- Lines that are accepted by themselves are accepted after lines with the same unit. -/
theorem exists_run_append {first second : List LogicalLine} (hfirst : run first = .ok n)
    (hsecond : run second = .ok m)
    (hunit : LogicalLine.unitOf first = 0 ∨ LogicalLine.unitOf second = 0 ∨
      LogicalLine.unitOf first = LogicalLine.unitOf second) :
    ∃ w d, run (first ++ second) = .ok w ∧ n.tree.Joined m.tree w.tree d := by
  obtain ⟨hs, hreads⟩ := reads_run hfirst
  rw [← hreads.unit] at hunit
  obtain ⟨blanks, rest, rfl, hblank, hrest⟩ := LogicalLine.exists_blanks second
  obtain ⟨padded, hpad, hsound, hpadded⟩ := exists_foldlM_blank hs hblank
  obtain ⟨fresh, hfresh, hm⟩ := exists_run_of_append hsecond
  obtain rfl : start = fresh := Except.ok.inj ((foldlM_blank_start hblank).symm.trans hfresh)
  have hrun : run (first ++ blanks) = .ok padded := by
    rw [run_append, hfirst]
    exact hpad
  have hlast : padded.last + 1 = padded.tree.size := by
    have hpos := hsound.rooted.size_pos
    rw [last]
    omega
  have hle := hpadded.size_le
  have hjoined : ∀ w, rest.foldlM Nesting.step padded = .ok w →
      m.tree.Embeds (moveOn padded.last) w.tree →
      run (first ++ (blanks ++ rest)) = .ok w ∧ n.tree.Joined m.tree w.tree padded.last := by
    intro w hw hembeds
    obtain ⟨-, hkeep⟩ := foldlM_frame hw
    refine ⟨?_, by omega, ?_, ?_, hembeds⟩
    · rw [← List.append_assoc, run_append, hrun]
      exact hw
    · intro i hi
      rw [hkeep i (by omega), hpadded.nodes i hi]
    · intro i hi hid
      rw [hkeep i (by omega)]
      exact hpadded.blanks i hi (by omega)
  cases rest with
  | nil =>
    obtain rfl : start = m := Except.ok.inj hm
    exact ⟨padded, padded.last, hjoined padded rfl hsound.embeds_start⟩
  | cons line rest =>
    obtain ⟨mid, hstep, hmore⟩ := exists_foldlM_cons hm
    have hmid : run (blanks ++ [line]) = .ok mid := by
      rw [run_concat, hfresh]
      exact hstep
    rw [← hpadded.unit] at hunit
    obtain ⟨next, hnext, hinstep⟩ := exists_inStep hsound hunit (hrest line rfl) hstep
    rw [List.append_cons] at hinstep
    obtain ⟨w, hw, hfinal⟩ := hinstep.foldlM hmid hmore
    refine ⟨w, padded.last, hjoined w ?_ hfinal.tree⟩
    rw [List.foldlM_cons, hnext]
    exact hw

end Nesting

namespace Template

open LogicalLine (unitOf ofLines continues)

/-- Compilation goes line by line. When two lists of lines are accepted, one of them has no indented
line or both have the same unit, and the second does not continue the last line of the first, then
the first followed by the second is accepted. Its statements are those of the first and then those
of the second, and its code is the code of the first followed by the code of the second. -/
theorem parseLines_append {lines more : List Text} {first second : Tree}
    (hfirst : parseLines lines = .ok first) (hsecond : parseLines more = .ok second)
    (hunit : unitOf (ofLines 0 lines) = 0 ∨ unitOf (ofLines 0 more) = 0 ∨
      unitOf (ofLines 0 lines) = unitOf (ofLines 0 more))
    (hapart : ∀ line ∈ (ofLines 0 lines).getLast?, ∀ next ∈ more.head?,
      continues line.expression next = false) :
    ∃ whole, parseLines (lines ++ more) = .ok whole ∧
      ∃ firstRoot secondRoot root, first.branch? 0 = some firstRoot ∧
        second.branch? 0 = some secondRoot ∧ whole.branch? 0 = some root ∧
        ∀ options,
          root.statements options = (do
            return (← firstRoot.statements options) ++ (← secondRoot.statements options)) ∧
          ∀ code, whole.code options 0 = .ok code ↔
            ∃ before after, first.code options 0 = .ok before ∧
              second.code options 0 = .ok after ∧ code = before ++ after := by
  obtain ⟨n, hn, rfl⟩ := Nesting.build_eq_ok_iff.mp hfirst
  obtain ⟨m, hm, rfl⟩ := Nesting.build_eq_ok_iff.mp hsecond
  obtain ⟨w, d, hrun, hjoined⟩ := Nesting.exists_run_append hn hm hunit
  have hlines : parseLines (lines ++ more) = .ok w.tree := by
    rw [parseLines, LogicalLine.ofLines_append_of_apart hapart]
    exact Nesting.build_eq_ok_iff.mpr ⟨w, Nesting.run_append_later _ hrun, rfl⟩
  have hw := Nesting.blocks_run hrun
  obtain ⟨hn, hm⟩ := And.intro (Nesting.blocks_run hn) (Nesting.blocks_run hm)
  refine ⟨w.tree, hlines, _, _, _, hn.1.rooted.branch?_zero, hm.1.rooted.branch?_zero,
    hw.1.rooted.branch?_zero, ?_⟩
  intro options
  obtain ⟨hstatements, hreach⟩ := Nesting.root_of_joined hn hm hw hjoined options
  refine ⟨hstatements, ?_⟩
  intro code
  simp only [hn.1.rooted.code_eq_ok_iff, hm.1.rooted.code_eq_ok_iff, hw.1.rooted.code_eq_ok_iff,
    hreach, hstatements, Nat.max_le, bind_eq_ok_iff]
  constructor
  · rintro ⟨⟨hreachFirst, hreachSecond⟩, all, ⟨front, hfront, back, hback, heq⟩, rfl⟩
    obtain rfl := Except.ok.inj heq
    exact ⟨_, _, ⟨hreachFirst, front, hfront, rfl⟩, ⟨hreachSecond, back, hback, rfl⟩,
      List.flatMap_append⟩
  · rintro ⟨_, _, ⟨hreachFirst, front, hfront, rfl⟩, ⟨hreachSecond, back, hback, rfl⟩, rfl⟩
    exact ⟨⟨hreachFirst, hreachSecond⟩, front ++ back, ⟨front, hfront, back, hback, rfl⟩,
      List.flatMap_append.symm⟩

/-- A filter below code, with a blank line at its end. -/
def filterEnd : List Text := ["- if x".toList, "  :plain".toList, "    a".toList, []]

/-- A template that starts with a blank line. -/
def blankStart : List Text := [[], "%p".toList, "  = y".toList]

/-- The tree of some lines; without nodes if they are not accepted. -/
def treeOf (lines : List Text) : Tree := (parseLines lines).toOption.getD Tree.empty

/-- The blank lines in the middle both go to the filter, and show nowhere. -/
theorem parseLines_append_blankStart :
    parseLines filterEnd = .ok (treeOf filterEnd) ∧
    parseLines blankStart = .ok (treeOf blankStart) ∧
    unitOf (ofLines 0 filterEnd) = unitOf (ofLines 0 blankStart) ∧
    ∃ whole before, parseLines (filterEnd ++ blankStart) = .ok whole ∧
      (treeOf filterEnd).code {} 0 = .ok before ∧
      whole.code {} 0 = .ok (before ++
        "    o.append('<p>')\n    o.append('  ' + e(y))\n    o.append('</p>')\n".toList) := by
  have hfirst : parseLines filterEnd = .ok (treeOf filterEnd) := by decide +kernel
  have hsecond : parseLines blankStart = .ok (treeOf blankStart) := by decide +kernel
  have hunit : unitOf (ofLines 0 filterEnd) = unitOf (ofLines 0 blankStart) := by decide +kernel
  have hapart : ∀ line ∈ (ofLines 0 filterEnd).getLast?, ∀ next ∈ blankStart.head?,
      continues line.expression next = false := by decide +kernel
  obtain ⟨whole, hwhole, _, _, _, -, -, -, hoptions⟩ :=
    parseLines_append hfirst hsecond (.inr (.inr hunit)) hapart
  have hisOk : ((treeOf filterEnd).code {} 0).isOk = true := by decide +kernel
  obtain ⟨before, hbefore⟩ : ∃ before, (treeOf filterEnd).code {} 0 = .ok before := by
    cases hcode : (treeOf filterEnd).code {} 0 with
    | ok before => exact ⟨before, rfl⟩
    | error failure =>
      rw [hcode] at hisOk
      cases hisOk
  refine ⟨hfirst, hsecond, hunit, whole, before, hwhole, hbefore,
    ((hoptions {}).2 _).mpr ⟨before, _, hbefore, ?_, rfl⟩⟩
  decide +kernel

end Template

end Haml
