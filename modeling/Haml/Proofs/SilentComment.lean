import Haml.Proofs.HiddenNodes
import Haml.Proofs.ParentAt
import Haml.Proofs.PrefixStability

/-!
# What is below a silent comment

The lines below a silent comment are read like any others. They can fix the unit, open filters, skip
levels and leave blank lines, and the nodes after them have other indices for it. None of this is
seen in the code: two sources that differ only in the body of one silent comment compile alike.

The two runs are the same up to the comment. In the body each run only adds nodes below the comment
and keeps the parents for the widths up to that of the comment (`Beneath`). From the line after the
body on, the runs are compared outside of the bodies (`Abreast`). They may measure with different
units, so their levels are not compared, but their parents for each width that fits both are.
-/

namespace Haml

namespace Nesting

open Haml.Tree (Outside across)

variable {k e e' v : Nat} {base m n m' n' : Nesting} {line : LogicalLine}

/-- The run has come from `base` through lines below its last node. -/
structure Beneath (base n : Nesting) : Prop where
  /-- Nodes are only added. -/
  size_le : base.tree.size ≤ n.tree.size
  /-- The nodes stay. -/
  nodes : ∀ i < base.tree.size, n.tree.nodeAt i = base.tree.nodeAt i
  /-- The new nodes are below the last node. -/
  hides : n.tree.Hides base.last n.tree.size
  /-- The last line is not less wide. -/
  width_le : base.width ≤ n.width
  /-- The parents for the widths up to the one at the start stay. -/
  outer : ∀ w ≤ base.width, n.Fits w → n.parentAt w = base.parentAt w
  /-- Greater widths lead below the last node. -/
  inner : ∀ w, base.width < w → n.Fits w → base.last ≤ n.parentAt w

namespace Beneath

/-- A run has come from itself through no lines at all. -/
theorem refl (hs : base.Sound) : base.Beneath base where
  size_le := le_rfl
  nodes _ _ := rfl
  hides := by
    intro i hk hi
    rw [last] at hk
    omega
  width_le := le_rfl
  outer _ _ _ := rfl
  inner w hw hf := (parentAt_of_width_lt hs hf hw).ge

/-- The last node of a run beneath another is that of the other or comes after it. -/
theorem last_le (h : base.Beneath n) : base.last ≤ n.last := Nat.sub_le_sub_right h.size_le 1

/-- The filter of a line below the last node is below it too, if that node is in no filter. -/
theorem lt_top (hb : base.Sound) (h : base.Beneath n) (hc : base.tree.topOf? base.last = none)
    {i : Nat} {top : Int} (hk : base.last ≤ i) (hi : i < n.tree.size)
    (ht : n.tree.topOf? i = some top) : (base.last : Int) < top := by
  rcases Nat.lt_or_eq_of_le hk with hlt | rfl
  · have hbody := (h.hides i hlt hi).2
    rw [Tree.topOf?_eq hi] at ht
    cases hcontent : n.tree.contentAt i with
    | filter line =>
      rw [hcontent] at ht hbody
      cases line with
      | header kind =>
        rw [← Option.some.inj ht]
        exact Int.ofNat_lt.mpr hlt
      | body other =>
        obtain rfl : other = top := Option.some.inj ht
        exact hbody other rfl
    | _ =>
      rw [hcontent] at ht
      cases ht
  · rw [Tree.topOf?_eq hb.last_lt] at hc
    rw [Tree.topOf?_eq hi, Tree.contentAt, h.nodes _ hb.last_lt, ← Tree.contentAt, hc] at ht
    cases ht

/-- A blank line of a filter below the comment. -/
theorem add_blank (hb : base.Sound) (hs : n.Sound) (h : base.Beneath n)
    (hc : base.tree.topOf? base.last = none) {top : Int} (ht : n.tree.topOf? n.last = some top) :
    base.Beneath (n.add (n.blankNode top.toNat)) := by
  have hsize := h.size_le
  have hbound := hb.last_lt
  have hlt := h.lt_top hb hc h.last_le hs.last_lt ht
  refine ⟨?_, ?_, ?_, h.width_le, ?_, ?_⟩
  · rw [tree_add, Tree.size_add]
    omega
  · intro i hi
    rw [tree_add, Tree.nodeAt_add_lt (by omega), h.nodes i hi]
  · rw [tree_add, Tree.size_add]
    refine h.hides.add rfl (by omega) ?_
    intro other ho
    obtain rfl : (top.toNat : Int) = other := by cases ho; rfl
    omega
  · intro w hle hfit
    have hwidth := h.width_le
    rw [parentAt_add hs hfit (by omega)]
    exact h.outer w hle hfit
  · intro w hlt hfit
    rcases Nat.lt_or_ge n.width w with hgt | hle
    · rw [parentAt_of_width_lt (hs.add_blank ht) hfit hgt, last_add]
      omega
    · rw [parentAt_add hs hfit hle]
      exact h.inner w hlt hfit

/-- A line that is wider than the comment. -/
theorem add_line (hb : base.Sound) (hs : n.Sound) (h : base.Beneath n)
    (hc : base.tree.topOf? base.last = none) (hwider : base.width < line.indent)
    (hf : n.fault? line.indent = none) :
    base.Beneath ((n.moveTo line.indent).add ((n.moveTo line.indent).lineNode line)) := by
  have hsize := h.size_le
  have hbound := hb.last_lt
  have hparent := h.inner _ hwider (fits_of_fault? hf)
  refine ⟨?_, ?_, ?_, ?_, ?_, ?_⟩
  · rw [tree_add, tree_moveTo, Tree.size_add]
    omega
  · intro i hi
    rw [tree_add, tree_moveTo, Tree.nodeAt_add_lt (by omega), h.nodes i hi]
  · rw [tree_add, tree_moveTo, Tree.size_add]
    refine Tree.Hides.add h.hides rfl hparent ?_
    intro top htop
    have hline : Tree.topOfContent n.tree.size ((n.moveTo line.indent).lineNode line).content =
        some top := by
      rw [htop]
      rfl
    rcases topOfContent_lineNode hline with rfl | hp
    · omega
    · exact h.lt_top hb hc hparent (parentAt_lt hs _) hp
  · rw [width_add, width_of_fault? hf]
    omega
  · intro w hle hfit
    rw [parentAt_add_moveTo hs hf hfit (by omega)]
    exact h.outer w hle hfit.of_moveTo
  · intro w hlt hfit
    rcases Nat.lt_or_ge line.indent w with hgt | hle
    · have hbeyond : ((n.moveTo line.indent).add
          ((n.moveTo line.indent).lineNode line)).width < w := by
        rwa [width_add, width_of_fault? hf]
      rw [parentAt_of_width_lt ((hs.moveTo hf).add_line line) hfit hbeyond, last_add, tree_moveTo]
      omega
    · rw [parentAt_add_moveTo hs hf hfit hle]
      exact h.inner w hlt hfit.of_moveTo

/-- One line of the body. -/
theorem step (hb : base.Sound) (hs : n.Sound) (h : base.Beneath n)
    (hc : base.tree.topOf? base.last = none) (hw : line.isWithin base.width = true)
    (hm : n.step line = .ok m) : base.Beneath m := by
  obtain ⟨-, -, rfl⟩ | ⟨-, top, ht, rfl⟩ | ⟨hne, hf, rfl⟩ := step_cases hm
  · exact h
  · exact h.add_blank hb hs hc ht
  · have hwider : base.width < line.indent := by
      simpa [LogicalLine.isWithin, hne] using hw
    exact h.add_line hb hs hc hwider hf

/-- All lines of the body. -/
theorem foldlM (hb : base.Sound) (hs : n.Sound) (h : base.Beneath n)
    (hc : base.tree.topOf? base.last = none) {body : List LogicalLine}
    (hw : ∀ line ∈ body, line.isWithin base.width = true)
    (hm : body.foldlM Nesting.step n = .ok m) : m.Sound ∧ base.Beneath m := by
  induction body generalizing n with
  | nil =>
    obtain rfl : n = m := Except.ok.inj hm
    exact ⟨hs, h⟩
  | cons line body ih =>
    obtain ⟨mid, hstep, hrest⟩ := exists_foldlM_cons hm
    exact ih (hs.step hstep) (h.step hb hs hc (hw line List.mem_cons_self) hstep)
      (fun other ho => hw other (List.mem_cons_of_mem _ ho)) hrest

end Beneath

/-- A node whose references are kept is the same. -/
theorem Sound.sent_self (hs : n.Sound) {f : Nat → Nat} {i : Nat} (hi : i < n.tree.size)
    (hf : ∀ j ≤ i, f j = j) : (n.tree.nodeAt i).Sent f (n.tree.nodeAt i) where
  expression := rfl
  indent := rfl
  codeLevel := rfl
  outputLevel := rfl
  parent := by
    cases hp : (n.tree.nodeAt i).parent with
    | none => rfl
    | some p => rw [Option.map_some, hf p (hs.rooted.parent_lt hi hp).le]
  content := by
    cases hc : (n.tree.nodeAt i).content with
    | filter line =>
      cases line with
      | header kind => rfl
      | body top =>
        have htop : n.tree.topOf? i = some top := by
          rw [Tree.topOf?_eq hi, Tree.contentAt, hc]
          rfl
        obtain ⟨t, hle, rfl, -⟩ := hs.filters i hi top htop
        rw [Content.relabel, Int.toNat_natCast, hf t hle]
    | _ => rfl

/-- Two runs through different bodies have the same tree outside of them. -/
theorem Beneath.sameOutside (hb : base.Sound) (hm : base.Beneath m) (hn : base.Beneath n) :
    m.tree.SameOutside base.last m.tree.size n.tree.size n.tree := by
  have hlast := hb.last_lt
  have hsize : base.last + 1 = base.tree.size := by
    rw [last] at hlast ⊢
    omega
  have hle := hm.size_le
  have hle' := hn.size_le
  have hbefore : ∀ {i}, i < m.tree.size → Outside base.last m.tree.size i → i ≤ base.last :=
    fun hi ho => ho.resolve_right (Nat.not_le.mpr hi)
  refine ⟨by omega, by omega, le_rfl, by omega, ?_, ?_, ?_, hm.hides, hn.hides⟩
  · intro i hi ho
    have hik := hbefore hi ho
    rw [Tree.across_of_le hik, hm.nodes i (by omega), hn.nodes i (by omega)]
    exact hb.sent_self (by omega) fun j hj => Tree.across_of_le (hj.trans hik)
  · intro i hi ho p hp
    have hik := hbefore hi ho
    rw [hm.nodes i (by omega)] at hp
    exact .inl ((hb.rooted.parent_lt (by omega) hp).le.trans hik)
  · intro i hi ho top htop
    have hik := hbefore hi ho
    rw [Tree.topOf?_eq hi, Tree.contentAt, hm.nodes i (by omega), ← Tree.contentAt,
      ← Tree.topOf?_eq (by omega)] at htop
    obtain ⟨t, hti, rfl, -⟩ := hb.filters i (by omega) top htop
    exact .inl (by rw [Int.toNat_natCast]; omega)

/-- Two runs that have come to the same line after different bodies. -/
structure Abreast (k e e' : Nat) (m n : Nesting) : Prop where
  /-- The trees are the same outside of the bodies. -/
  tree : m.tree.SameOutside k e e' n.tree
  /-- There is a node after the body. -/
  beyond : e < m.tree.size
  /-- The last line is of the same width. -/
  width : n.width = m.width
  /-- A width that fits both runs leads to the same parent. -/
  parents : ∀ w, m.Fits w → n.Fits w →
    Outside k e (m.parentAt w) ∧ n.parentAt w = across k e e' (m.parentAt w)

/-- A line becomes the same node. -/
theorem sameOutside_add_line (hm : m.Sound) (h : m.tree.SameOutside k e e' n.tree)
    (ho : Outside k e m.parent) (hp : n.parent = across k e e' m.parent) (line : LogicalLine) :
    (m.tree.add (m.lineNode line)).SameOutside k e e' (n.tree.add (n.lineNode line)) := by
  have hsent := h.nodes m.parent hm.parent_lt ho
  refine h.add ⟨rfl, rfl, ?_, ?_, ?_, ?_⟩ ?_ ?_
  · rw [lineNode, hp]
    exact hsent.childCodeLevel
  · rw [lineNode, hp]
    exact hsent.childOutputLevel
  · rw [lineNode, hp]
    rfl
  · simp only [lineNode]
    rw [hp, h.topOf? hm.parent_lt ho]
    cases m.tree.topOf? m.parent with
    | some top => rfl
    | none => exact (Content.relabel_ofLine _ _ _).symm
  · intro p hpar
    obtain rfl : m.parent = p := Option.some.inj hpar
    exact ho
  · intro top htop
    rcases topOfContent_lineNode htop with rfl | hpt
    · exact h.outside_size
    · exact h.top m.parent hm.parent_lt ho top hpt

/-- The runs are abreast after a line that both accept, if they agree on the parents for all widths
up to its own. -/
theorem abreast_of_line (hm : m.Sound) (hn : n.Sound) (h : m.tree.SameOutside k e e' n.tree)
    (hfm : m.fault? v = none) (hfn : n.fault? v = none)
    (hparents : ∀ w ≤ v, m.Fits w → n.Fits w →
      Outside k e (m.parentAt w) ∧ n.parentAt w = across k e e' (m.parentAt w))
    (line : LogicalLine) :
    Abreast k e e' ((m.moveTo v).add ((m.moveTo v).lineNode line))
      ((n.moveTo v).add ((n.moveTo v).lineNode line)) := by
  obtain ⟨ho, hp⟩ := hparents v le_rfl (fits_of_fault? hfm) (fits_of_fault? hfn)
  refine ⟨sameOutside_add_line (n := n.moveTo v) (hm.moveTo hfm) h ho hp line, ?_, ?_, ?_⟩
  · rw [tree_add, tree_moveTo, Tree.size_add]
    exact Nat.lt_succ_of_le h.le
  · rw [width_add, width_add, width_of_fault? hfm, width_of_fault? hfn]
  · intro w hwm hwn
    rcases Nat.lt_or_ge v w with hgt | hle
    · have hbeyond : ((m.moveTo v).add ((m.moveTo v).lineNode line)).width < w := by
        rwa [width_add, width_of_fault? hfm]
      have hbeyond' : ((n.moveTo v).add ((n.moveTo v).lineNode line)).width < w := by
        rwa [width_add, width_of_fault? hfn]
      rw [parentAt_of_width_lt ((hm.moveTo hfm).add_line line) hwm hbeyond,
        parentAt_of_width_lt ((hn.moveTo hfn).add_line line) hwn hbeyond', last_add, last_add,
        tree_moveTo, tree_moveTo, h.apply_size]
      exact ⟨h.outside_size, rfl⟩
    · rw [parentAt_add_moveTo hm hfm hwm hle, parentAt_add_moveTo hn hfn hwn hle]
      exact hparents w hle hwm.of_moveTo hwn.of_moveTo

namespace Abreast

/-- The last node of two runs abreast is outside of the bodies. -/
theorem outside_last (h : Abreast k e e' m n) : Outside k e m.last := by
  have hbeyond := h.beyond
  refine .inr ?_
  rw [last]
  omega

/-- Two runs abreast have the same last node. -/
theorem last_eq (h : Abreast k e e' m n) : n.last = across k e e' m.last := by
  have hbeyond := h.beyond
  have hlt := h.tree.lt
  have hsize := h.tree.size
  rw [last, last, Tree.across_of_ge hlt (by omega)]
  omega

/-- Two runs abreast have the same innermost parent, which is outside of the bodies. -/
theorem parent_eq (hm : m.Sound) (hn : n.Sound) (h : Abreast k e e' m n) :
    Outside k e m.parent ∧ n.parent = across k e e' m.parent := by
  have hfits : n.Fits m.width := h.width ▸ fits_width hn
  have hparent := h.parents m.width (fits_width hm) hfits
  rwa [parentAt_width hm, ← h.width, parentAt_width hn] at hparent

/-- A blank line of a filter becomes the same node. -/
theorem add_blank (hm : m.Sound) (hn : n.Sound) (h : Abreast k e e' m n) {top : Int}
    (ht : m.tree.topOf? m.last = some top) :
    Abreast k e e' (m.add (m.blankNode top.toNat))
      (n.add (n.blankNode (across k e e' top.toNat))) := by
  have htop := h.tree.top m.last hm.last_lt h.outside_last top ht
  have htn : n.tree.topOf? n.last = some ((across k e e' top.toNat : Nat) : Int) := by
    rw [h.last_eq, h.tree.topOf? hm.last_lt h.outside_last, ht]
    rfl
  obtain ⟨hlt, -⟩ := hm.header_of_last ht
  obtain ⟨ho, hp⟩ := h.parent_eq hm hn
  refine ⟨h.tree.add ⟨rfl, rfl, ?_, ?_, rfl, rfl⟩ ?_ ?_, ?_, h.width, ?_⟩
  · rw [blankNode, hp]
    exact (h.tree.nodes _ hm.parent_lt ho).childCodeLevel
  · exact (h.tree.nodes _ hlt htop).childOutputLevel
  · intro p hpar
    obtain rfl : top.toNat = p := Option.some.inj hpar
    exact htop
  · intro other hother
    obtain rfl : (top.toNat : Int) = other := Option.some.inj hother
    rwa [Int.toNat_natCast]
  · rw [tree_add, Tree.size_add]
    exact Nat.lt_succ_of_lt h.beyond
  · intro w hwm hwn
    have hwn' : n.Fits w := hwn
    have hwidth := h.width
    rcases Nat.lt_or_ge m.width w with hgt | hle
    · rw [parentAt_of_width_lt (hm.add_blank ht) hwm hgt, last_add, h.tree.apply_size]
      have hnew := parentAt_of_width_lt (hn.add_blank htn) hwn (by rw [width_add]; omega)
      rw [last_add, Int.toNat_natCast] at hnew
      exact ⟨h.tree.outside_size, hnew⟩
    · rw [parentAt_add hm hwm hle, parentAt_add hn hwn' (by omega)]
      exact h.parents w hwm hwn'

/-- One line. -/
theorem step (hm : m.Sound) (hn : n.Sound) (h : Abreast k e e' m n) (hstep : m.step line = .ok m')
    (hstep' : n.step line = .ok n') : Abreast k e e' m' n' := by
  have htop := h.tree.topOf? hm.last_lt h.outside_last
  rw [← h.last_eq] at htop
  obtain ⟨he, ht, rfl⟩ | ⟨he, top, ht, rfl⟩ | ⟨hne, hf, rfl⟩ := step_cases hstep
  · rw [ht] at htop
    rw [Nesting.step, if_pos he, htop] at hstep'
    obtain rfl : n = n' := Except.ok.inj hstep'
    exact h
  · rw [ht] at htop
    rw [Nesting.step, if_pos he, htop] at hstep'
    obtain rfl := Except.ok.inj hstep'
    exact h.add_blank hm hn ht
  · obtain ⟨hf', rfl⟩ := step_cases_line hne hstep'
    exact abreast_of_line hm hn h.tree hf hf' (fun w _ => h.parents w) line

/-- All further lines. -/
theorem foldlM (hm : m.Sound) (hn : n.Sound) (h : Abreast k e e' m n) {lines : List LogicalLine}
    (hfold : lines.foldlM Nesting.step m = .ok m') (hfold' : lines.foldlM Nesting.step n = .ok n') :
    Abreast k e e' m' n' := by
  induction lines generalizing m n with
  | nil =>
    obtain rfl : m = m' := Except.ok.inj hfold
    obtain rfl : n = n' := Except.ok.inj hfold'
    exact h
  | cons line lines ih =>
    obtain ⟨mid, hstep, hrest⟩ := exists_foldlM_cons hfold
    obtain ⟨mid', hstep', hrest'⟩ := exists_foldlM_cons hfold'
    exact ih (hm.step hstep) (hn.step hstep') (h.step hm hn hstep hstep') hrest hrest'

end Abreast

/-- Two runs through different bodies have the same tree outside of the bodies at the end too. Up to
the width of the comment both runs have the parents that it left. -/
theorem Beneath.sameOutside_foldlM (hb : base.Sound) (hm : m.Sound ∧ base.Beneath m)
    (hn : n.Sound ∧ base.Beneath n) {below : List LogicalLine}
    (hbelow : ∀ line ∈ below.head?, line.isWithin base.width = false)
    (hfold : below.foldlM Nesting.step m = .ok m') (hfold' : below.foldlM Nesting.step n = .ok n') :
    m'.tree.SameOutside base.last m.tree.size n.tree.size n'.tree := by
  have hsame := hm.2.sameOutside hb hn.2
  cases below with
  | nil =>
    obtain rfl : m = m' := Except.ok.inj hfold
    obtain rfl : n = n' := Except.ok.inj hfold'
    exact hsame
  | cons line below =>
    have hout := hbelow line rfl
    rw [LogicalLine.isWithin, Bool.or_eq_false_iff, List.isEmpty_eq_false_iff,
      decide_eq_false_iff_not, Nat.not_lt] at hout
    obtain ⟨hne, hle⟩ := hout
    obtain ⟨mid, hstep, hrest⟩ := exists_foldlM_cons hfold
    obtain ⟨mid', hstep', hrest'⟩ := exists_foldlM_cons hfold'
    obtain ⟨hf, rfl⟩ := step_cases_line hne hstep
    obtain ⟨hf', rfl⟩ := step_cases_line hne hstep'
    have hparents : ∀ w ≤ line.indent, m.Fits w → n.Fits w →
        Outside base.last m.tree.size (m.parentAt w) ∧
          n.parentAt w = across base.last m.tree.size n.tree.size (m.parentAt w) := by
      intro w hw hfit hfit'
      have hbefore : base.parentAt w ≤ base.last := by
        have hlt := parentAt_lt hb w
        rw [last]
        omega
      rw [hm.2.outer w (hw.trans hle) hfit, hn.2.outer w (hw.trans hle) hfit',
        Tree.across_of_le hbefore]
      exact ⟨.inl hbefore, rfl⟩
    have habreast := abreast_of_line hm.1 hn.1 hsame hf hf' hparents line
    exact (habreast.foldlM (hm.1.step hstep) (hn.1.step hstep') hrest hrest').tree

end Nesting

namespace LogicalLine

/-- A line that starts with a marker continues no line. -/
theorem not_continues_of_marker {line : Text} {c : Char} {rest : Text}
    (h : Text.trim line = c :: rest) (hc : isMarker c = true) (expression : Text) :
    continues expression line = false := by
  obtain ⟨more, hmore⟩ : ∃ more, Text.trimLeft line = c :: more := by
    rw [Text.trim, Text.trimRight] at h
    have hstart : (Text.trimLeft line).reverse.dropWhile Text.isBlank <:+ _ :=
      List.dropWhile_suffix _
    rw [← List.reverse_prefix, List.reverse_reverse, h] at hstart
    obtain ⟨after, hafter⟩ := hstart
    exact ⟨rest ++ after, hafter.symm⟩
  have hmarker : isMarkerLine line = true := by rw [isMarkerLine, hmore, List.head?_cons]; exact hc
  rw [continues, hmarker, Bool.not_true, Bool.and_false, Bool.false_and]

/-- A silent comment opens no attribute list. -/
theorem not_continues_comment (rest next : Text) : continues ('-' :: '#' :: rest) next = false := by
  simp [continues, Element.opensAttributeList, Element.hasHead, Element.tag?, Element.shorthands,
    Element.isShorthandMark]

/-- The logical lines of a body are blank or wider if its physical lines are. -/
theorem isWithin_of_mem_ofLines {width number : Nat} {body : List Text}
    (h : ∀ line ∈ body, Text.trim line = [] ∨ width < (indentation line).length)
    {line : LogicalLine} (hline : line ∈ ofLines number body) : line.isWithin width = true := by
  obtain ⟨before, after, hsplit⟩ := List.append_of_mem hline
  obtain ⟨above, first, below, rfl, -, hindent, hcons, -⟩ := ofLines_split hsplit
  rw [ofLines_cons] at hcons
  have hexpression := congrArg LogicalLine.expression (List.cons.inj hcons).1
  rw [isWithin, hindent, Bool.or_eq_true, List.isEmpty_iff, decide_eq_true_eq, hexpression,
    joinLines_eq_nil_iff]
  exact h first (List.mem_append_right _ List.mem_cons_self)

end LogicalLine

namespace Nesting

variable {n m : Nesting} {line : LogicalLine}

/-- What a line becomes does not depend on its number. -/
theorem step_of_later {k : Nat} (h : n.step (line.later k) = .ok m) : n.step line = .ok m := by
  cases hstep : n.step line with
  | ok other => rw [← h, step_later k hstep]
  | error error =>
    obtain ⟨hne, hfault, -⟩ := step_eq_error_iff.mp hstep
    have hlater : n.step (line.later k) = .error ⟨error.fault, (line.later k).number⟩ :=
      step_eq_error_iff.mpr ⟨hne, hfault, rfl⟩
    rw [hlater] at h
    cases h

/-- Lines with later numbers are nested as the lines are. -/
theorem foldlM_of_later {k : Nat} {lines : List LogicalLine}
    (h : (lines.map (LogicalLine.later k)).foldlM Nesting.step n = .ok m) :
    lines.foldlM Nesting.step n = .ok m := by
  induction lines generalizing n with
  | nil => exact h
  | cons line lines ih =>
    obtain ⟨mid, hstep, hrest⟩ := exists_foldlM_cons h
    rw [List.foldlM_cons, step_of_later hstep]
    exact ih hrest

end Nesting

namespace Template

open LogicalLine (ofLines continues indentation later)

/-- Lines with a silent comment: those above it, its own, those in its body and those below. -/
structure SilentBlock (lines above : List Text) (line : Text) (body below : List Text) : Prop where
  /-- All lines. -/
  eq : lines = above ++ line :: (body ++ below)
  /-- The line has the marker of a silent comment. -/
  marker : ∃ rest, Text.trim line = '-' :: '#' :: rest
  /-- It is read as a comment. -/
  comment : ∃ tree comment, parseLines (above ++ [line]) = .ok tree ∧
    tree.contentAt (tree.size - 1) = .comment comment
  /-- The lines of the body are blank or wider. -/
  inside : ∀ other ∈ body,
    Text.trim other = [] ∨ (indentation line).length < (indentation other).length
  /-- The line after the body is neither. -/
  outside : ∀ other ∈ below.head?,
    Text.trim other ≠ [] ∧ (indentation other).length ≤ (indentation line).length
  /-- It starts a logical line. -/
  apart : ∀ last ∈ (ofLines 0 (above ++ line :: body)).getLast?, ∀ next ∈ below.head?,
    continues last.expression next = false

namespace SilentBlock

variable {lines above body below : List Text} {line : Text}

/-- The comment is a logical line of its own. -/
theorem ofLines_comment (h : SilentBlock lines above line body below) (rest : List Text) :
    ofLines 0 (above ++ line :: rest) =
      ofLines 0 above ++ ⟨above.length + 1, (indentation line).length, Text.trim line⟩ ::
        ofLines (above.length + 1) rest := by
  obtain ⟨text, hmarker⟩ := h.marker
  have hstart : ∀ last ∈ (ofLines 0 above).getLast?, continues last.expression line = false :=
    fun last _ => LogicalLine.not_continues_of_marker hmarker (by decide) last.expression
  have hend : ∀ next ∈ rest.head?, continues (Text.trim line) next = false := by
    intro next _
    rw [hmarker]
    exact LogicalLine.not_continues_comment text next
  rw [LogicalLine.ofLines_append hstart, Nat.zero_add,
    LogicalLine.ofLines_cons_of_not_continues hend]

/-- The lines above with the comment, the body and the lines below are read one after the other. -/
theorem ofLines_eq (h : SilentBlock lines above line body below) :
    ofLines 0 lines = ofLines 0 (above ++ [line]) ++ (ofLines (above.length + 1) body ++
      (ofLines 0 below).map (later (above ++ line :: body).length)) := by
  have hsplit : lines = (above ++ line :: body) ++ below := by
    rw [h.eq, List.append_assoc, List.cons_append]
  rw [hsplit, LogicalLine.ofLines_append_of_apart h.apart, h.ofLines_comment body,
    h.ofLines_comment [], LogicalLine.ofLines_nil, List.append_assoc, List.append_assoc,
    List.cons_append, List.singleton_append]

/-- The run up to the comment ends with it. -/
theorem exists_base (h : SilentBlock lines above line body below) :
    ∃ base comment, Nesting.run (ofLines 0 (above ++ [line])) = .ok base ∧
      base.width = (indentation line).length ∧
      base.tree.contentAt base.last = .comment comment ∧ comment.silent = true := by
  obtain ⟨tree, comment, hparse, hcomment⟩ := h.comment
  obtain ⟨base, hbase, rfl⟩ := Nesting.build_eq_ok_iff.mp hparse
  have hrun := hbase
  rw [h.ofLines_comment [], LogicalLine.ofLines_nil, Nesting.run_concat] at hrun
  cases habove : Nesting.run (ofLines 0 above) with
  | error error =>
    rw [habove] at hrun
    cases hrun
  | ok n =>
    rw [habove] at hrun
    obtain ⟨text, hmarker⟩ := h.marker
    obtain ⟨hf, rfl⟩ := Nesting.step_cases_line (by rw [hmarker]; exact List.cons_ne_nil _ _) hrun
    refine ⟨_, comment, hbase, Nesting.width_of_fault? hf, hcomment, ?_⟩
    rw [Nesting.tree_add, Nesting.tree_moveTo, Tree.size_add, Nat.add_sub_cancel,
      Tree.contentAt_add_size] at hcomment
    cases htop : n.tree.topOf? (n.moveTo (indentation line).length).parent with
    | some top =>
      rw [Nesting.content_lineNode_of_some _ htop] at hcomment
      cases hcomment
    | none =>
      simp only [Nesting.lineNode, Nesting.tree_moveTo, htop, hmarker] at hcomment
      obtain rfl := Content.comment.inj hcomment
      rfl

/-- The run goes on through the body and the lines below it. -/
theorem exists_beneath (h : SilentBlock lines above line body below) {base m : Nesting}
    (hbase : Nesting.run (ofLines 0 (above ++ [line])) = .ok base)
    (hwidth : base.width = (indentation line).length)
    (hnone : base.tree.topOf? base.last = none) (hm : Nesting.run (ofLines 0 lines) = .ok m) :
    ∃ mid, (mid.Sound ∧ base.Beneath mid) ∧ (ofLines 0 below).foldlM Nesting.step mid = .ok m := by
  have hsound := (Nesting.reads_run hbase).1
  rw [h.ofLines_eq] at hm
  obtain ⟨start, hstart, hrest⟩ := Nesting.exists_run_of_append hm
  obtain rfl : base = start := Except.ok.inj (hbase.symm.trans hstart)
  obtain ⟨mid, hbody, hbelow⟩ := Nesting.exists_foldlM_append hrest
  have hwithin : ∀ other ∈ ofLines (above.length + 1) body, other.isWithin base.width = true := by
    intro other hother
    rw [hwidth]
    exact LogicalLine.isWithin_of_mem_ofLines h.inside hother
  exact ⟨mid, Nesting.Beneath.foldlM hsound hsound (.refl hsound) hnone hwithin hbody,
    Nesting.foldlM_of_later hbelow⟩

/-- The line after the body is outside of it. -/
theorem isWithin_below (h : SilentBlock lines above line body below) :
    ∀ other ∈ (ofLines 0 below).head?, other.isWithin (indentation line).length = false := by
  have houtside := h.outside
  cases below with
  | nil =>
    rw [LogicalLine.ofLines_nil]
    intro other hother
    cases hother
  | cons first rest =>
    rw [LogicalLine.ofLines_cons]
    intro other hother
    obtain ⟨hne, hle⟩ := houtside first rfl
    obtain rfl := Option.some.inj hother
    rw [LogicalLine.isWithin, Bool.or_eq_false_iff, List.isEmpty_eq_false_iff,
      decide_eq_false_iff_not, Nat.not_lt]
    exact ⟨mt LogicalLine.joinLines_eq_nil_iff.mp hne, hle⟩

end SilentBlock

end Template

/-- Trees that render alike have the same code. -/
theorem Tree.code_zero_congr {t u : Tree} (ht : t.Rooted) (hu : u.Rooted) {options : Options}
    (hstatements : (u.branch 0 Node.root).statements options =
      (t.branch 0 Node.root).statements options)
    (hreach : (u.branch 0 Node.root).reach = (t.branch 0 Node.root).reach) :
    u.code options 0 = t.code options 0 := by
  rw [Tree.code, Tree.code, ht.branch?_zero, hu.branch?_zero]
  dsimp only
  rw [hreach, Branch.code, hstatements, Branch.code]

/-- Sources of which the trees mirror each other from the root on compile alike. -/
theorem compile_eq_of_mirrors {source other : Text} {t u : Tree} {f : Nat → Nat}
    {within : Nat → Prop} (hparse : Template.parse source = .ok t)
    (hparse' : Template.parse other = .ok u) (ht : t.Rooted) (hu : u.Rooted)
    (h : t.Mirrors u f within) (hwithin : within 0) (hf : f 0 = 0) (options : Options)
    (name nameSpace : Text) :
    compile options other name nameSpace = compile options source name nameSpace := by
  obtain ⟨hstatements, hreach⟩ := h.branch_eq options hwithin
  rw [hf, ht.nodeAt_zero, hu.nodeAt_zero] at hstatements hreach
  have hcode := Tree.code_zero_congr ht hu hstatements hreach
  rw [compile, compile, hparse, hparse']
  change emit options u name nameSpace = emit options t name nameSpace
  rw [emit, emit, hcode]

open Template (SilentBlock) in
/-- Silent comments do not leak. Two sources that are accepted and differ only in the body of one
silent comment, with the line after the body not joined to it in either, compile alike. -/
theorem compile_eq_of_silentBlock {source other : Text} {above body body' below : List Text}
    {line : Text} {tree tree' : Tree}
    (h : SilentBlock (Text.splitLines source) above line body below)
    (h' : SilentBlock (Text.splitLines other) above line body' below)
    (hparse : Template.parse source = .ok tree) (hparse' : Template.parse other = .ok tree')
    (options : Options) (name nameSpace : Text) :
    compile options other name nameSpace = compile options source name nameSpace := by
  obtain ⟨base, comment, hbase, hwidth, hcomment, hsilent⟩ := h.exists_base
  obtain ⟨m', hm', rfl⟩ := Nesting.exists_run hparse
  obtain ⟨n', hn', rfl⟩ := Nesting.exists_run hparse'
  have hsound := (Nesting.reads_run hbase).1
  have hnone : base.tree.topOf? base.last = none := by
    rw [Tree.topOf?_eq hsound.last_lt, hcomment]
    rfl
  obtain ⟨m, hm, hbelow⟩ := h.exists_beneath hbase hwidth hnone hm'
  obtain ⟨n, hn, hbelow'⟩ := h'.exists_beneath hbase hwidth hnone hn'
  have hsame := Nesting.Beneath.sameOutside_foldlM hsound hm hn (hwidth ▸ h.isWithin_below) hbelow
    hbelow'
  have hkept : m'.tree.contentAt base.last = .comment comment := by
    have hlt := hsound.last_lt
    have hle := hm.2.size_le
    rw [Tree.contentAt, (Nesting.foldlM_frame hbelow).2 _ (by omega), hm.2.nodes _ hlt]
    exact hcomment
  obtain ⟨hblocks, hblocks'⟩ := And.intro (Nesting.blocks_run hm') (Nesting.blocks_run hn')
  exact compile_eq_of_mirrors hparse hparse' hblocks.1.rooted hblocks'.1.rooted
    (Nesting.mirrors_across hblocks hblocks' hsame hkept hsilent)
    ⟨hblocks.1.rooted.size_pos, .inl (Nat.zero_le _)⟩ (Tree.across_of_le (Nat.zero_le _)) options
    name nameSpace

/-- A silent comment with two levels of two blanks below it. -/
def plainNote : Text := "%p\n-# note\n  b\n    c\n/ y\n    z".toList

/-- The same with a filter below it, which fixes a unit of four blanks and ends with a blank
line. -/
def filterNote : Text := "%p\n-# note\n\n    :plain\n            - d\n\n/ y\n    z".toList

open Template (SilentBlock treeOf) in
/-- The last line is two levels deep for the one source and one level for the other, and the
filter below the comment shows nowhere. -/
theorem compile_eq_of_silentBlock_filterNote :
    (Template.parse plainNote).isOk ∧ (Template.parse filterNote).isOk ∧
    compile {} filterNote "t".toList "HAML".toList = compile {} plainNote "t".toList "HAML".toList ∧
    (compile {} plainNote "t".toList "HAML".toList).isOk := by
  have hplain : Template.parse plainNote = .ok (treeOf (Text.splitLines plainNote)) := by
    decide +kernel
  have hfilter : Template.parse filterNote = .ok (treeOf (Text.splitLines filterNote)) := by
    decide +kernel
  have hcomment : ∃ tree comment, Template.parseLines ["%p".toList, "-# note".toList] = .ok tree ∧
      tree.contentAt (tree.size - 1) = .comment comment :=
    ⟨treeOf ["%p".toList, "-# note".toList], ⟨true, none, "note".toList⟩, by decide +kernel,
      by decide +kernel⟩
  have hblock : SilentBlock (Text.splitLines plainNote) ["%p".toList] "-# note".toList
      ["  b".toList, "    c".toList] ["/ y".toList, "    z".toList] :=
    ⟨by decide +kernel, ⟨" note".toList, by decide +kernel⟩, hcomment, by decide +kernel,
      by decide +kernel, by decide +kernel⟩
  have hblock' : SilentBlock (Text.splitLines filterNote) ["%p".toList] "-# note".toList
      [[], "    :plain".toList, "            - d".toList, []] ["/ y".toList, "    z".toList] :=
    ⟨by decide +kernel, ⟨" note".toList, by decide +kernel⟩, hcomment, by decide +kernel,
      by decide +kernel, by decide +kernel⟩
  exact ⟨by rw [hplain]; rfl, by rw [hfilter]; rfl,
    compile_eq_of_silentBlock hblock hblock' hplain hfilter {} _ _, by decide +kernel⟩

end Haml
