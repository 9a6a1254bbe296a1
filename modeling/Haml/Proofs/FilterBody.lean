import Haml.Proofs.FilterBlock
import Haml.Proofs.Lines
import Mathlib.Data.List.DropRight

/-!
# The body of a filter

The body of a filter is the run of physical lines after its header that are blank or wider than it.
A filter takes its content from the logical lines, and these are made before it is known that a line
is in a filter. So the content of a filter is its body, line by line, exactly when no line of the
body is continued by the line after it. A line of a style sheet such as `.a{` can be.
-/

namespace Haml

open LogicalLine (ofLines continues Unjoined indentation)

namespace FilterText

/-- A content line given by width and text; blank lines have no width. -/
def shifted (base : Nat) (line : Nat × Text) : FilterText :=
  ⟨if line.2 = [] then 0 else line.1 - base, line.2⟩

/-- Content lines given by width and text: widths count from the least one of a line that is not
blank, and blank lines at the end are dropped. -/
def layout (lines : List (Nat × Text)) : List FilterText :=
  let base := ((lines.filter fun line => !line.2.isEmpty).map Prod.fst).min?.getD 0
  (lines.map (shifted base)).rdropWhile fun line => line.text.isEmpty

/-- Physical lines as content lines, each for itself. -/
def verbatim (lines : List Text) : List FilterText :=
  layout (lines.map fun line => ((indentation line).length, Text.trim line))

/-- The least of widths that are natural numbers. -/
theorem least_map_natCast (widths : List Nat) :
    least (widths.map Nat.cast) = (widths.min?.getD 0 : Nat) := by
  cases widths with
  | nil => rfl
  | cons width widths =>
    rw [List.min?_cons', Option.getD_some, List.map_cons, least]
    induction widths generalizing width with
    | nil => rfl
    | cons next widths ih =>
      rw [List.map_cons, List.foldl_cons, List.foldl_cons, ← ih]
      congr 1
      omega

/-- A node has the text of a content line, and its width unless that is blank. -/
def Shows (node : Node) (line : Nat × Text) : Prop :=
  node.expression = line.2 ∧ (line.2 ≠ [] → node.indent = (line.1 : Int))

/-- Nodes that show some lines have the widths of the lines that are not blank. -/
theorem map_indent_of_shows {nodes : List Node} {lines : List (Nat × Text)}
    (h : List.Forall₂ Shows nodes lines) :
    (nodes.filter fun node => !node.expression.isEmpty).map (·.indent) =
      ((lines.filter fun line => !line.2.isEmpty).map Prod.fst).map Nat.cast := by
  induction h with
  | nil => rfl
  | cons hline _ ih =>
    obtain ⟨hexpression, hindent⟩ := hline
    rw [List.filter_cons, List.filter_cons, hexpression]
    split
    · rename_i hne
      rw [List.map_cons, List.map_cons, List.map_cons, ih, hindent (by simpa using hne)]
    · exact ih

/-- Nodes that have the texts and widths of lines are laid out as these. -/
theorem ofNodes_eq_layout {nodes : List Node} {lines : List (Nat × Text)}
    (h : List.Forall₂ Shows nodes lines) : ofNodes nodes = layout lines := by
  have hlines : ∀ base : Nat, nodes.map (ofNode base) = lines.map (shifted base) := by
    intro base
    induction h with
    | nil => rfl
    | @cons node line _ _ hline _ ih =>
      obtain ⟨hexpression, hindent⟩ := hline
      rw [List.map_cons, List.map_cons, ih, ofNode, hexpression]
      by_cases he : line.2 = []
      · simp [he, shifted]
      · have hempty : line.2.isEmpty = false := by simpa using he
        rw [hempty, shifted, if_neg he, hindent he, if_neg Bool.false_ne_true, Int.toNat_sub]
  rw [ofNodes, base, map_indent_of_shows h, least_map_natCast, hlines]
  rfl

/-- The texts of a layout. -/
theorem map_text_layout (lines : List (Nat × Text)) :
    (layout lines).map text = (lines.map Prod.snd).rdropWhile List.isEmpty := by
  have hcut : ∀ all : List FilterText, (all.rdropWhile fun line => line.text.isEmpty).map text =
      (all.map text).rdropWhile List.isEmpty := by
    intro all
    rw [List.rdropWhile, List.rdropWhile, List.map_reverse, List.reverse_inj, ← List.map_reverse,
      List.dropWhile_map]
    rfl
  rw [layout, hcut, List.map_map]
  rfl

/-- A text that is not blank stays in the layout, in its place. -/
theorem text_eq_of_layout_eq {front front' back back' : List (Nat × Text)} {line line' : Nat × Text}
    (hfront : front.map Prod.snd = front'.map Prod.snd) (hline : line.2 ≠ [])
    (hline' : line'.2 ≠ [])
    (h : layout (front ++ line :: back) = layout (front' ++ line' :: back')) :
    line.2 = line'.2 := by
  have hkeep : ∀ (texts more : List Text) (t : Text), t ≠ [] →
      (texts ++ t :: more).rdropWhile List.isEmpty =
        texts ++ t :: more.rdropWhile List.isEmpty := by
    intro texts more t ht
    rw [List.rdropWhile, List.rdropWhile, List.reverse_append, List.reverse_cons, List.append_assoc,
      List.dropWhile_append]
    split
    · rename_i hnil
      rw [List.isEmpty_iff.mp hnil]
      simp [ht]
    · simp
  have htexts := congrArg (List.map text) h
  rw [map_text_layout, map_text_layout, List.map_append, List.map_append, List.map_cons,
    List.map_cons, hkeep _ _ _ hline, hkeep _ _ _ hline', hfront] at htexts
  exact (List.cons.inj (List.append_cancel_left htexts)).1

end FilterText

namespace Nesting

variable {n m : Nesting}

/-- Later lines change no filter. -/
theorem topOf?_foldlM {lines : List LogicalLine} {i : Nat}
    (h : lines.foldlM Nesting.step n = .ok m) (hi : i < n.tree.size) :
    m.tree.topOf? i = n.tree.topOf? i := by
  obtain ⟨hle, hkeep⟩ := foldlM_frame h
  rw [Tree.topOf?_eq (by omega), Tree.topOf?_eq hi, Tree.contentAt, hkeep i hi, Tree.contentAt]

/-- The node of a line that is not blank, at the end of a run. -/
theorem nodeAt_of_line {line : LogicalLine} {lines : List LogicalLine} (hs : n.Sound)
    (hne : line.expression ≠ []) (hm : (line :: lines).foldlM Nesting.step n = .ok m) :
    n.tree.size < m.tree.size ∧ (n.moveTo line.indent).Sound ∧
      m.tree.nodeAt n.tree.size = (n.moveTo line.indent).lineNode line := by
  obtain ⟨next, hstep, hmore⟩ := exists_foldlM_cons hm
  obtain ⟨hf, rfl⟩ := step_cases_line hne hstep
  obtain ⟨hle, hkeep⟩ := foldlM_frame hmore
  rw [tree_add, tree_moveTo, Tree.size_add] at hle hkeep
  refine ⟨by omega, hs.moveTo hf, ?_⟩
  rw [hkeep n.tree.size (by omega), Tree.nodeAt_add_size]

/-- Outside of other filters, a line that names a filter opens it. Its parent is no line of a
filter, so the line is not content of one. -/
theorem content_of_filter {line : LogicalLine} {lines : List LogicalLine} {kind : FilterKind}
    (hs : n.Sound) (hm : (line :: lines).foldlM Nesting.step n = .ok m)
    (hkind : FilterKind.ofLine? line.expression = some kind)
    (hout : ∀ a ∈ m.tree.ancestors n.tree.size, (m.tree.contentAt a).isFilter = false) :
    m.tree.contentAt n.tree.size = .filter (.header kind) := by
  have hne : line.expression ≠ [] := by
    intro hnil
    rw [hnil] at hkind
    contradiction
  obtain ⟨hlt, hmoved, hnode⟩ := nodeAt_of_line hs hne hm
  have hplt : (n.moveTo line.indent).parent < n.tree.size := hmoved.parent_lt
  have hparent : m.tree.parent? n.tree.size = some (n.moveTo line.indent).parent := by
    rw [Tree.parent?_eq hlt, hnode]
    rfl
  have hplain := hout _ (by rw [Tree.ancestors_of_some hparent hplt]; exact List.mem_cons_self)
  have hnone : (n.moveTo line.indent).tree.topOf? (n.moveTo line.indent).parent = none := by
    rw [Tree.contentAt, (foldlM_frame hm).2 _ hplt, ← Tree.contentAt,
      ← Tree.isSome_topOfContent, ← Tree.topOf?_eq hplt] at hplain
    simpa using hplain
  have hk : Kind.ofLine line.expression = .filter := by
    rw [Kind.ofLine, hkind]
    rfl
  rw [Tree.contentAt, hnode]
  simp only [lineNode, hnone, hk, Content.ofLine, hkind, Option.getD_some]

/-- The nodes of a filter are its header and one node for each line of its content. -/
theorem filter_nodes {header : LogicalLine} {content rest : List LogicalLine} {t : Nat}
    (hs : n.Sound) (hsize : n.tree.size = t) (hne : header.expression ≠ [])
    (hcontent : ∀ line ∈ content, line.expression = [] ∨ header.indent < line.indent)
    (hrest : ∀ line ∈ rest.head?, line.expression ≠ [] ∧ line.indent ≤ header.indent)
    (hm : (header :: (content ++ rest)).foldlM Nesting.step n = .ok m)
    (hheader : m.tree.topOf? t = some (t : Int)) :
    t + content.length < m.tree.size ∧
      (∀ k line, content[k]? = some line → IsContent t line (m.tree.nodeAt (t + 1 + k))) ∧
      (t + content.length + 1 < m.tree.size →
        m.tree.topOf? (t + content.length + 1) ≠ some (t : Int)) := by
  subst hsize
  obtain ⟨opened, hstep, hmore⟩ := exists_foldlM_cons hm
  obtain ⟨closed, hbody, hlater⟩ := exists_foldlM_append hmore
  have hos := hs.step hstep
  have hgrow : n.tree.size < opened.tree.size := by
    obtain ⟨-, rfl⟩ := step_cases_line hne hstep
    rw [tree_add, tree_moveTo, Tree.size_add]
    omega
  rw [topOf?_foldlM hmore hgrow] at hheader
  obtain ⟨hin, hosize⟩ := inFilter_header hs hne hstep hheader
  obtain ⟨hcs, hcin, hcsize, hnodes⟩ := hin.foldlM hos hcontent hbody
  obtain ⟨hle, hkeep⟩ := foldlM_frame hlater
  refine ⟨by omega, ?_, ?_⟩
  · intro k line hk
    have hlt : k < content.length := (List.getElem?_eq_some_iff.mp hk).1
    rw [← hosize, hkeep _ (by omega)]
    exact hnodes k line hk
  · intro hlt
    have hindex : n.tree.size + content.length + 1 = closed.tree.size := by omega
    rw [hindex] at hlt ⊢
    cases rest with
    | nil =>
      obtain rfl : closed = m := Except.ok.inj hlater
      omega
    | cons line rest =>
      obtain ⟨hne', hindent⟩ := hrest line rfl
      obtain ⟨left, hleave, hend⟩ := exists_foldlM_cons hlater
      obtain ⟨hlsize, hltop⟩ := hcin.step_leave hcs hne' hindent hleave
      rw [topOf?_foldlM hend (by omega)]
      exact hltop

/-- The content of a filter in terms of the logical lines. -/
theorem filterLines_eq_layout {before : List LogicalLine} {header : LogicalLine}
    {content rest : List LogicalLine} {node : Node} {t : Nat}
    (hr : run before = .ok n) (hsize : n.tree.size = t) (hne : header.expression ≠ [])
    (hcontent : ∀ line ∈ content, line.expression = [] ∨ header.indent < line.indent)
    (hrest : ∀ line ∈ rest.head?, line.expression ≠ [] ∧ line.indent ≤ header.indent)
    (hm : run (before ++ header :: (content ++ rest)) = .ok m)
    (hheader : m.tree.topOf? t = some (t : Int)) :
    Branch.filterLines (m.tree.branch t node).children =
      FilterText.layout (content.map fun line => (line.indent, line.expression)) := by
  obtain ⟨hs, hblocks⟩ := blocks_run hm
  obtain ⟨n', hr', hfold⟩ := exists_run_of_append hm
  obtain rfl : n = n' := Except.ok.inj (hr.symm.trans hr')
  obtain ⟨hlt, hnodes, hend⟩ :=
    filter_nodes (blocks_run hr).1 hsize hne hcontent hrest hfold hheader
  have hbelow : ∀ j < m.tree.size, t ∈ m.tree.ancestors j ↔ t < j ∧ j ≤ t + content.length := by
    intro j hj
    rw [hblocks.mem_ancestors_iff hs hheader hj]
    refine and_congr_right fun htj => ?_
    constructor
    · intro htop
      by_contra hgt
      exact hblocks.topOf?_ne_of_le (by omega) (show t + content.length + 1 ≤ j by omega) hj
        (hend (by omega)) htop
    · intro hle
      have hk : content[j - (t + 1)]? = some content[j - (t + 1)] :=
        List.getElem?_eq_getElem (by omega)
      have hnode := hnodes _ _ hk
      have hindex : t + 1 + (j - (t + 1)) = j := by omega
      rw [hindex] at hnode
      rw [Tree.topOf?_eq hj, Tree.contentAt, hnode.content]
      rfl
  have hmem : ∀ j, j ∈ List.range' (t + 1) content.length ↔
      j < m.tree.size ∧ t ∈ m.tree.ancestors j := by
    intro j
    rw [List.mem_range'_1]
    constructor
    · intro hj
      exact ⟨by omega, (hbelow j (by omega)).mpr (by omega)⟩
    · rintro ⟨hj, htj⟩
      have hrange := (hbelow j hj).mp htj
      omega
  rw [Tree.filterLines_eq List.pairwise_lt_range' hmem]
  apply FilterText.ofNodes_eq_layout
  rw [List.forall₂_iff_get]
  refine ⟨by simp, ?_⟩
  intro k hk hk'
  have hlen : k < content.length := by simpa using hk
  have hnode := hnodes k content[k] (List.getElem?_eq_getElem hlen)
  simp only [List.get_eq_getElem, List.getElem_map, List.getElem_range', Nat.one_mul]
  exact ⟨hnode.expression, hnode.indent⟩

end Nesting

/-- Whether a logical line stays within a block below a line of some width. -/
def LogicalLine.isWithin (width : Nat) (line : LogicalLine) : Bool :=
  line.expression.isEmpty || decide (width < line.indent)

namespace LogicalLine

/-- No line continues a blank line. -/
theorem not_continues_nil (next : Text) : continues [] next = false := by
  simp [continues, Element.opensAttributeList, Element.hasHead, Element.tag?, Element.shorthands]

/-- A line that opens a filter opens no attribute list. -/
theorem not_continues_filter {line : Text} {kind : FilterKind}
    (h : FilterKind.ofLine? line = some kind) (next : Text) : continues line next = false := by
  rw [FilterKind.ofLine?.eq_def] at h
  split at h
  · simp [continues, Element.opensAttributeList, Element.hasHead, Element.tag?, Element.shorthands,
      Element.isShorthandMark]
  · contradiction

end LogicalLine

namespace FilterText

open LogicalLine (isWithin)

variable {width number : Nat} {body after : List Text}

/-- Logical lines with the widths and texts of the body are within it. -/
theorem isWithin_of_map_eq {front : List LogicalLine}
    (hbody : ∀ line ∈ body, Text.trim line = [] ∨ width < (indentation line).length)
    (hfront : front.map (fun line => (line.indent, line.expression)) =
      body.map fun line => ((indentation line).length, Text.trim line)) :
    ∀ line ∈ front, isWithin width line = true := by
  intro line hline
  have hmem : (line.indent, line.expression) ∈
      body.map fun line => ((indentation line).length, Text.trim line) :=
    hfront ▸ List.mem_map_of_mem hline
  obtain ⟨other, ho, heq⟩ := List.mem_map.mp hmem
  rw [Prod.mk.injEq] at heq
  rw [isWithin, ← heq.1, ← heq.2, Bool.or_eq_true, List.isEmpty_iff, decide_eq_true_eq]
  exact hbody other ho

/-- Lines that are not joined stay as they are, up to the end of the body. -/
theorem takeWhile_of_unjoined
    (hbody : ∀ line ∈ body, Text.trim line = [] ∨ width < (indentation line).length)
    (hafter : ∀ line ∈ after.head?, Text.trim line ≠ [] ∧ (indentation line).length ≤ width)
    (h : Unjoined (body ++ after.take 1)) :
    ((ofLines number (body ++ after)).takeWhile (isWithin width)).map
      (fun line => (line.indent, line.expression)) =
      body.map fun line => ((indentation line).length, Text.trim line) := by
  obtain ⟨front, heq, hfront⟩ := LogicalLine.ofLines_of_unjoined number h
  have hend : (ofLines (number + body.length) after).takeWhile (isWithin width) = [] := by
    cases after with
    | nil => rw [LogicalLine.ofLines_nil]; rfl
    | cons line after =>
      obtain ⟨hne, hle⟩ := hafter line rfl
      obtain ⟨more, hmore⟩ := LogicalLine.exists_joinLines_eq (Text.trim line) after
      rw [LogicalLine.ofLines_cons, hmore, List.takeWhile_cons, if_neg]
      simp [isWithin, hne, hle]
  rw [heq, List.takeWhile_append_of_pos (isWithin_of_map_eq hbody hfront), hend, List.append_nil,
    hfront]

/-- The first line that is joined is longer than it was. -/
theorem layout_ne_verbatim_of_joined
    (hbody : ∀ line ∈ body, Text.trim line = [] ∨ width < (indentation line).length)
    (h : ¬Unjoined (body ++ after.take 1)) :
    layout (((ofLines number (body ++ after)).takeWhile (isWithin width)).map
      fun line => (line.indent, line.expression)) ≠ verbatim body := by
  obtain ⟨front, line, back, next, rfl, hfront, hnext, hc⟩ := LogicalLine.exists_first_joined h
  have hne : Text.trim line ≠ [] := by
    intro hnil
    rw [hnil, LogicalLine.not_continues_nil] at hc
    contradiction
  have hwide := (hbody line (by simp)).resolve_left hne
  have hstart : Unjoined (front ++ (line :: (back ++ after)).take 1) := hfront
  obtain ⟨lines, heq, hlines⟩ := LogicalLine.ofLines_of_unjoined number hstart
  obtain ⟨more, rest, hjoined⟩ :=
    LogicalLine.ofLines_cons_of_continues (number + front.length) hnext hc
  have hwithin := isWithin_of_map_eq (fun other ho => hbody other (by simp [ho])) hlines
  have hline : isWithin width ⟨number + front.length + 1, (indentation line).length,
      Text.trim line ++ ' ' :: more⟩ = true := by simp [isWithin, hwide]
  rw [verbatim, List.append_assoc, List.cons_append, heq, hjoined,
    List.takeWhile_append_of_pos hwithin, List.takeWhile_cons, if_pos hline, List.map_append,
    List.map_cons, List.map_append, List.map_cons, hlines]
  intro hlayout
  have htext := text_eq_of_layout_eq rfl (by simp) hne hlayout
  simp at htext

end FilterText

namespace Template

open FilterText (layout verbatim)
open LogicalLine (isWithin)

variable {source header : Text} {before body after : List Text} {tree : Tree} {kind : FilterKind}

/-- The logical lines around a header. -/
theorem logicalLines_of_header
    (hlines : Text.splitLines source = before ++ header :: (body ++ after))
    (hstart : ∀ line ∈ (ofLines 0 before).getLast?, continues line.expression header = false)
    (hkind : FilterKind.ofLine? (Text.trim header) = some kind) :
    logicalLines source = ofLines 0 before ++
      ⟨before.length + 1, (indentation header).length, Text.trim header⟩ ::
        ofLines (before.length + 1) (body ++ after) := by
  rw [logicalLines, hlines, LogicalLine.ofLines_append hstart, Nat.zero_add,
    LogicalLine.ofLines_cons_of_not_continues fun next _ =>
      LogicalLine.not_continues_filter hkind next]

/-- The content of a filter. Let a source be accepted in which a header is followed by a body, a
greatest run of lines that are blank or wider than the header. The header is the first node after
those of the lines before it. Outside of other filters it opens a filter, and the content of that is
laid out from the logical lines within the body. It is the body itself, line by line, exactly when
no line of the body is continued by the line after it. -/
theorem filter_verbatim_iff_unjoined (hparse : parse source = .ok tree)
    (hlines : Text.splitLines source = before ++ header :: (body ++ after))
    (hstart : ∀ line ∈ (ofLines 0 before).getLast?, continues line.expression header = false)
    (hkind : FilterKind.ofLine? (Text.trim header) = some kind)
    (hbody : ∀ line ∈ body,
      Text.trim line = [] ∨ (indentation header).length < (indentation line).length)
    (hafter : ∀ line ∈ after.head?,
      Text.trim line ≠ [] ∧ (indentation line).length ≤ (indentation header).length) :
    ∃ prior, parseLines before = .ok prior ∧
      (tree.nodeAt prior.size).expression = Text.trim header ∧
      (tree.nodeAt prior.size).indent = (indentation header).length ∧
      ((∀ a ∈ tree.ancestors prior.size, (tree.contentAt a).isFilter = false) →
        ∃ branch, tree.branch? prior.size = some branch ∧
          branch.node.content = .filter (.header kind) ∧
          Branch.filterLines branch.children =
            layout (((ofLines (before.length + 1) (body ++ after)).takeWhile
              (isWithin (indentation header).length)).map
                fun line => (line.indent, line.expression)) ∧
          (Branch.filterLines branch.children = verbatim body ↔
            Unjoined (body ++ after.take 1))) := by
  obtain ⟨m, hr, rfl⟩ := Nesting.exists_run hparse
  rw [logicalLines_of_header hlines hstart hkind] at hr
  obtain ⟨n, hn, hfold⟩ := Nesting.exists_run_of_append hr
  have hne : Text.trim header ≠ [] := by
    intro hnil
    rw [hnil] at hkind
    contradiction
  have hs := (Nesting.blocks_run hn).1
  obtain ⟨hlt, -, hnode⟩ := Nesting.nodeAt_of_line hs hne hfold
  refine ⟨n.tree, Nesting.build_eq_ok_iff.mpr ⟨n, hn, rfl⟩, by rw [hnode]; rfl,
    by rw [hnode]; rfl, ?_⟩
  intro hout
  have hcontent := Nesting.content_of_filter hs hfold hkind hout
  have hheader : m.tree.topOf? n.tree.size = some (n.tree.size : Int) := by
    rw [Tree.topOf?_eq hlt, hcontent]
    rfl
  refine ⟨m.tree.branch n.tree.size (m.tree.nodeAt n.tree.size), ?_, ?_, ?_⟩
  · rw [Tree.branch?, Tree.get?_eq_some_nodeAt hlt]
    rfl
  · rw [Tree.branch_eq]
    exact hcontent
  · have hsplit : (ofLines (before.length + 1) (body ++ after)).takeWhile
        (isWithin (indentation header).length) ++
        (ofLines (before.length + 1) (body ++ after)).dropWhile
        (isWithin (indentation header).length) = ofLines (before.length + 1) (body ++ after) :=
      List.takeWhile_append_dropWhile
    have hwithin : ∀ line ∈ (ofLines (before.length + 1) (body ++ after)).takeWhile
        (isWithin (indentation header).length),
        line.expression = [] ∨ (indentation header).length < line.indent := by
      intro line hline
      simpa [isWithin] using List.mem_takeWhile_imp hline
    have hend : ∀ line ∈ ((ofLines (before.length + 1) (body ++ after)).dropWhile
        (isWithin (indentation header).length)).head?,
        line.expression ≠ [] ∧ line.indent ≤ (indentation header).length := by
      intro line hline
      have hnot := List.head?_dropWhile_not (isWithin (indentation header).length)
        (ofLines (before.length + 1) (body ++ after))
      rw [Option.mem_def.mp hline] at hnot
      simpa [isWithin] using hnot
    rw [← hsplit] at hr
    rw [Nesting.filterLines_eq_layout hn rfl hne hwithin hend hr hheader]
    refine ⟨rfl, ?_, ?_⟩
    · intro hverbatim
      by_contra hjoined
      exact FilterText.layout_ne_verbatim_of_joined hbody hjoined hverbatim
    · intro hunjoined
      rw [FilterText.takeWhile_of_unjoined hbody hafter hunjoined]
      rfl

/-- A style sheet whose first line looks like an element with an open attribute list. -/
def styleSheet : Text := ":css\n  .a\x7b\n    color: red\n  \x7d\n%p".toList

/-- The tree of `styleSheet`. -/
def styleTree : Tree := (parse styleSheet).toOption.getD Tree.empty

/-- The body of the filter in `styleSheet`. -/
def styleBody : List Text := ["  .a\x7b".toList, "    color: red".toList, "  \x7d".toList]

/-- In a style sheet the second line of a rule is joined to the first, so that the filter does not
have its body verbatim. -/
theorem filter_verbatim_iff_unjoined_styleSheet :
    parse styleSheet = .ok styleTree ∧ ∃ branch, styleTree.branch? 1 = some branch ∧
      Branch.filterLines branch.children =
        [⟨0, ".a\x7b color: red".toList⟩, ⟨0, ['\x7d']⟩] ∧
      Branch.filterLines branch.children ≠ verbatim styleBody := by
  have hparse : parse styleSheet = .ok styleTree := by decide +kernel
  have hlines : Text.splitLines styleSheet =
      [] ++ ":css".toList :: (styleBody ++ ["%p".toList]) := by decide +kernel
  have hkind : FilterKind.ofLine? (Text.trim ":css".toList) = some .css := by decide +kernel
  obtain ⟨prior, hprior, -, -, hcontent⟩ := filter_verbatim_iff_unjoined hparse hlines
    (by rw [LogicalLine.ofLines_nil]; exact nofun) hkind (by decide +kernel) (by decide +kernel)
  have hstart : parseLines [] = .ok Template.start.tree := by
    rw [parseLines, LogicalLine.ofLines_nil]
    rfl
  obtain rfl := Except.ok.inj (hprior.symm.trans hstart)
  obtain ⟨branch, hbranch, -, hlayout, hiff⟩ := hcontent (by decide +kernel)
  refine ⟨hparse, branch, hbranch, hlayout.trans (by decide +kernel), ?_⟩
  intro hverbatim
  have hc := (List.isChain_cons_cons.mp (hiff.mp hverbatim)).1
  exact absurd hc (by decide +kernel)

end Template

end Haml
