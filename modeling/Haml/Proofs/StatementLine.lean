import Haml.Proofs.CodeSource
import Haml.Proofs.Compilation
import Haml.Proofs.OutputExpression

/-!
# Statements are lines

Each statement of the generated function is one line: its text has no line break, and a visible
character follows the indentation of its level. Only a line of a `python` filter is indented
further, by its own indentation. The reason is that all code in a statement stands on a line of the
template, and that all else is quoted.
-/

namespace Haml

open Literal (Fault)
open Text (Unbroken Flush)

namespace Fragment

/-- The expression for literal text has no line breaks, whatever the text has. -/
theorem unbroken_literal (t : CodeText) : Unbroken (expression (literal t)) :=
  fun _ hc => Text.not_isLineBreak_of_isPrintable (CodeText.isPrintable_of_mem_quote hc)

/-- The expression for a value has no line breaks if its source has none. -/
theorem unbroken_ofValue (escape : Bool) {x : Text} (h : Unbroken x) :
    Unbroken (expression (ofValue escape x)) := by
  have hcall {start : Text} (hs : Unbroken start) : Unbroken (start ++ x ++ [')']) :=
    Text.unbroken_append.mpr ⟨Text.unbroken_append.mpr ⟨hs, h⟩, by decide⟩
  cases escape with
  | false => exact hcall (by decide)
  | true => exact hcall (by decide)

/-- The expressions of an interpolation have no line breaks if the text has none. -/
theorem unbroken_of_mem_interpolate {escape : Bool} {t : Text} (h : Unbroken t) :
    ∀ f ∈ interpolate escape t, Unbroken f.expression := by
  intro f hf
  obtain ⟨u, rfl⟩ | ⟨x, hx, rfl⟩ := isPart_of_mem_interpolate hf
  · exact unbroken_literal u
  · exact unbroken_ofValue escape (h.mono hx)

end Fragment

/-- Texts without a line break are joined to one without. -/
theorem Text.unbroken_intercalate {separator : Text} {pieces : List Text}
    (hs : Unbroken separator) (h : ∀ piece ∈ pieces, Unbroken piece) :
    Unbroken (List.intercalate separator pieces) := by
  induction pieces with
  | nil => exact List.forall_mem_nil _
  | cons piece pieces ih =>
    obtain ⟨hpiece, hpieces⟩ := List.forall_mem_cons.mp h
    cases pieces with
    | nil => rwa [List.intercalate_singleton]
    | cons next pieces =>
      rw [List.intercalate_cons_cons]
      exact unbroken_append.mpr ⟨unbroken_append.mpr ⟨hpiece, hs⟩, ih hpieces⟩

/-- One expression has no line break when none of its fragments has one. -/
theorem Fragment.unbroken_toExpression {line : List Fragment}
    (h : ∀ f ∈ line, Unbroken f.expression) : Unbroken (toExpression line) := by
  unfold toExpression
  split
  · decide
  · refine Text.unbroken_intercalate (by decide) (List.forall_mem_map.mpr fun f hf => ?_)
    obtain ⟨t, rfl⟩ | hf := mem_merge hf
    · exact unbroken_literal t
    · exact h f hf

namespace Text

/-- Spaces are blank. -/
theorem isBlank_of_mem_replicate (count : Nat) : ∀ c ∈ List.replicate count ' ', isBlank c = true :=
  fun c hc => by rw [List.eq_of_mem_replicate hc]; decide

/-- Spaces have no line breaks. -/
theorem unbroken_replicate (count : Nat) : Unbroken (List.replicate count ' ') :=
  fun c hc => by rw [List.eq_of_mem_replicate hc]; decide

end Text

namespace LogicalLine

/-- Blanks before a text are part of its indentation. -/
theorem indentation_append {blanks t : Text} (h : ∀ c ∈ blanks, Text.isBlank c = true) :
    indentation (blanks ++ t) = blanks ++ indentation t := List.takeWhile_append_of_pos h

/-- A text that does not start with a blank is not indented. -/
theorem indentation_of_start {t : Text} (h : ∀ c ∈ t.head?, Text.isBlank c = false) :
    indentation t = [] := by
  cases t with
  | nil => rfl
  | cons c t => exact List.takeWhile_cons_of_neg (by rw [h c rfl]; exact Bool.false_ne_true)

end LogicalLine

/-- How far a line is indented beyond its level. -/
def Action.pad : Action → Nat
  | raw pad _ => pad
  | _ => 0

/-- The code of an action is one line, with a visible character after its own indentation. -/
structure Action.OneLine (action : Action) : Prop where
  /-- No character ends the line. -/
  unbroken : Unbroken action.text
  /-- The blanks at its start are its own indentation. -/
  width : (LogicalLine.indentation action.text).length = action.pad
  /-- Not all of it is blank. -/
  visible : ∃ c ∈ action.text, Text.isBlank c = false

namespace Action

/-- An output whose expressions have no line breaks is on one line. -/
theorem oneLine_output {line : List Fragment} (h : ∀ f ∈ line, Unbroken f.expression) :
    (output line).OneLine where
  unbroken := Text.unbroken_append.mpr ⟨Text.unbroken_append.mpr
    ⟨by decide, Fragment.unbroken_toExpression h⟩, by decide⟩
  width := rfl
  visible := ⟨'o', List.mem_cons_self, by decide⟩

/-- A statement that does nothing is on one line. -/
theorem oneLine_pass : pass.OneLine := ⟨by decide, rfl, 'p', List.mem_cons_self, by decide⟩

/-- Code is on one line if it is flush and not empty. -/
theorem oneLine_run {code : Text} (h : Flush code) (hne : code ≠ []) : (run code).OneLine where
  unbroken := h.unbroken
  width := congrArg List.length (LogicalLine.indentation_of_start h.start)
  visible := h.exists_visible hne

/-- Raw code is on one line if it is flush and not empty. -/
theorem oneLine_raw (pad : Nat) {code : Text} (h : Flush code) (hne : code ≠ []) :
    (raw pad code).OneLine where
  unbroken := Text.unbroken_append.mpr ⟨Text.unbroken_replicate pad, h.unbroken⟩
  width := by
    have hblanks : LogicalLine.indentation (List.replicate pad ' ' ++ code) =
        List.replicate pad ' ' := by
      rw [LogicalLine.indentation_append (Text.isBlank_of_mem_replicate pad),
        LogicalLine.indentation_of_start h.start, List.append_nil]
    exact (congrArg List.length hblanks).trans List.length_replicate
  visible := by
    obtain ⟨c, hc, hvisible⟩ := h.exists_visible hne
    exact ⟨c, List.mem_append_right _ hc, hvisible⟩

end Action

namespace Node

/-- A statement of a node: it is one line at the level of the node, and only a `python` filter has
lines that are indented further. -/
structure Writes (node : Node) (s : Statement) : Prop where
  /-- It is at the level of the node. -/
  level : s.level = node.blocks
  /-- It is one line. -/
  oneLine : s.action.OneLine
  /-- It is not indented further. -/
  pad : node.content ≠ .filter (.header .python) → s.action.pad = 0

variable {node : Node}

/-- A node writes its output at its own level. -/
theorem writes_push {line : List Fragment} (h : ∀ f ∈ line, Unbroken f.expression) :
    node.Writes (node.push line) := ⟨rfl, Action.oneLine_output h, fun _ => rfl⟩

/-- A node writes fixed text at its own level. -/
theorem writes_pushText (node : Node) (extra : Nat) (t : Text) :
    node.Writes (node.pushText extra t) :=
  writes_push (List.forall_mem_singleton.mpr (Fragment.unbroken_literal _))

/-- A node writes an indented line of output at its own level. -/
theorem writes_pushLine {line : List Fragment} (extra : Nat)
    (h : ∀ f ∈ line, Unbroken f.expression) : node.Writes (node.pushLine extra line) :=
  writes_push (List.forall_mem_cons.mpr ⟨Fragment.unbroken_literal _, h⟩)

/-- A node of text writes at its own level. -/
theorem writes_textStatements (options : Options) (h : Unbroken node.expression) :
    ∀ s ∈ node.textStatements options, node.Writes s := by
  refine List.forall_mem_singleton.mpr
    (writes_pushLine 0 (Fragment.unbroken_of_mem_interpolate ?_))
  split
  · rename_i rest heq
    split
    · exact h
    · rw [heq] at h
      exact (Text.unbroken_cons.mp h).2
  · exact h

/-- A node of code writes at its own level. -/
theorem writes_codeStatements (options : Options) {code : Code} (h : Flush code.code) :
    ∀ s ∈ node.codeStatements options code, node.Writes s := by
  unfold codeStatements
  split
  · split
    · exact List.forall_mem_nil _
    · rename_i hne
      exact List.forall_mem_singleton.mpr
        ⟨rfl, Action.oneLine_run h (by simpa using hne), fun _ => rfl⟩
  · exact List.forall_mem_singleton.mpr (writes_pushLine 0
      (List.forall_mem_singleton.mpr (Fragment.unbroken_ofValue _ h.unbroken)))
  · exact List.forall_mem_singleton.mpr (writes_pushLine 0
      (List.forall_mem_singleton.mpr (Fragment.unbroken_ofValue false h.unbroken)))

end Node

/-- A comment opens at its own level. -/
theorem Comment.writes_openStatements (comment : Comment) (node : Node) :
    ∀ s ∈ comment.openStatements node, node.Writes s := by
  refine List.forall_mem_cons.mpr ⟨node.writes_pushText _ _, ?_⟩
  split
  · exact List.forall_mem_nil _
  · exact List.forall_mem_singleton.mpr (node.writes_pushText _ _)

/-- An element opens at its own level, on one line for each statement, if its sources have no line
breaks. -/
theorem Element.writes_openStatements {options : Options} {element : Element} {node : Node}
    {hasChildren : Bool} {start : List Statement}
    (hsources : ∀ source ∈ (Content.markup (.element element)).sources, Unbroken source)
    (h : element.openStatements options node hasChildren = .ok start) :
    ∀ s ∈ start, node.Writes s := by
  obtain ⟨hcontent, hvalues⟩ := List.forall_mem_cons.mp hsources
  obtain ⟨attributes, hattributes, hlines⟩ := mem_openStatements h
  intro s hs
  obtain ⟨line, rfl, hline⟩ := hlines s hs
  refine Node.writes_push fun f hf => ?_
  obtain ⟨t, rfl⟩ | hwritten | hinline := hline f hf
  · exact Fragment.unbroken_literal _
  · obtain ⟨u, rfl⟩ | ⟨x, hx, rfl⟩ := Attribute.isWritten_of_mem_serialise hattributes f hwritten
    · exact Fragment.unbroken_literal u
    · exact Fragment.unbroken_ofValue true (hvalues x hx)
  · unfold inlineContent at hinline
    split at hinline
    · rw [List.mem_singleton.mp hinline]
      exact Fragment.unbroken_ofValue _ hcontent
    · rw [List.mem_singleton.mp hinline]
      exact Fragment.unbroken_ofValue false hcontent
    · exact Fragment.unbroken_of_mem_interpolate hcontent f hinline

/-- Markup opens at its own level, on one line for each statement, if its sources have no line
breaks. -/
theorem Markup.writes_openStatements {options : Options} {markup : Markup} {node : Node}
    {hasChildren : Bool} {start : List Statement}
    (hsources : ∀ source ∈ (Content.markup markup).sources, Unbroken source)
    (h : markup.openStatements options node hasChildren = .ok start) :
    ∀ s ∈ start, node.Writes s := by
  cases markup with
  | doctype name =>
    obtain rfl := Except.ok.inj h
    split
    · exact List.forall_mem_nil _
    · exact List.forall_mem_singleton.mpr (node.writes_pushText _ _)
  | literal text =>
    obtain rfl := Except.ok.inj h
    exact List.forall_mem_singleton.mpr (Node.writes_pushLine 0
      (Fragment.unbroken_of_mem_interpolate (hsources text List.mem_cons_self)))
  | element element => exact Element.writes_openStatements hsources h

namespace FilterKind

variable {node : Node} {lines : List FilterText}

/-- The content lines of a filter are written at its level. -/
theorem writes_contentStatements (extra : Nat) (escape : Bool)
    (h : ∀ line ∈ lines, Flush line.text) :
    ∀ s ∈ contentStatements node extra escape lines, node.Writes s := by
  refine List.forall_mem_map.mpr fun line hline => ?_
  have hparts : ∀ f ∈ Fragment.interpolate escape line.text, Unbroken f.expression :=
    Fragment.unbroken_of_mem_interpolate (h line hline).unbroken
  unfold contentStatement
  split
  · exact Node.writes_push (List.forall_mem_nil _)
  · refine Node.writes_push (List.forall_mem_cons.mpr ⟨Fragment.unbroken_literal _, ?_⟩)
    split
    · refine List.forall_mem_map.mpr fun f hf => ?_
      cases f with
      | literal t => exact Fragment.unbroken_literal _
      | _ => exact hparts _ hf
    · exact hparts

/-- Lines around others are written at the same level. -/
theorem writes_wrapped (before after : Text) {body : List Statement}
    (h : ∀ s ∈ body, node.Writes s) : ∀ s ∈ wrapped node before after body, node.Writes s :=
  List.forall_mem_cons.mpr ⟨node.writes_pushText _ _, List.forall_mem_append.mpr
    ⟨h, List.forall_mem_singleton.mpr (node.writes_pushText _ _)⟩⟩

/-- Embedded content is written at the level of its filter. -/
theorem writes_embedded (format : Format) (before after : Text)
    (h : ∀ line ∈ lines, Flush line.text) :
    ∀ s ∈ embedded format node lines before after, node.Writes s := by
  have hbody : ∀ s ∈ contentStatements node 1 false lines, node.Writes s :=
    writes_contentStatements 1 false h
  unfold embedded
  split
  · exact List.forall_mem_cons.mpr ⟨node.writes_pushText _ _, List.forall_mem_append.mpr
      ⟨hbody, List.forall_mem_singleton.mpr (node.writes_pushText _ _)⟩⟩
  · exact hbody

/-- The statements of a filter are lines at its level. -/
theorem writes_statements (format : Format) {kind : FilterKind}
    (hkind : node.content = .filter (.header kind)) (h : ∀ line ∈ lines, Flush line.text) :
    ∀ s ∈ kind.statements format node lines, node.Writes s := by
  cases kind with
  | plain => exact writes_contentStatements 0 false h
  | escaped => exact writes_contentStatements 0 true h
  | preserve =>
    refine List.forall_mem_singleton.mpr
      (Node.writes_pushLine 0 (Fragment.unbroken_of_mem_interpolate ?_))
    refine Text.unbroken_intercalate (by decide) (List.forall_mem_map.mpr fun line hline => ?_)
    exact Text.unbroken_append.mpr ⟨Text.unbroken_replicate _, (h line hline).unbroken⟩
  | cdata => exact writes_wrapped _ _ (writes_contentStatements 1 false h)
  | css => exact writes_wrapped _ _ (writes_embedded format _ _ h)
  | javascript => exact writes_wrapped _ _ (writes_embedded format _ _ h)
  | python =>
    refine List.forall_mem_map.mpr fun line hline => ?_
    obtain ⟨hmem, hne⟩ := List.mem_filter.mp hline
    exact ⟨rfl, Action.oneLine_raw _ (h line hmem) (by simpa using hne), fun hother =>
      absurd hkind hother⟩

end FilterKind

/-- Each content line has the text of a node. -/
theorem FilterText.text_of_mem_ofNodes {nodes : List Node} {line : FilterText}
    (h : line ∈ ofNodes nodes) : ∃ node ∈ nodes, line.text = node.expression := by
  have hmem := List.mem_reverse.mp (List.dropWhile_subset _ (List.mem_reverse.mp h))
  obtain ⟨node, hnode, rfl⟩ := List.mem_map.mp hmem
  exact ⟨node, hnode, text_ofNode _ node⟩

namespace Tree

variable {tree : Tree} {options : Options} {i : Nat}

/-- The content of a filter is written flush. -/
theorem flush_of_mem_filterLines (h : ∀ j, (tree.nodeAt j).Legible) :
    ∀ line ∈ Branch.filterLines (tree.below i), Flush line.text := by
  intro line hline
  obtain ⟨node, hnode, heq⟩ := FilterText.text_of_mem_ofNodes hline
  obtain ⟨entry, hentry, rfl⟩ := List.mem_map.mp hnode
  have hbelow : entry ∈ Branch.nodesOfAll (tree.branch i (tree.nodeAt i)).children := by
    rw [branch_eq_below]
    exact List.mem_mergeSort.mp hentry
  obtain ⟨j, -, -, rfl⟩ := mem_nodesOfAll_children.mp hbelow
  rw [heq]
  exact (h j).flush

/-- The statements that open a node are lines at its level. -/
theorem Traces.writes_opened (ht : tree.Traces options i) (h : ∀ j, (tree.nodeAt j).Legible) :
    ∀ s ∈ tree.opened options i, (tree.nodeAt i).Writes s := by
  have hopening := ht.cases.1
  unfold Branch.opening at hopening
  split at hopening
  · rw [← Except.ok.inj hopening]
    exact List.forall_mem_nil _
  · rw [← Except.ok.inj hopening]
    exact Node.writes_textStatements options (h i).flush.unbroken
  · rename_i code hcode
    rw [← Except.ok.inj hopening]
    exact Node.writes_codeStatements options ((h i).flush_code hcode)
  · rename_i comment hcomment
    rw [← Except.ok.inj hopening]
    split
    · exact List.forall_mem_nil _
    · split
      · exact List.forall_mem_singleton.mpr (Node.writes_pushText _ _ _)
      · exact comment.writes_openStatements _
  · rename_i markup hmarkup
    refine Markup.writes_openStatements (fun source hs => (h i).unbroken_source ?_) hopening
    rwa [hmarkup]
  · rw [← Except.ok.inj hopening]
    exact List.forall_mem_nil _
  · rename_i kind hkind
    rw [← Except.ok.inj hopening]
    exact FilterKind.writes_statements options.format hkind (flush_of_mem_filterLines h)

/-- The statements that close a node are lines at its level, but one that stands for an empty block
is in the block. -/
theorem closed_cases {s : Statement} (hs : s ∈ tree.closed options i) :
    ((tree.contentAt i).isCode = true ∧ s = ⟨((tree.nodeAt i).codeLevel + 1).toNat, .pass⟩) ∨
      ((tree.contentAt i).isCode = false ∧ (tree.nodeAt i).Writes s) := by
  rw [contentAt]
  unfold closed Branch.closing at hs
  split at hs
  · rename_i code hcode
    split at hs
    · exact .inl ⟨by rw [hcode]; rfl, List.mem_singleton.mp hs⟩
    · cases hs
  · rename_i comment hcomment
    split at hs
    · cases hs
    · rw [List.mem_singleton.mp hs]
      exact .inr ⟨by rw [hcomment]; rfl, Node.writes_pushText _ _ _⟩
  · rename_i markup hmarkup
    refine .inr ⟨by rw [hmarkup]; rfl, ?_⟩
    cases markup with
    | element element =>
      rw [Markup.closeStatements, Element.closeStatements] at hs
      split at hs
      · cases hs
      · rw [List.mem_singleton.mp hs]
        exact Node.writes_pushText _ _ _
    | _ => cases hs
  · cases hs

end Tree

end Haml
