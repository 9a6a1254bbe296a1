import Haml.Proofs.Lines
import Haml.Proofs.StatementLine
import Mathlib.Data.List.Sort

/-!
# Text written verbatim

Any text can be written in a template so that it is output as it stands: a backslash before each
line makes the line plain text, and one before each start of an interpolation makes that literal.
`Text.protect` writes the second, and `interpolate_protect` says that reading a protected text gives
the text back. The template of such a document has one text node for each line, below the root, and
each node outputs its line as one literal.
-/

namespace Haml

open Text (Unbroken)

namespace Text

/-- A character that breaks no line belongs to the first line. -/
theorem splitLines_cons {c : Char} (hc : isLineBreak c = false) (t : Text) :
    splitLines (c :: t) =
      match splitLines t with
      | [] => [[c]]
      | line :: lines => (c :: line) :: lines := by
  have hreturn : c ≠ '\r' := by
    rintro rfl
    exact absurd hc (by decide)
  rw [splitLines.eq_def]
  split
  · contradiction
  · rename_i heq
    exact absurd (List.cons.inj heq).1 hreturn
  · rename_i d rest _ heq
    obtain ⟨rfl, rfl⟩ := List.cons.inj heq
    rw [hc]
    rfl

/-- A line is cut off at its end. -/
theorem splitLines_append {line : Text} (h : Unbroken line) (rest : Text) :
    splitLines (line ++ '\n' :: rest) = line :: splitLines rest := by
  induction line with
  | nil =>
    rw [List.nil_append, splitLines]
    · rfl
    · rintro _ ⟨⟩
  | cons c line ih =>
    obtain ⟨hc, hline⟩ := unbroken_cons.mp h
    rw [List.cons_append, splitLines_cons hc, ih hline]

/-- A text without a line break is one line, unless it is empty. -/
theorem splitLines_of_unbroken {line : Text} (h : Unbroken line) (hne : line ≠ []) :
    splitLines line = [line] := by
  induction line with
  | nil => exact absurd rfl hne
  | cons c line ih =>
    obtain ⟨hc, hline⟩ := unbroken_cons.mp h
    rw [splitLines_cons hc]
    cases line with
    | nil => rfl
    | cons d line => rw [ih hline (List.cons_ne_nil _ _)]

/-- Lines that are not empty are the lines of the text that they are joined to. -/
theorem splitLines_intercalate {lines : List Text} (h : ∀ line ∈ lines, Unbroken line)
    (hne : ∀ line ∈ lines, line ≠ []) : splitLines (List.intercalate ['\n'] lines) = lines := by
  induction lines with
  | nil => rfl
  | cons line lines ih =>
    obtain ⟨hline, hlines⟩ := List.forall_mem_cons.mp h
    obtain ⟨hfirst, hmore⟩ := List.forall_mem_cons.mp hne
    cases lines with
    | nil =>
      rw [List.intercalate_singleton]
      exact splitLines_of_unbroken hline hfirst
    | cons next lines =>
      rw [List.intercalate_cons_cons, List.append_assoc, List.singleton_append,
        splitLines_append hline, ih hlines hmore]

/-- A text with a backslash before each start of an interpolation. -/
def protect : Text → Text
  | [] => []
  | '#' :: '\x7b' :: rest => '\\' :: '#' :: '\x7b' :: protect rest
  | c :: rest => c :: protect rest

/-- Protecting a text adds no line breaks. -/
theorem unbroken_protect {t : Text} (h : Unbroken t) : Unbroken (protect t) := by
  fun_induction protect t with
  | case1 => exact h
  | case2 rest ih =>
    have hrest : Unbroken rest := h.mono fun c hc => by simp [hc]
    exact unbroken_append.mpr ⟨(by decide : Unbroken ['\\', '#', '\x7b']), ih hrest⟩
  | case3 c rest _ ih =>
    obtain ⟨hc, hrest⟩ := unbroken_cons.mp h
    exact unbroken_cons.mpr ⟨hc, ih hrest⟩

/-- Protecting keeps the last character. -/
theorem getLast?_protect (t : Text) : (protect t).getLast? = t.getLast? := by
  fun_induction protect t with
  | case1 => rfl
  | case2 rest ih => simp only [List.getLast?_cons, ih, Option.getD_some]
  | case3 c rest _ ih => rw [List.getLast?_cons, List.getLast?_cons, ih]

/-- A protected text starts with a brace only if the text does. -/
theorem exists_of_protect_eq_brace {t rest : Text} (h : protect t = '\x7b' :: rest) :
    ∃ more, t = '\x7b' :: more := by
  unfold protect at h
  split at h
  · cases h
  · cases h
  · rename_i c more _
    exact ⟨more, by rw [(List.cons.inj h).1]⟩

/-- A protected text does not start with an interpolation. -/
theorem protect_ne (t rest : Text) : protect t ≠ '#' :: '\x7b' :: rest := by
  intro h
  unfold protect at h
  split at h
  · cases h
  · cases h
  · rename_i c more hstart
    obtain ⟨rfl, hbrace⟩ := List.cons.inj h
    obtain ⟨after, rfl⟩ := exists_of_protect_eq_brace hbrace
    exact hstart after rfl rfl

end Text

namespace Fragment

/-- A character that starts neither an interpolation nor a protected one is literal. -/
theorem interpolate_cons (escape : Bool) {c : Char} {t : Text}
    (hprotected : ∀ rest, c :: t ≠ '\\' :: '#' :: '\x7b' :: rest)
    (hstart : ∀ rest, c :: t ≠ '#' :: '\x7b' :: rest) :
    interpolate escape (c :: t) = prepend [c] (interpolate escape t) := by
  rw [interpolate]
  · rintro rest rfl rfl
    exact hprotected rest rfl
  · rintro rest rfl rfl
    exact hstart rest rfl

/-- A protected text is read as the literal text. -/
theorem interpolate_protect (escape : Bool) (t : Text) :
    interpolate escape t.protect = if t.isEmpty then [] else [text t] := by
  fun_induction Text.protect t with
  | case1 => rw [interpolate]; rfl
  | case2 rest ih =>
    rw [interpolate, ih]
    cases rest with
    | nil => rfl
    | cons c rest => rfl
  | case3 c rest hstart ih =>
    rw [interpolate_cons, ih]
    · cases rest with
      | nil => rfl
      | cons d rest => rfl
    · intro more heq
      exact Text.protect_ne rest more (List.cons.inj heq).2
    · intro more heq
      obtain ⟨rfl, hbrace⟩ := List.cons.inj heq
      obtain ⟨after, rfl⟩ := Text.exists_of_protect_eq_brace hbrace
      exact hstart after rfl rfl

/-- A protected text after nothing is output as one literal. -/
theorem toExpression_protect (escape : Bool) (t : Text) :
    toExpression (text [] :: interpolate escape t.protect) = (Text.codes t).quote := by
  rw [interpolate_protect]
  cases t with
  | nil => rfl
  | cons c t => exact List.intercalate_singleton

end Fragment

namespace Verbatim

/-- A line that is output as it stands. -/
def line (t : Text) : Text := '\\' :: t.protect

/-- The template that outputs the lines of a document. -/
def template (document : List Text) : Text := List.intercalate ['\n'] (document.map line)

/-- The node of such a line. -/
def node (t : Text) : Node :=
  { expression := line t, indent := 0, blockLevel := 0, codeLevel := 1, outputLevel := 0,
    parent := some 0, content := .text }

/-- The lines of a document: no line break is in them and no blank at their end. -/
def IsLine (t : Text) : Prop := Unbroken t ∧ ∀ c ∈ t.getLast?, Text.isBlank c = false

instance (t : Text) : Decidable (IsLine t) :=
  decidable_of_iff (Unbroken t ∧ t.getLast?.all (fun c => !Text.isBlank c) = true)
    (by cases h : t.getLast? <;> simp [IsLine, h])

variable {t : Text} {document : List Text}

/-- The line that is written for a text has no blanks around it. -/
theorem trim_line (h : IsLine t) : Text.trim (line t) = line t := by
  refine Text.trim_eq_self (fun c hc => ?_) fun c hc => ?_
  · obtain rfl := Option.some.inj hc
    decide
  · rw [line, List.getLast?_cons, Text.getLast?_protect] at hc
    cases hlast : t.getLast? with
    | none =>
      rw [hlast] at hc
      obtain rfl := Option.some.inj hc
      decide
    | some d =>
      rw [hlast] at hc
      obtain rfl := Option.some.inj hc
      exact h.2 d hlast

/-- The template of a document has one line for each of its own. -/
theorem splitLines_template (h : ∀ t ∈ document, IsLine t) :
    Text.splitLines (template document) = document.map line := by
  refine Text.splitLines_intercalate (List.forall_mem_map.mpr fun t ht => ?_)
    (List.forall_mem_map.mpr fun t _ => List.cons_ne_nil _ _)
  exact Text.unbroken_cons.mpr ⟨by decide, Text.unbroken_protect (h t ht).1⟩

/-- A line that is output as it stands opens no attribute list. -/
theorem not_continues (t next : Text) : LogicalLine.continues (line t) next = false := by
  simp [LogicalLine.continues, line, Element.opensAttributeList, Element.hasHead, Element.tag?,
    Element.shorthands, Element.isShorthandMark]

/-- One more line of the document is one more text node below the root. -/
theorem step_line {tree : Tree} (h : tree.Rooted) (number : Nat) (t : Text) :
    Nesting.step ⟨tree, 0, []⟩ ⟨number, 0, line t⟩ = .ok ⟨tree.add (node t), 0, []⟩ := by
  have hlevel : Nesting.levelAt ⟨tree, 0, []⟩ 0 = 0 := Nat.zero_div _
  have hfault : Nesting.fault? ⟨tree, 0, []⟩ 0 = none := by
    refine Nesting.fault?_eq_none_iff.mpr ⟨rfl, ?_, ?_⟩
    · rw [hlevel]
      exact fun h => absurd h (Nat.not_lt_zero _)
    · rw [hlevel]
      exact fun h => absurd h (Nat.not_lt_zero _)
  have hmove : Nesting.moveTo ⟨tree, 0, []⟩ 0 = ⟨tree, 0, []⟩ := by
    rw [Nesting.moveTo, hlevel]
    rfl
  have hparent : Nesting.parent ⟨tree, 0, []⟩ = 0 := rfl
  have hnode : Nesting.lineNode ⟨tree, 0, []⟩ ⟨number, 0, line t⟩ = node t := by
    rw [Nesting.lineNode, hparent]
    dsimp only
    rw [h.nodeAt_zero, h.topOf?_zero]
    rfl
  have hne : line t ≠ [] := List.cons_ne_nil _ _
  rw [Nesting.step]
  dsimp only
  rw [if_neg hne, hfault]
  dsimp only
  rw [hmove, hnode]
  rfl

/-- The lines of the document are so many text nodes below the root. -/
theorem foldlM_step {tree : Tree} (h : tree.Rooted) (hlines : ∀ t ∈ document, IsLine t)
    (number : Nat) :
    (LogicalLine.ofLines number (document.map line)).foldlM Nesting.step ⟨tree, 0, []⟩ =
      .ok ⟨(document.map node).foldl Tree.add tree, 0, []⟩ := by
  induction document generalizing tree number with
  | nil =>
    rw [List.map_nil, LogicalLine.ofLines_nil, List.foldlM_nil]
    rfl
  | cons t document ih =>
    obtain ⟨ht, hdocument⟩ := List.forall_mem_cons.mp hlines
    have hindent : (LogicalLine.indentation (line t)).length = 0 := rfl
    have hrooted : (tree.add (node t)).Rooted := h.add h.size_pos rfl
    rw [List.map_cons, LogicalLine.ofLines_cons_of_not_continues, List.foldlM_cons, hindent,
      trim_line ht, step_line h]
    · exact ih hrooted hdocument (number + 1)
    · rw [trim_line ht]
      exact fun next _ => not_continues t next

/-- The root with a text node for each line. -/
def tree (document : List Text) : Tree := (document.map node).foldl Tree.add Nesting.start.tree

/-- The template of a document is parsed to its tree. -/
theorem parse_template (h : ∀ t ∈ document, IsLine t) :
    Template.parse (template document) = .ok (tree document) := by
  refine Nesting.build_eq_ok_iff.mpr ⟨⟨tree document, 0, []⟩, ?_, rfl⟩
  rw [splitLines_template h]
  exact foldlM_step Nesting.sound_start.rooted h 0

/-- The nodes of a tree that grew by one node after the other. -/
theorem nodes_foldl_add (nodes : List Node) (tree : Tree) :
    (nodes.foldl Tree.add tree).nodes.toList = tree.nodes.toList ++ nodes := by
  induction nodes generalizing tree with
  | nil => rw [List.foldl_nil, List.append_nil]
  | cons node nodes ih =>
    rw [List.foldl_cons, ih, Tree.add, Array.toList_push, List.append_assoc, List.singleton_append]

/-- The nodes of the document's tree. -/
theorem nodes_tree (document : List Text) :
    (tree document).nodes.toList = Node.root :: document.map node :=
  nodes_foldl_add (document.map node) Nesting.start.tree

/-- The tree of a document has a node for each line, and the root. -/
theorem size_tree (document : List Text) : (tree document).size = document.length + 1 := by
  rw [Tree.size, ← Array.length_toList, nodes_tree, List.length_cons, List.length_map]

/-- The nodes of a document are those of its lines. -/
theorem nodeAt_tree {i : Nat} (hi : i < document.length) :
    (tree document).nodeAt (i + 1) = node document[i] := by
  refine Tree.nodeAt_of_get? ?_
  rw [Tree.get?, ← Array.getElem?_toList, nodes_tree]
  simp [hi]

/-- Every line is below the root. -/
theorem parent?_tree {j : Nat} (hpos : 0 < j) (hj : j ≤ document.length) :
    (tree document).parent? j = some 0 := by
  obtain ⟨i, rfl⟩ := Nat.exists_eq_succ_of_ne_zero hpos.ne'
  rw [Tree.parent?_eq (by rw [size_tree]; omega), nodeAt_tree (by omega)]
  rfl

/-- All lines are below the root. -/
theorem children_zero (document : List Text) :
    (tree document).children 0 = List.range' 1 document.length := by
  refine (Tree.pairwise_children _ 0).eq_of_mem_iff List.pairwise_lt_range' ?_
  intro j
  rw [Tree.mem_children, List.mem_range'_1, size_tree]
  constructor
  · rintro ⟨hpos, hlt, -⟩
    omega
  · rintro ⟨hpos, hlt⟩
    exact ⟨hpos, by omega, parent?_tree hpos (by omega)⟩

/-- Nothing is below a line. -/
theorem children_pos {i : Nat} (hi : 0 < i) : (tree document).children i = [] := by
  refine List.eq_nil_iff_forall_not_mem.mpr fun j hj => ?_
  obtain ⟨hij, hlt, hparent⟩ := Tree.mem_children.mp hj
  rw [size_tree] at hlt
  rw [parent?_tree (by omega) (by omega)] at hparent
  exact hi.ne (Option.some.inj hparent)

/-- The nodes below the root are those of the lines, in order. -/
theorem map_nodeAt (document : List Text) :
    (List.range' 1 document.length).map (tree document).nodeAt = document.map node := by
  refine List.ext_getElem (by simp) fun i hi _ => ?_
  rw [List.getElem_map, List.getElem_map, List.getElem_range', Nat.one_mul, Nat.add_comm,
    nodeAt_tree]

/-- The statement of a line outputs the line as one literal. -/
theorem textStatements_node (options : Options) (t : Text) :
    ((node t).textStatements options).flatMap Statement.text =
      codeIndent ++ "o.append(".toList ++ (Text.codes t).quote ++ ")\n".toList := by
  have hplain : List.isPrefixOf "#\x7b".toList t.protect = false := by
    refine Bool.eq_false_iff.mpr fun h => ?_
    obtain ⟨rest, heq⟩ := List.isPrefixOf_iff_prefix.mp h
    exact Text.protect_ne t rest heq.symm
  have htext : (node t).textStatements options =
      [(node t).pushLine 0 (Fragment.interpolate options.escapeHtml t.protect)] := by
    have hread : (node t).textStatements options = [(node t).pushLine 0
        (Fragment.interpolate options.escapeHtml
          (if List.isPrefixOf "#\x7b".toList t.protect then line t else t.protect))] := rfl
    rw [hread, hplain]
    rfl
  have haction : ((node t).pushLine 0 (Fragment.interpolate options.escapeHtml t.protect)).text =
      codeIndent ++ ("o.append(".toList ++ Fragment.toExpression
        (.text [] :: Fragment.interpolate options.escapeHtml t.protect) ++ [')']) ++ ['\n'] := rfl
  rw [htext, List.flatMap_singleton, haction, Fragment.toExpression_protect]
  simp only [List.append_assoc]
  rfl

end Verbatim

namespace Branch

/-- Text lines with nothing below them are rendered one after the other. -/
theorem statementsOfAll_text (options : Options) (nodes : Nat → Node) {list : List Nat}
    (h : ∀ j ∈ list, (nodes j).content = .text) :
    statementsOfAll options (list.map fun j => mk j (nodes j) []) =
      .ok ((list.map nodes).flatMap (Node.textStatements options)) ∧
    reachOfAll (list.map fun j => mk j (nodes j) []) ≤ 1 := by
  induction list with
  | nil => exact ⟨by rw [List.map_nil, statementsOfAll]; rfl, by simp [reachOfAll]⟩
  | cons j list ih =>
    obtain ⟨hj, hlist⟩ := List.forall_mem_cons.mp h
    obtain ⟨hstatements, hreach⟩ := ih hlist
    constructor
    · rw [List.map_cons, statementsOfAll, hstatements, statements, hj, statementsOfAll]
      rfl
    · rw [List.map_cons, reachOfAll, reach, hj, reachOfAll]
      exact Nat.max_le.mpr ⟨le_rfl, hreach⟩

end Branch

namespace Verbatim

variable {document : List Text}

/-- The tree of a document has a root. -/
theorem rooted_tree (h : ∀ t ∈ document, IsLine t) : (tree document).Rooted := by
  obtain ⟨n, hrun, htree⟩ := Nesting.exists_run (parse_template h)
  exact htree ▸ (Nesting.reads_run hrun).1.rooted

/-- The nodes below the root are text. -/
theorem contentAt_child {i : Nat} (hi : i ∈ List.range' 1 document.length) :
    ((tree document).nodeAt i).content = .text := by
  obtain ⟨hpos, hlt⟩ := List.mem_range'_1.mp hi
  obtain ⟨k, rfl⟩ := Nat.exists_eq_succ_of_ne_zero (Nat.one_le_iff_ne_zero.mp hpos)
  rw [nodeAt_tree (by omega)]
  rfl

/-- The code of the tree is one statement for each line. -/
theorem code_tree (options : Options) (h : ∀ t ∈ document, IsLine t) :
    (tree document).code options 0 = .ok ((document.map fun t => (Text.codes t).quote).flatMap
      fun e => codeIndent ++ "o.append(".toList ++ e ++ ")\n".toList) := by
  have hleaves : (tree document).below 0 = (List.range' 1 document.length).map fun j =>
      .mk j ((tree document).nodeAt j) [] := by
    rw [Tree.below, children_zero]
    refine List.map_congr_left fun j hj => ?_
    rw [Tree.branch_eq_below, Tree.below, children_pos (List.mem_range'_1.mp hj).1]
    rfl
  obtain ⟨hstatements, hreach⟩ := Branch.statementsOfAll_text options (tree document).nodeAt
    fun j hj => contentAt_child hj
  rw [map_nodeAt] at hstatements
  refine (rooted_tree h).code_eq_ok_iff.mpr
    ⟨?_, (document.map node).flatMap (Node.textStatements options), ?_, ?_⟩
  · rw [Tree.branch_eq_below, hleaves]
    exact (Nat.succ_le_succ hreach).trans (by decide)
  · rw [Tree.branch_eq_below, hleaves]
    exact hstatements
  · rw [List.flatMap_assoc, List.flatMap_map, List.flatMap_map]
    exact List.flatMap_congr fun t _ => (textStatements_node options t).symm

end Verbatim

/-- A document of which no line ends in a blank is output as it stands by the template with a
backslash before each line and before each start of an interpolation. -/
theorem parse_verbatim (options : Options) {document : List Text}
    (h : ∀ t ∈ document, Verbatim.IsLine t) :
    ∃ tree, Template.parse (Verbatim.template document) = .ok tree ∧
      tree.size = document.length + 1 ∧ tree.children 0 = List.range' 1 document.length ∧
      (∀ i ∈ tree.children 0, tree.contentAt i = .text) ∧
      ∃ expressions : List Text,
        tree.code options 0 = .ok (expressions.flatMap fun e =>
          codeIndent ++ "o.append(".toList ++ e ++ ")\n".toList) ∧
        (∀ e ∈ expressions, Unbroken e) ∧
        expressions.map Literal.read =
          document.map fun t => .ok (some (.text (Text.codes t))) := by
  refine ⟨Verbatim.tree document, Verbatim.parse_template h, Verbatim.size_tree document,
    Verbatim.children_zero document, ?_, _, Verbatim.code_tree options h, ?_, ?_⟩
  · rw [Verbatim.children_zero]
    exact fun i hi => Verbatim.contentAt_child hi
  · exact List.forall_mem_map.mpr fun t _ => Fragment.unbroken_literal _
  · rw [List.map_map]
    exact List.map_congr_left fun t _ => Literal.read_quote _

/-- Lines that would be markup, interpolations or blank. -/
def markerLines : List Text :=
  ["%p#\x7bx\x7d".toList, [], "  \\#\x7b".toList, "##\x7b\x7b".toList, "\\".toList]

/-- These lines are read back as they stand. -/
theorem parse_verbatim_markers :
    Verbatim.template markerLines =
        "\\%p\\#\x7bx\x7d\n\\\n\\  \\\\#\x7b\n\\#\\#\x7b\x7b\n\\\\".toList ∧
      ∃ tree, Template.parse (Verbatim.template markerLines) = .ok tree ∧
        ∃ expressions : List Text,
          tree.code {} 0 = .ok (expressions.flatMap fun e =>
            codeIndent ++ "o.append(".toList ++ e ++ ")\n".toList) ∧
          expressions.map Literal.read =
            markerLines.map fun t => .ok (some (.text (Text.codes t))) := by
  obtain ⟨tree, hparse, -, -, -, expressions, hcode, -, hread⟩ :=
    parse_verbatim {} fun t ht =>
      of_decide_eq_true (List.all_eq_true.mp (by decide +kernel :
        markerLines.all (fun t => decide (Verbatim.IsLine t)) = true) t ht)
  exact ⟨by decide, tree, hparse, expressions, hcode, hread⟩

end Haml
