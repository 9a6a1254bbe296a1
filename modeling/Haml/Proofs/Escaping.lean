import Haml.Proofs.Compilation
import Haml.Proofs.OutputLine

/-!
# Escaped values

With escaping on, the values that a template outputs cannot add markup or end an attribute: the
characters `<`, `>` and `"` of an output line all come from the template. This holds for every line
of a text, of code after `=`, of a comment, of an element whose content is not after `!=`, of a
document type, and of an `escaped` filter. The reason is that such a line is made of literal text
and escaped values alone.
-/

namespace Haml

/-- The characters that start and end tags and attribute values. -/
def Html.isDelimiter (c : CodePoint) : Bool := c == .char '<' || c == .char '>' || c == .char '"'

/-- The entity of a character has none of the delimiters. -/
theorem Html.isDelimiter_of_mem_entity {c d : Char} (h : d ∈ entity c) :
    isDelimiter (.char d) = false := by
  have hnone {t : Text} (ht : t.all (fun d => !isDelimiter (.char d)) = true) (hd : d ∈ t) :
      isDelimiter (.char d) = false := by simpa using List.all_eq_true.mp ht d hd
  unfold entity at h
  split_ifs at h with hamp hless hgreater hquote
  · exact hnone (by decide) h
  · exact hnone (by decide) h
  · exact hnone (by decide) h
  · exact hnone (by decide) h
  · obtain rfl := List.mem_singleton.mp h
    simp_all [isDelimiter]

/-- Escaped text has none of the delimiters. -/
theorem Html.filter_escapeCodes (t : CodeText) : (escapeCodes t).filter isDelimiter = [] := by
  rw [List.filter_eq_nil_iff]
  intro c hc
  obtain ⟨point, -, hc⟩ := List.mem_flatMap.mp hc
  cases point with
  | char d =>
    obtain ⟨e, he, rfl⟩ := List.mem_map.mp hc
    simp [isDelimiter_of_mem_entity he]
  | surrogate offset =>
    obtain rfl := List.mem_singleton.mp hc
    simp [isDelimiter]

namespace Fragment

/-- Literal text, or an escaped value. -/
def isGuarded : Fragment → Bool
  | literal _ | escaped _ => true
  | plain _ | code _ => false

/-- The text of a fragment that does not depend on values. -/
def fixedText : Fragment → CodeText
  | literal t => t
  | _ => []

/-- The delimiters of a guarded line are those of its literal text. -/
theorem filter_output {line : List Fragment} (h : ∀ f ∈ line, f.isGuarded = true)
    (values : Nat → RunTimeValue) :
    (output values line).filter Html.isDelimiter =
      (line.flatMap fixedText).filter Html.isDelimiter := by
  induction line generalizing values with
  | nil => rfl
  | cons f rest ih =>
    obtain ⟨hf, hrest⟩ := List.forall_mem_cons.mp h
    rw [output, List.filter_append, ih hrest, List.flatMap_cons, List.filter_append]
    congr 1
    cases f with
    | literal t => rfl
    | escaped x =>
      rw [shown, RunTimeValue.escaped]
      split
      · rfl
      · exact Html.filter_escapeCodes _
    | _ => cases hf

/-- Interpolation with escaping gives no code that is shown unescaped. -/
theorem isGuarded_of_mem_interpolate {t : Text} {f : Fragment} (h : f ∈ interpolate true t) :
    f.isGuarded = true := by
  obtain ⟨u, rfl⟩ | ⟨x, -, rfl⟩ := isPart_of_mem_interpolate h
  · rfl
  · rfl

/-- Escaping the literal text of a fragment leaves it guarded. -/
theorem isGuarded_escapeLiteral {f : Fragment} (h : f.isGuarded = true) :
    f.escapeLiteral.isGuarded = true := by
  cases f with
  | literal t => rfl
  | _ => exact h

end Fragment

/-- The statement outputs literal text and escaped values only. -/
def Statement.Guarded (s : Statement) : Prop :=
  ∀ line, s.action = .output line → ∀ f ∈ line, f.isGuarded = true

namespace Node

/-- A line of guarded fragments is a guarded statement. -/
theorem guarded_push {node : Node} {line : List Fragment} (h : ∀ f ∈ line, f.isGuarded = true) :
    (node.push line).Guarded := by
  intro other hother
  obtain rfl := Action.output.inj hother
  exact h

/-- Fixed text is a guarded statement. -/
theorem guarded_pushText (node : Node) (extra : Nat) (t : Text) : (node.pushText extra t).Guarded :=
  guarded_push (List.forall_mem_singleton.mpr rfl)

/-- An indented line of guarded fragments is a guarded statement. -/
theorem guarded_pushLine {node : Node} {extra : Nat} {line : List Fragment}
    (h : ∀ f ∈ line, f.isGuarded = true) : (node.pushLine extra line).Guarded :=
  guarded_push (List.forall_mem_cons.mpr ⟨rfl, h⟩)

end Node

/-- Whether all values that a node outputs are escaped when escaping is on. -/
def Content.escapesValues : Content → Bool
  | text | comment _ | markup (.doctype _) | filter (.header .escaped) => true
  | code c => c.marker == .escaped
  | markup (.element e) => e.marker != some .unescaped
  | root | markup (.literal _) | filter _ => false

/-- The content on the line of an element is guarded if values are escaped and it is not marked as
unescaped. -/
theorem Element.isGuarded_of_mem_inlineContent {options : Options} {element : Element}
    (hescape : options.escapeHtml = true) (hm : element.marker ≠ some .unescaped) :
    ∀ f ∈ element.inlineContent options, f.isGuarded = true := by
  rw [inlineContent, hescape]
  split
  · exact List.forall_mem_singleton.mpr rfl
  · contradiction
  · exact fun f hf => Fragment.isGuarded_of_mem_interpolate hf

/-- An element opens with guarded statements if values are escaped and its content is not marked as
unescaped. -/
theorem Element.guarded_of_mem_openStatements {options : Options} {element : Element} {node : Node}
    {hasChildren : Bool} {start : List Statement} (hescape : options.escapeHtml = true)
    (hm : element.marker ≠ some .unescaped)
    (h : element.openStatements options node hasChildren = .ok start) :
    ∀ s ∈ start, s.Guarded := by
  obtain ⟨attributes, hattributes, hlines⟩ := mem_openStatements h
  intro s hs
  obtain ⟨line, rfl, hline⟩ := hlines s hs
  refine Node.guarded_push fun f hf => ?_
  obtain ⟨t, rfl⟩ | hwritten | hinline := hline f hf
  · rfl
  · obtain ⟨u, rfl⟩ | ⟨x, -, rfl⟩ := Attribute.isWritten_of_mem_serialise hattributes f hwritten
    · rfl
    · rfl
  · exact isGuarded_of_mem_inlineContent hescape hm f hinline

/-- A content line of a filter is a guarded statement if values are escaped. -/
theorem FilterKind.guarded_contentStatement (node : Node) (extra : Nat) (line : FilterText) :
    (contentStatement node extra true line).Guarded := by
  unfold contentStatement
  split
  · exact Node.guarded_push (List.forall_mem_nil _)
  · refine Node.guarded_push (List.forall_mem_cons.mpr ⟨rfl, fun f hf => ?_⟩)
    obtain ⟨g, hg, rfl⟩ := List.mem_map.mp hf
    exact Fragment.isGuarded_escapeLiteral (Fragment.isGuarded_of_mem_interpolate hg)

/-- A node that escapes values opens with guarded statements. -/
theorem Branch.guarded_of_mem_opening {options : Options} {node : Node} {children : List Branch}
    {start : List Statement} (hescape : options.escapeHtml = true)
    (hcontent : node.content.escapesValues = true)
    (h : opening options node children = .ok start) : ∀ s ∈ start, s.Guarded := by
  unfold opening at h
  split at h <;> rename_i hnode <;> rw [hnode] at hcontent
  · cases hcontent
  · obtain rfl := Except.ok.inj h
    rw [Node.textStatements, hescape]
    exact List.forall_mem_singleton.mpr
      (Node.guarded_pushLine fun f hf => Fragment.isGuarded_of_mem_interpolate hf)
  · obtain rfl := Except.ok.inj h
    rw [Node.codeStatements, beq_iff_eq.mp hcontent, hescape]
    exact List.forall_mem_singleton.mpr (Node.guarded_pushLine (List.forall_mem_singleton.mpr rfl))
  · obtain rfl := Except.ok.inj h
    split_ifs
    · exact List.forall_mem_nil _
    · exact List.forall_mem_singleton.mpr (Node.guarded_pushText _ _ _)
    · refine List.forall_mem_cons.mpr ⟨Node.guarded_pushText _ _ _, ?_⟩
      split_ifs
      · exact List.forall_mem_nil _
      · exact List.forall_mem_singleton.mpr (Node.guarded_pushText _ _ _)
  · rename_i markup
    cases markup with
    | doctype name =>
      obtain rfl := Except.ok.inj h
      split_ifs
      · exact List.forall_mem_nil _
      · exact List.forall_mem_singleton.mpr (Node.guarded_pushText _ _ _)
    | literal text => cases hcontent
    | element element =>
      exact Element.guarded_of_mem_openStatements hescape (bne_iff_ne.mp hcontent) h
  · cases hcontent
  · rename_i kind
    cases kind with
    | escaped =>
      obtain rfl := Except.ok.inj h
      exact List.forall_mem_map.mpr fun line _ => FilterKind.guarded_contentStatement _ _ line
    | _ => cases hcontent

/-- Every node closes with guarded statements. -/
theorem Branch.guarded_of_mem_closing (node : Node) (children : List Branch)
    (inner : List Statement) : ∀ s ∈ closing node children inner, s.Guarded := by
  unfold closing
  split
  · split_ifs
    · exact List.forall_mem_singleton.mpr fun line hline => by cases hline
    · exact List.forall_mem_nil _
  · split_ifs
    · exact List.forall_mem_nil _
    · exact List.forall_mem_singleton.mpr (Node.guarded_pushText _ _ _)
  · rename_i markup _
    cases markup with
    | element element =>
      rw [Markup.closeStatements, Element.closeStatements]
      split_ifs
      · exact List.forall_mem_nil _
      · exact List.forall_mem_singleton.mpr (Node.guarded_pushText _ _ _)
    | _ => exact List.forall_mem_nil _
  · exact List.forall_mem_nil _

/-- With escaping on, the values at run time decide neither which delimiters a line of such a node
has nor in which order: two runs of a statement differ in other characters only. -/
theorem compile_noninterference {options : Options} {source name nameSpace code : Text}
    (hescape : options.escapeHtml = true) (h : compile options source name nameSpace = .ok code) :
    ∃ c : Compilation options source name nameSpace code,
      ∀ emitted ∈ c.tree.traced options 0, (c.tree.contentAt emitted.index).escapesValues = true →
        ∀ line, emitted.statement.action = .output line → ∀ first second : Nat → RunTimeValue,
          (Fragment.output first line).filter Html.isDelimiter =
            (Fragment.output second line).filter Html.isDelimiter := by
  obtain ⟨c⟩ := nonempty_compilation h
  refine ⟨c, fun emitted he hcontent line hline first second => ?_⟩
  obtain ⟨-, htraces, hown⟩ := c.traces.mem_cases he
  have hguarded : emitted.statement.Guarded := by
    rcases hown with ⟨-, hopened⟩ | ⟨-, hclosed⟩
    · exact Branch.guarded_of_mem_opening hescape hcontent htraces.cases.1 _ hopened
    · exact Branch.guarded_of_mem_closing _ _ _ _ hclosed
  rw [Fragment.filter_output (hguarded line hline), Fragment.filter_output (hguarded line hline)]

/-- A link with a value in an attribute and one in its content. -/
def link : Text := "%a\x7bhref: x\x7d= y".toList

/-- The tree of `link`. -/
def linkTree : Tree := (Template.parse link).toOption.getD Tree.empty

/-- The one output line of `link`. -/
def linkLine : List Fragment :=
  [.text "<a".toList, .text " href=\"".toList, .escaped ['x'], .text ['"'], .text ['>'],
    .escaped ['y'], .text "</a>".toList]

/-- The line shows the value in both places, and two values never differ in the delimiters of the
line. -/
theorem compile_noninterference_link :
    ∃ code, compile {} link "link".toList [] = .ok code ∧
      (linkTree.traced {} 0).map (fun emitted => (emitted.index, emitted.statement.action)) =
        [(1, .output linkLine)] ∧
      (∀ data, Fragment.output (fun _ => .ofData data) linkLine =
        Text.codes ("<a href=\"".toList ++ Html.escapeValue data ++ "\">".toList ++
          Html.escapeValue data ++ "</a>".toList)) ∧
      ∀ first second : Nat → RunTimeValue,
        (Fragment.output first linkLine).filter Html.isDelimiter =
          (Fragment.output second linkLine).filter Html.isDelimiter := by
  have hline : (linkTree.traced {} 0).map
      (fun emitted => (emitted.index, emitted.statement.action)) = [(1, .output linkLine)] := by
    decide +kernel
  have hshown (data : Data) : Fragment.output (fun _ => .ofData data) linkLine =
      Text.codes ("<a href=\"".toList ++ Html.escapeValue data ++ "\">".toList ++
        Html.escapeValue data ++ "</a>".toList) := by
    simp [linkLine, Fragment.output, Fragment.shown, Fragment.text, Fragment.isCode,
      RunTimeValue.escaped_ofData, Text.codes]
  have hok : (compile {} link "link".toList []).isOk = true := by decide +kernel
  cases hcode : compile {} link "link".toList [] with
  | error failure =>
    rw [hcode] at hok
    cases hok
  | ok code =>
    obtain ⟨c, hsame⟩ := compile_noninterference rfl hcode
    have htree : c.tree = linkTree := by rw [linkTree, c.parse_eq]; rfl
    obtain ⟨emitted, hmem, heq⟩ := List.mem_map.mp (hline ▸ List.mem_singleton_self _)
    obtain ⟨hindex, haction⟩ := Prod.mk.inj heq
    refine ⟨code, rfl, hline, hshown, hsame emitted (htree ▸ hmem) ?_ linkLine haction⟩
    rw [htree, hindex]
    decide +kernel

end Haml
