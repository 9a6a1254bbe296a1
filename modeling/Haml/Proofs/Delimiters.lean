import Haml.Proofs.BlockIndentation

/-!
# The delimiters in the output

What starts and ends an element or a comment is read off the lines that are output. A line at the
indentation of its node is a start if it begins like a tag or a comment, and an end if it ends like
one; a line after all those below a node is always an end. An element without an end tag has no
start, since it needs no end, so that an end after it would be one too many. Only the text that a
template asks for as it stands is not looked at.

Each node outputs what it should: an element with an end tag and a comment their two delimiters,
both at the level and the indentation of the node, and every other node none.
-/

namespace Haml

/-- The start or the end of an element or a comment in the output. -/
structure Delimiter where
  /-- The index of the node. -/
  index : Nat
  /-- Whether it is the start. -/
  opens : Bool
  /-- The code level of its statement. -/
  level : Nat
  /-- The blanks before it on its line of output. -/
  indent : Nat
deriving DecidableEq, Repr

namespace Action

/-- The blanks at the start of an output line. -/
def indent : Action → Nat
  | output (.literal t :: _) => (t.takeWhile (· == .char ' ')).length
  | _ => 0

/-- The first text of an output line, without its indentation. -/
def first : Action → CodeText
  | output (.literal t :: _) => t.dropWhile (· == .char ' ')
  | _ => []

/-- The last text of an output line, without blanks before it. -/
def last : Action → CodeText
  | output line =>
    match line.getLast? with
    | some (.literal t) => t.dropWhile (· == .char ' ')
    | _ => []
  | _ => []

/-- Whether the action outputs a line. -/
def isOutput : Action → Bool
  | output _ => true
  | _ => false

end Action

/-- What follows the bracket of an end tag, of a comment or a document type, and of a declaration of
another kind. -/
def CodeText.marks : List Char := ['/', '!', '?']

/-- Whether a text begins like a start tag: with a bracket and none of these marks after it. -/
def CodeText.isStartTag (t : CodeText) : Bool :=
  List.isPrefixOf (Text.codes ['<']) t &&
    marks.all fun c => !List.isPrefixOf (Text.codes ['<', c]) t

/-- Whether a text begins like an end tag. -/
def CodeText.isEndTag (t : CodeText) : Bool := List.isPrefixOf (Text.codes ['<', '/']) t

/-- Characters are equal as code points exactly if they are equal. -/
theorem CodePoint.char_beq_char (c d : Char) : (char c == char d) = (c == d) := by
  rw [Bool.eq_iff_iff, beq_iff_eq, beq_iff_eq, char.injEq]

/-- What follows the bracket decides. -/
theorem CodeText.isStartTag_codes (c : Char) (rest : Text) :
    (Text.codes ('<' :: c :: rest)).isStartTag = !marks.contains c := by
  rw [Bool.eq_iff_iff]
  simp [isStartTag, marks, Text.codes, List.isPrefixOf, CodePoint.char_beq_char, Bool.beq_comm]

namespace Content

/-- Whether an output line is the start of its node: it begins like a start tag or like a comment.
An element without an end tag has no start. -/
def opens : Content → Action → Bool
  | markup (.element e), line => !e.selfClosing && line.first.isStartTag
  | markup (.doctype _), line => line.first.isStartTag
  | comment _, line => List.isPrefixOf (Text.codes "<!--".toList) line.first
  | _, _ => false

/-- Whether an output line is the end of its node: its last text is an end tag, or ends like a
comment. -/
def ends : Content → Action → Bool
  | markup (.element _), line | markup (.doctype _), line => line.last.isEndTag
  | comment _, line => List.isSuffixOf (Text.codes "-->".toList) line.last
  | _, _ => false

/-- What should stand at the start and at the end of a node in the output. An element without an end
tag and a silent comment have neither. -/
def tags? : Content → Option (Text × Text)
  | markup (.element e) => if e.selfClosing then none else some ('<' :: e.tag, e.endTag)
  | comment c => if c.silent then none else some (c.opening, c.closing)
  | _ => none

/-- The output line for what is written on the line of an element or a comment itself, when other
lines are below it, and for a declaration and a line that is output as it stands. -/
def inner (options : Options) (node : Node) : Content → List Statement
  | markup (.element e) => [node.pushLine 1 (e.inlineContent options)]
  | markup (.doctype name) => [node.pushText 0 (Markup.declaration options.format name)]
  | markup (.literal t) => [node.pushLine 0 (Fragment.interpolate false t)]
  | comment c => [node.pushText 1 c.text]
  | _ => []

end Content

/-- A delimiter that a statement outputs. -/
def Emitted.delimiter (e : Emitted) (opens : Bool) : Delimiter :=
  ⟨e.index, opens, e.statement.level, e.statement.action.indent⟩

/-- The delimiters that a statement outputs. A line after those below its node is an end, and a line
before them is what it looks like, if it is at the indentation of the node. -/
def Tree.delimiters (tree : Tree) (e : Emitted) : List Delimiter :=
  if e.closes then
    if e.statement.action.isOutput then [e.delimiter false] else []
  else if e.statement.action.indent = 2 * (tree.nodeAt e.index).outputLevel.toNat then
    (if (tree.contentAt e.index).opens e.statement.action then [e.delimiter true] else []) ++
      if (tree.contentAt e.index).ends e.statement.action then [e.delimiter false] else []
  else []

/-- Each start is ended by the same node, at the same code level and with the same indentation, and
what is between the two is well nested. -/
inductive WellNested : List Delimiter → Prop
  | nil : WellNested []
  | pair {index level indent : Nat} {inner rest : List Delimiter} (hinner : WellNested inner)
      (hrest : WellNested rest) :
      WellNested (⟨index, true, level, indent⟩ :: (inner ++ ⟨index, false, level, indent⟩ :: rest))

namespace WellNested

/-- Two well nested sequences of delimiters are well nested in a row. -/
theorem append {first second : List Delimiter} (h : WellNested first)
    (hsecond : WellNested second) : WellNested (first ++ second) := by
  induction h with
  | nil => exact hsecond
  | pair hinner _ _ ih =>
    rw [List.cons_append, List.append_assoc, List.cons_append]
    exact .pair hinner ih

/-- Runs one after the other are well nested when each of them is. -/
theorem flatMap_flatten {α : Type} {f : α → List Delimiter} {runs : List (List α)}
    (h : ∀ run ∈ runs, WellNested (run.flatMap f)) : WellNested (runs.flatten.flatMap f) := by
  induction runs with
  | nil => exact .nil
  | cons run runs ih =>
    obtain ⟨hrun, hruns⟩ := List.forall_mem_cons.mp h
    rw [List.flatten_cons, List.flatMap_append]
    exact hrun.append (ih hruns)

end WellNested

/-- The statement outputs a line of the node that begins and ends with given texts, after the
indentation of the node. -/
structure Node.Bounds (node : Node) (first last : Text) (s : Statement) : Prop where
  /-- It is at the level of the node. -/
  level : s.level = node.blocks
  /-- Its line is indented as far as the node. -/
  indent : s.action.indent = 2 * node.outputLevel.toNat
  /-- The line that it outputs. -/
  line : ∃ line, s.action = .output line ∧ ∀ values,
    Text.codes (node.margin 0 ++ first) <+: Fragment.output values line ∧
      Text.codes last <:+ Fragment.output values line

/-- A line of output starts and ends its node, as far as told. -/
structure Node.Marks (node : Node) (opens ends : Bool) (s : Statement) : Prop where
  /-- Whether it looks like a start. -/
  opens : node.content.opens s.action = opens
  /-- Whether it looks like an end. -/
  ends : node.content.ends s.action = ends

/-- No blanks are dropped where there are none. -/
theorem Text.dropWhile_codes {t : Text} (h : t.head? ≠ some ' ') :
    (Text.codes t).dropWhile (· == .char ' ') = Text.codes t := by
  cases t with
  | nil => rfl
  | cons c t =>
    have hc : c ≠ ' ' := fun heq => h (congrArg some heq)
    simp [codes, hc]

namespace Node

variable {node : Node} {first last : Text} {s : Statement}

/-- The indentation of the output is made of blanks. -/
theorem blank_of_mem_margin {extra : Nat} {c : Char} (hc : c ∈ node.margin extra) :
    (c == ' ') = true :=
  List.all_eq_true.mp (by decide : htmlIndent.all (· == ' ') = true) c (Text.times_subset _ _ hc)

/-- Without the blanks of the indentation a line is its text. -/
theorem dropWhile_margin (node : Node) (extra : Nat) {t : Text} (h : t.head? ≠ some ' ') :
    (Text.codes (node.margin extra ++ t)).dropWhile (· == .char ' ') = Text.codes t := by
  have hblank : ∀ c ∈ (node.margin extra).map CodePoint.char, (c == .char ' ') = true := by
    refine List.forall_mem_map.mpr fun c hc => ?_
    rw [eq_of_beq (blank_of_mem_margin hc)]
    rfl
  rw [Text.codes, List.map_append, List.dropWhile_append_of_pos hblank]
  exact Text.dropWhile_codes h

/-- The first text of a line, after its indentation. -/
theorem first_push (node : Node) (extra : Nat) {t : Text} (h : t.head? ≠ some ' ')
    (rest : List Fragment) :
    (node.push (.text (node.margin extra ++ t) :: rest)).action.first = Text.codes t :=
  node.dropWhile_margin extra h

/-- The last text of a line, without blanks before it. -/
theorem last_push (node : Node) (line : List Fragment) (t : Text) :
    (node.push (line ++ [.text t])).action.last =
      (Text.codes t).dropWhile (· == .char ' ') := by
  rw [push, Action.last, List.getLast?_concat]
  rfl

/-- The one text of a line of fixed text. -/
theorem last_pushText (node : Node) (extra : Nat) {t : Text} (h : t.head? ≠ some ' ') :
    (node.pushText extra t).action.last = Text.codes t :=
  (node.last_push [] _).trans (node.dropWhile_margin extra h)

/-- The indentation of a line of output. -/
theorem indent_push (node : Node) (extra : Nat) (t : Text) (rest : List Fragment) :
    (node.push (.text (node.margin extra ++ t) :: rest)).action.indent =
      2 * (node.outputLevel + extra).toNat + (t.takeWhile (· == ' ')).length := by
  have hcode : (fun c => CodePoint.char c == .char ' ') = fun c => c == ' ' :=
    funext fun c => CodePoint.char_beq_char c ' '
  have hindent : (node.push (.text (node.margin extra ++ t) :: rest)).action.indent =
      ((Text.codes (node.margin extra ++ t)).takeWhile (· == .char ' ')).length := rfl
  have hwidth : (node.margin extra).length = 2 * (node.outputLevel + extra).toNat := by
    rw [margin, Text.length_times, Nat.mul_comm]
    rfl
  rw [hindent, Text.codes, List.takeWhile_map, List.length_map, Function.comp_def, hcode,
    List.takeWhile_append_of_pos fun c => blank_of_mem_margin, List.length_append, hwidth]

/-- A line that starts and ends with more starts and ends with less. -/
theorem Bounds.weaken (h : node.Bounds first last s) {first' last' : Text}
    (hfirst : first' <+: first) (hlast : last' <:+ last) : node.Bounds first' last' s := by
  obtain ⟨line, hs, hline⟩ := h.line
  refine ⟨h.level, h.indent, line, hs, fun values => ?_⟩
  obtain ⟨hstart, hend⟩ := hline values
  exact ⟨(((List.prefix_append_right_inj _).mpr hfirst).map _).trans hstart,
    (hlast.map _).trans hend⟩

/-- A line of output begins with its first text. -/
theorem bounds_push (hfirst : first.head? ≠ some ' ') (rest : List Fragment)
    (hlast : ∀ values,
      Text.codes last <:+ Fragment.output values (.text (node.margin 0 ++ first) :: rest)) :
    node.Bounds first last (node.push (.text (node.margin 0 ++ first) :: rest)) := by
  refine ⟨rfl, ?_, _, rfl, fun values => ⟨List.prefix_append _ _, hlast values⟩⟩
  have hblanks : first.takeWhile (· == ' ') = [] := by
    cases first with
    | nil => rfl
    | cons c first => exact List.takeWhile_cons_of_neg (by simpa using hfirst)
  rw [indent_push, hblanks]
  simp

/-- A line of fixed text begins and ends with it. -/
theorem bounds_pushText (hfirst : first.head? ≠ some ' ') :
    node.Bounds first first (node.pushText 0 first) := by
  refine bounds_push hfirst [] fun values => ?_
  rw [Fragment.output, Fragment.output, List.append_nil, Fragment.text, Fragment.shown, Text.codes,
    Text.codes, List.map_append]
  exact List.suffix_append _ _

/-- A line some levels further in is indented further. -/
theorem indent_pushText_one (hlevel : 0 ≤ node.outputLevel) (t : Text) :
    2 * node.outputLevel.toNat < (node.pushText 1 t).action.indent := by
  rw [pushText, indent_push]
  omega

/-- A line one level down is indented by more than the output of its node. -/
theorem indent_pushLine_one (hlevel : 0 ≤ node.outputLevel) (line : List Fragment) :
    2 * node.outputLevel.toNat < (node.pushLine 1 line).action.indent := by
  rw [pushLine, ← List.append_nil (node.margin 1), indent_push]
  omega

end Node

/-- Fixed text that a line ends with ends its output. -/
theorem Fragment.codes_suffix_output (values : Nat → RunTimeValue) (line : List Fragment)
    (t : Text) : Text.codes t <:+ output values (line ++ [.text t]) := by
  induction line generalizing values with
  | nil =>
    rw [List.nil_append, output, output, List.append_nil]
    exact List.suffix_rfl
  | cons f line ih =>
    rw [List.cons_append, output]
    exact (ih _).trans (List.suffix_append _ _)

namespace Element

variable {element : Element} {line : Action}

/-- A tag does not begin with such a mark. -/
theorem not_mark_head?_ofLine (line : Text) :
    ∀ c ∈ (ofLine line).tag.head?, c ∉ CodeText.marks := by
  have htag : (ofLine line).tag = (tag? line).getD "div".toList := rfl
  have hmarks : (CodeText.marks.all fun c => !Text.isTagChar c) = true := by decide +kernel
  have hdiv : ∀ c ∈ "div".toList.head?, c ∉ CodeText.marks := by
    rintro c ⟨⟩
    decide
  rw [htag, tag?.eq_def]
  split
  · split
    · intro c hc hmark
      have hchar : Text.isTagChar c = true := List.mem_takeWhile_imp (List.mem_of_mem_head? hc)
      have hother : (!Text.isTagChar c) = true := List.all_eq_true.mp hmarks c hmark
      rw [hchar] at hother
      cases hother
    · exact hdiv
  · exact hdiv

/-- A line that begins with the tag is the start of an element that has an end tag. -/
theorem opens_of_first (hself : element.selfClosing = false)
    (htag : ∀ c ∈ element.tag.head?, c ∉ CodeText.marks)
    (h : line.first = Text.codes ('<' :: element.tag)) :
    Content.opens (.markup (.element element)) line = true := by
  rw [Content.opens, hself, h]
  cases hchars : element.tag with
  | nil => rfl
  | cons c rest =>
    have hc : c ∉ CodeText.marks := htag c (by rw [hchars]; rfl)
    rw [CodeText.isStartTag_codes]
    simpa using hc

/-- A line that ends in anything but an end tag is not the end of an element. -/
theorem ends_of_last {t : Text} (ht : List.isPrefixOf ['<', '/'] t = false)
    (h : line.last = Text.codes t) : Content.ends (.markup (.element element)) line = false := by
  rw [Content.ends, h, CodeText.isEndTag]
  match t with
  | [] | [_] => simp [Text.codes, List.isPrefixOf]
  | c :: d :: t => simpa [Text.codes, List.isPrefixOf] using ht

end Element

namespace Format

/-- The declarations of a format begin with their mark. -/
theorem isStart_of_lookup {format : Format} {name declaration : Text}
    (h : format.doctypes.lookup name = some declaration) : "<!".toList <+: declaration := by
  have hfixed : "<!".toList <+: "<!DOCTYPE html PUBLIC ".toList := by decide +kernel
  have hpublic (identifier address : String) : "<!".toList <+: publicDoctype identifier address :=
    hfixed.trans (List.prefix_append _ _)
  have hplain : "<!".toList <+: plainDoctype := by decide +kernel
  have hlisted : ∀ entry ∈ format.doctypes, "<!".toList <+: entry.2 := by
    cases format <;> simp only [doctypes, List.forall_mem_cons, List.not_mem_nil, hpublic, hplain,
      false_implies, implies_true, and_self]
  obtain ⟨before, after, hentries, -⟩ := List.lookup_eq_some_iff.mp h
  exact hlisted (name, declaration) (hentries ▸ List.mem_append_cons_self)

/-- A document type is declared with its mark, whether or not the name is known. -/
theorem isStart_doctype (format : Format) (name : Text) : "<!".toList <+: format.doctype name := by
  obtain ⟨default, hdefault⟩ : ∃ default, format.doctypes.lookup [] = some default := by
    cases format <;> exact ⟨_, rfl⟩
  rw [doctype]
  split
  · rename_i declaration hfound
    exact isStart_of_lookup hfound
  · rw [hdefault]
    exact isStart_of_lookup hdefault

end Format

namespace Markup

/-- A declaration begins with its mark, if anything is declared. -/
theorem declaration_cases (format : Format) (name : Text) : declaration format name = [] ∨
    ∃ mark more, declaration format name = '<' :: mark :: more ∧ mark ∈ ['!', '?'] := by
  have hdoctype : ∃ mark more, format.doctype name = '<' :: mark :: more ∧ mark ∈ ['!', '?'] := by
    obtain ⟨more, hmore⟩ := format.isStart_doctype name
    exact ⟨'!', more, hmore.symm, by decide⟩
  unfold declaration
  split
  · split
    · split
      · exact .inr ⟨'?', _, rfl, by decide⟩
      · exact .inl rfl
    · exact .inr hdoctype
  · exact .inr hdoctype

/-- A declaration is neither start nor end. -/
theorem marks_declaration {node : Node} {name : Text}
    (hcontent : node.content = .markup (.doctype name)) {format : Format}
    (hne : declaration format name ≠ []) :
    node.Marks false false (node.pushText 0 (declaration format name)) := by
  obtain hempty | ⟨mark, more, hline, hmark⟩ := declaration_cases format name
  · exact absurd hempty hne
  have hblank : ('<' :: mark :: more).head? ≠ some ' ' := by simp
  constructor
  · rw [hcontent, hline]
    refine (congrArg CodeText.isStartTag (node.first_push 0 hblank [])).trans ?_
    rw [CodeText.isStartTag_codes]
    obtain rfl | rfl : mark = '!' ∨ mark = '?' := by simpa using hmark
    · decide
    · decide
  · rw [hcontent, hline]
    refine (congrArg CodeText.isEndTag (node.last_pushText 0 hblank)).trans ?_
    have hslash : '/' ≠ mark := by
      rintro rfl
      exact absurd hmark (by decide)
    simp [CodeText.isEndTag, Text.codes, List.isPrefixOf, hslash]

end Markup

namespace Comment

variable {comment : Comment} {line : Action}

/-- A condition ends in its bracket. -/
theorem getLast?_condition_ofLine (line : Text) :
    ∀ t ∈ (ofLine line).condition, t.getLast? = some ']' := by
  have hbody (silent : Bool) (body : Text) :
      ∀ t ∈ (ofBody silent body).condition, t.getLast? = some ']' := by
    intro t ht
    replace ht : condition? body = some t := ht
    rw [condition?.eq_def] at ht
    split at ht
    · split at ht
      · obtain rfl := Option.some.inj ht
        exact List.getLast?_concat
      · cases ht
    · cases ht
  unfold ofLine
  split
  · exact hbody false _
  · exact hbody true _
  · exact fun t ht => by cases ht

/-- No comment starts with a blank, whether it is on one line or around others. -/
theorem head?_opening (comment : Comment) :
    comment.opening.head? ≠ some ' ' ∧ comment.inline.head? ≠ some ' ' := by
  have hopening : ∃ more, comment.opening = '<' :: more := by
    unfold opening
    split <;> exact ⟨_, rfl⟩
  obtain ⟨more, hmore⟩ := hopening
  unfold inline
  rw [hmore]
  split <;> simp

/-- The end of a comment does not start with a blank. -/
theorem head?_closing (comment : Comment) : comment.closing.head? ≠ some ' ' := by
  unfold closing
  split <;> simp

/-- A comment on one line starts and ends as one around others. -/
theorem bounds_inline (comment : Comment) :
    comment.opening <+: comment.inline ∧ comment.closing <:+ comment.inline := by
  unfold inline
  split
  · exact ⟨List.prefix_append _ _, List.suffix_append _ _⟩
  · rw [List.append_assoc]
    refine ⟨List.prefix_append _ _, ?_⟩
    exact ((List.suffix_cons _ _).trans (List.suffix_append _ _)).trans (List.suffix_append _ _)

/-- Every comment starts alike. -/
theorem isStart_opening (comment : Comment) : "<!--".toList <+: comment.opening := by
  unfold opening
  split
  · rw [List.append_assoc]
    exact List.prefix_append _ _
  · exact List.prefix_rfl

/-- Every comment ends alike. -/
theorem isEnd_closing (comment : Comment) : "-->".toList <:+ comment.closing := by
  unfold closing
  split
  · exact ⟨"<![endif]".toList, rfl⟩
  · exact List.suffix_rfl

/-- A line that begins with the start of a comment is a start. -/
theorem opens_of_first {t : Text} (ht : comment.opening <+: t) (h : line.first = Text.codes t) :
    Content.opens (.comment comment) line = true := by
  rw [Content.opens, h]
  exact List.isPrefixOf_iff_prefix.mpr ((comment.isStart_opening.trans ht).map _)

/-- A line that ends with the end of a comment is an end. -/
theorem ends_of_last {t : Text} (ht : comment.closing <:+ t) (h : line.last = Text.codes t) :
    Content.ends (.comment comment) line = true := by
  rw [Content.ends, h]
  exact List.isSuffixOf_iff_suffix.mpr ((comment.isEnd_closing.trans ht).map _)

/-- The start of a comment alone is no end of it. -/
theorem ends_opening (hcondition : ∀ t ∈ comment.condition, t.getLast? = some ']')
    (h : line.last = Text.codes comment.opening) :
    Content.ends (.comment comment) line = false := by
  rw [Content.ends, h]
  unfold opening
  split
  · rename_i c rest heq
    obtain ⟨front, hfront⟩ := List.getLast?_eq_some_iff.mp (hcondition _ heq)
    rw [hfront]
    simp [List.isSuffixOf, Text.codes, List.isPrefixOf]
  · rfl

end Comment

namespace Node.Legible

variable {node : Node}

/-- The tag of a node does not begin with such a mark. -/
theorem not_mark_head? (h : node.Legible) {element : Element}
    (he : node.content = .markup (.element element)) :
    ∀ c ∈ element.tag.head?, c ∉ CodeText.marks := by
  obtain hroot | ⟨kind, top, hcontent⟩ := h.content
  · rw [hroot] at he
    cases he
  · rw [he] at hcontent
    cases kind with
    | markup =>
      have hmarkup := Content.markup.inj hcontent
      rw [Markup.ofLine.eq_def] at hmarkup
      split at hmarkup
      · cases hmarkup
      · split at hmarkup
        · cases hmarkup
        · rw [Markup.element.inj hmarkup]
          exact Element.not_mark_head?_ofLine _
    | filter => cases top <;> cases hcontent
    | _ => cases hcontent

/-- The condition of a comment ends in its bracket. -/
theorem getLast?_condition (h : node.Legible) {comment : Comment}
    (hc : node.content = .comment comment) :
    ∀ t ∈ comment.condition, t.getLast? = some ']' := by
  obtain hroot | ⟨kind, top, hcontent⟩ := h.content
  · rw [hroot] at hc
    cases hc
  · rw [hc] at hcontent
    cases kind with
    | comment =>
      rw [Content.comment.inj hcontent]
      exact Comment.getLast?_condition_ofLine _
    | filter => cases top <;> cases hcontent
    | _ => cases hcontent

end Node.Legible

/-- The statements of a node that has delimiters: one with both of them, or one that starts with the
first, one with what is written on the line, and one that ends with the second. -/
structure Node.Delimits (options : Options) (node : Node) (hasChildren : Bool) (tags : Text × Text)
    (opened closed : List Statement) : Prop where
  /-- Both delimiters are on one line. -/
  inline : hasChildren = false → closed = [] ∧ ∃ s, opened = [s] ∧
    node.Bounds tags.1 tags.2 s ∧ node.Marks true true s
  /-- The delimiters are on two lines. -/
  around : hasChildren = true → ∃ s more last, opened = s :: more ∧
    node.Bounds tags.1 [] s ∧ node.Marks true false s ∧
    (∀ m ∈ more, m ∈ node.content.inner options node ∧ s.action.indent < m.action.indent) ∧
    closed = [last] ∧ node.Bounds [] tags.2 last

/-- An element with an end tag outputs its two tags. -/
theorem Element.delimits {options : Options} {element : Element} {node : Node} {hasChildren : Bool}
    {start : List Statement} (hlevel : 0 ≤ node.outputLevel) (hl : node.Legible)
    (hcontent : node.content = .markup (.element element)) (hself : element.selfClosing = false)
    (h : element.openStatements options node hasChildren = .ok start) :
    node.Delimits options hasChildren ('<' :: element.tag, element.endTag) start
      (element.closeStatements node hasChildren) := by
  obtain ⟨attributes, -, h⟩ := bind_eq_ok_iff.mp h
  rw [closeStatements, hself]
  rw [hself] at h
  have hopens (rest : List Fragment) : node.content.opens
      (node.push (.text (node.margin 0 ++ '<' :: element.tag) :: rest)).action = true := by
    rw [hcontent]
    exact opens_of_first hself (hl.not_mark_head? hcontent) (node.first_push 0 (by simp) rest)
  cases hasChildren with
  | false =>
    obtain rfl := Except.ok.inj h
    refine ⟨fun _ => ⟨rfl, _, rfl, Node.bounds_push (by simp) _ fun values => ?_, hopens _, ?_⟩,
      fun h => by cases h⟩
    · exact Fragment.codes_suffix_output values (.text (node.margin 0 ++ '<' :: element.tag) ::
        (attributes ++ [.text ['>']] ++ inlineContent options element)) element.endTag
    · rw [hcontent, Content.ends, Node.last_push, Text.dropWhile_codes (by simp [endTag])]
      rfl
  | true =>
    obtain rfl := Except.ok.inj h
    have hstart : node.Bounds ('<' :: element.tag) [] (node.push
        (.text (node.margin 0 ++ '<' :: element.tag) :: (attributes ++ [.text ['>']]))) :=
      Node.bounds_push (by simp) _ fun values => List.nil_suffix
    refine ⟨fun h => (by cases h), fun _ => ⟨_, _, _, rfl, hstart, ⟨hopens _, ?_⟩, fun m hm => ?_,
      rfl, ?_⟩⟩
    · rw [hcontent]
      exact ends_of_last (t := ['>']) rfl (node.last_push (_ :: attributes) ['>'])
    · split at hm
      · cases hm
      · rw [List.mem_singleton.mp hm, hcontent]
        exact ⟨List.mem_singleton_self _,
          hstart.indent.trans_lt (Node.indent_pushLine_one hlevel _)⟩
    · exact (Node.bounds_pushText (by simp [endTag])).weaken List.nil_prefix List.suffix_rfl

/-- An element without an end tag outputs one line, which is neither start nor end. -/
theorem Element.outputs_tag {options : Options} {element : Element} {node : Node}
    {hasChildren : Bool} {start : List Statement}
    (hcontent : node.content = .markup (.element element)) (hself : element.selfClosing = true)
    (h : element.openStatements options node hasChildren = .ok start) :
    (∃ s, start = [s] ∧ node.Bounds ('<' :: element.tag) ['>'] s ∧ node.Marks false false s) ∧
      element.closeStatements node hasChildren = [] := by
  obtain ⟨attributes, -, h⟩ := bind_eq_ok_iff.mp h
  rw [hself] at h
  refine ⟨?_, by rw [closeStatements, hself]; rfl⟩
  obtain ⟨close, hclose, hstart⟩ : ∃ close : Text, (close = " />".toList ∨ close = ['>']) ∧
      start = [node.push (.text (node.margin 0 ++ '<' :: element.tag) :: attributes ++
        [.text close])] := by
    refine ⟨_, ?_, (Except.ok.inj h).symm⟩
    split
    · exact .inl rfl
    · exact .inr rfl
  have hsuffix : ['>'] <:+ close := by
    rcases hclose with rfl | rfl
    · exact ⟨" /".toList, rfl⟩
    · exact List.suffix_rfl
  refine ⟨_, hstart, Node.bounds_push (by simp) _ fun values => ?_, ?_, ?_⟩
  · exact (hsuffix.map _).trans (Fragment.codes_suffix_output values (_ :: attributes) close)
  · rw [hcontent, Content.opens, hself]
    rfl
  · have hlast := node.last_push (.text (node.margin 0 ++ '<' :: element.tag) :: attributes) close
    rw [hcontent]
    rcases hclose with rfl | rfl
    · exact ends_of_last (t := "/>".toList) rfl hlast
    · exact ends_of_last (t := ['>']) rfl hlast

/-- A comment outputs its start and its end. -/
theorem Comment.delimits (options : Options) {comment : Comment} {node : Node}
    (hlevel : 0 ≤ node.outputLevel) (hl : node.Legible) (hcontent : node.content = .comment comment)
    (hasChildren : Bool) :
    node.Delimits options hasChildren (comment.opening, comment.closing)
      (if hasChildren then comment.openStatements node else [node.pushText 0 comment.inline])
      (if hasChildren then [node.pushText 0 comment.closing] else []) := by
  obtain ⟨hopening, hinline⟩ := comment.head?_opening
  obtain ⟨hstarts, hends⟩ := comment.bounds_inline
  cases hasChildren with
  | false =>
    refine ⟨fun _ => ⟨rfl, _, rfl, ?_, ?_, ?_⟩, fun h => by cases h⟩
    · exact (Node.bounds_pushText hinline).weaken hstarts hends
    · rw [hcontent]
      exact opens_of_first hstarts (node.first_push 0 hinline [])
    · rw [hcontent]
      exact ends_of_last hends (node.last_pushText 0 hinline)
  | true =>
    have hstart : node.Bounds comment.opening [] (node.pushText 0 comment.opening) :=
      (Node.bounds_pushText hopening).weaken List.prefix_rfl List.nil_suffix
    refine ⟨fun h => (by cases h), fun _ => ⟨_, _, _, rfl, hstart, ⟨?_, ?_⟩, fun m hm => ?_,
      rfl, ?_⟩⟩
    · rw [hcontent]
      exact opens_of_first List.prefix_rfl (node.first_push 0 hopening [])
    · rw [hcontent]
      exact ends_opening (hl.getLast?_condition hcontent) (node.last_pushText 0 hopening)
    · split at hm
      · cases hm
      · rw [List.mem_singleton.mp hm, hcontent]
        exact ⟨List.mem_singleton_self _,
          hstart.indent.trans_lt (Node.indent_pushText_one hlevel _)⟩
    · exact (Node.bounds_pushText comment.head?_closing).weaken List.nil_prefix List.suffix_rfl

namespace Tree

variable {tree : Tree} {options : Options} {i : Nat}

/-- A node that has delimiters outputs them at its own indentation. -/
theorem Traces.delimits (ht : tree.Traces options i) (hl : (tree.nodeAt i).Legible)
    {tags : Text × Text} (hlevel : 0 ≤ (tree.nodeAt i).outputLevel)
    (htags : (tree.contentAt i).tags? = some tags) :
    (tree.nodeAt i).Delimits options (!(tree.children i).isEmpty) tags (tree.opened options i)
      (tree.closed options i) := by
  have hopening := ht.cases.1
  rw [Branch.opening] at hopening
  rw [closed, Branch.closing]
  rw [contentAt] at htags
  unfold Content.tags? at htags
  split at htags
  · rename_i element helement
    rw [helement, isEmpty_below] at hopening
    rw [helement, isEmpty_below]
    split at htags
    · cases htags
    · rename_i hself
      obtain rfl := Option.some.inj htags
      exact Element.delimits hlevel hl helement (Bool.eq_false_iff.mpr hself) hopening
  · rename_i comment hcomment
    rw [hcomment, isEmpty_below] at hopening
    rw [hcomment, isEmpty_below]
    split at htags
    · cases htags
    · rename_i hsilent
      obtain rfl := Option.some.inj htags
      rw [← Except.ok.inj hopening]
      have hall := Comment.delimits options hlevel hl hcomment (!(tree.children i).isEmpty)
      cases hempty : (tree.children i).isEmpty <;> simpa [hempty, hsilent] using hall
  · cases htags

/-- An element without an end tag outputs one line for itself, which is neither start nor end. -/
theorem Traces.outputs_tag (ht : tree.Traces options i) {element : Element}
    (he : tree.contentAt i = .markup (.element element)) (hself : element.selfClosing = true) :
    (∃ s, tree.opened options i = [s] ∧ (tree.nodeAt i).Bounds ('<' :: element.tag) ['>'] s ∧
      (tree.nodeAt i).Marks false false s) ∧ tree.closed options i = [] := by
  rw [contentAt] at he
  have hopening := ht.cases.1
  rw [Branch.opening, he] at hopening
  rw [closed, Branch.closing, he]
  exact Element.outputs_tag he hself hopening

/-- A declaration, and a line that is output as it stands, output one line at most, and nothing
after those below them. -/
theorem Traces.outputs_inner (ht : tree.Traces options i) {markup : Markup}
    (hm : tree.contentAt i = .markup markup) (hother : ∀ element, markup ≠ .element element) :
    (tree.opened options i).Sublist ((tree.contentAt i).inner options (tree.nodeAt i)) ∧
      tree.closed options i = [] := by
  have hopening := ht.cases.1
  rw [contentAt] at hm
  rw [Branch.opening, hm] at hopening
  rw [closed, Branch.closing, contentAt, hm]
  cases markup with
  | element element => exact absurd rfl (hother element)
  | doctype name =>
    rw [← Except.ok.inj hopening]
    refine ⟨?_, rfl⟩
    split
    · exact List.nil_sublist _
    · exact .refl _
  | literal t =>
    rw [← Except.ok.inj hopening]
    exact ⟨.refl _, rfl⟩

/-- A line of a node that has no delimiters is neither start nor end. -/
theorem Traces.marks_of_none (ht : tree.Traces options i) (htags : (tree.contentAt i).tags? = none)
    {s : Statement} (hs : s ∈ tree.opened options i) : (tree.nodeAt i).Marks false false s := by
  have hopening := ht.cases.1
  rw [Branch.opening] at hopening
  rw [contentAt] at htags
  cases hcontent : (tree.nodeAt i).content with
  | markup markup =>
    cases markup with
    | element element =>
      rw [hcontent, Content.tags?] at htags
      split at htags
      · rename_i hself
        obtain ⟨⟨line, hline, -, hmarks⟩, -⟩ := ht.outputs_tag hcontent hself
        rw [hline, List.mem_singleton] at hs
        rw [hs]
        exact hmarks
      · cases htags
    | doctype name =>
      rw [hcontent] at hopening
      rw [← Except.ok.inj hopening] at hs
      split at hs
      · cases hs
      · rename_i hne
        rw [List.mem_singleton.mp hs]
        exact Markup.marks_declaration hcontent (mt List.isEmpty_iff.mpr hne)
    | literal t => exact ⟨by rw [hcontent]; rfl, by rw [hcontent]; rfl⟩
  | comment comment =>
    rw [hcontent, Content.tags?] at htags
    split at htags
    · rename_i hsilent
      rw [hcontent] at hopening
      rw [← Except.ok.inj hopening, if_pos hsilent] at hs
      cases hs
    · cases htags
  | _ => exact ⟨by rw [hcontent]; rfl, by rw [hcontent]; rfl⟩

/-- After the lines below it such a node outputs nothing. -/
theorem action_closed_of_none (htags : (tree.contentAt i).tags? = none) {s : Statement}
    (hs : s ∈ tree.closed options i) : s.action = .pass := by
  rw [closed, Branch.closing] at hs
  rw [contentAt] at htags
  split at hs
  · split at hs
    · rw [List.mem_singleton.mp hs]
    · cases hs
  · rename_i comment hcomment
    rw [hcomment, Content.tags?] at htags
    split at htags
    · rename_i hsilent
      rw [hsilent] at hs
      cases hs
    · cases htags
  · rename_i markup hmarkup
    cases markup with
    | element element =>
      rw [hmarkup, Content.tags?] at htags
      split at htags
      · rename_i hself
        rw [Markup.closeStatements, Element.closeStatements, hself] at hs
        cases hs
      · cases htags
    | _ => cases hs
  · cases hs

/-- A delimiter of a node, at the level and the indentation of the node. -/
def delimiter (tree : Tree) (i : Nat) (opens : Bool) : Delimiter :=
  ⟨i, opens, (tree.nodeAt i).blocks, 2 * (tree.nodeAt i).outputLevel.toNat⟩

/-- A line at the level and the indentation of its node has delimiters there. -/
theorem delimiter_eq {e : Emitted} {first last : Text}
    (h : (tree.nodeAt e.index).Bounds first last e.statement) (opens : Bool) :
    e.delimiter opens = tree.delimiter e.index opens := by
  rw [Emitted.delimiter, delimiter, h.level, h.indent]

/-- A line before those below its node has the delimiters that it looks like. -/
theorem delimiters_of_marks {s : Statement} {first last : Text} {opens ends : Bool}
    (h : (tree.nodeAt i).Bounds first last s) (hmarks : (tree.nodeAt i).Marks opens ends s) :
    tree.delimiters ⟨i, false, s⟩ =
      (if opens then [tree.delimiter i true] else []) ++
        if ends then [tree.delimiter i false] else [] := by
  have heq (opens : Bool) : Emitted.delimiter ⟨i, false, s⟩ opens = tree.delimiter i opens :=
    delimiter_eq h opens
  rw [delimiters, if_neg Bool.false_ne_true, if_pos h.indent, contentAt, hmarks.opens, hmarks.ends,
    heq, heq]

/-- A line further in than its node has none. -/
theorem delimiters_of_lt {s : Statement}
    (h : 2 * (tree.nodeAt i).outputLevel.toNat < s.action.indent) :
    tree.delimiters ⟨i, false, s⟩ = [] := by
  rw [delimiters, if_neg Bool.false_ne_true, if_neg h.ne']

/-- A line after those below its node is an end. -/
theorem delimiters_of_closes {s : Statement} {first last : Text}
    (h : (tree.nodeAt i).Bounds first last s) :
    tree.delimiters ⟨i, true, s⟩ = [tree.delimiter i false] := by
  have heq : Emitted.delimiter ⟨i, true, s⟩ false = tree.delimiter i false := delimiter_eq h false
  obtain ⟨line, hline, -⟩ := h.line
  have houtput : s.action.isOutput = true := by
    rw [hline]
    rfl
  rw [delimiters, if_pos rfl, if_pos houtput, heq]

/-- A node that should have no delimiters outputs none. -/
theorem Traces.delimiters_of_none {e : Emitted} (ht : tree.Traces options e.index)
    (htags : (tree.contentAt e.index).tags? = none)
    (hown : (e.closes = false ∧ e.statement ∈ tree.opened options e.index) ∨
      (e.closes = true ∧ e.statement ∈ tree.closed options e.index)) : tree.delimiters e = [] := by
  rw [delimiters]
  obtain ⟨hcloses, hmem⟩ | ⟨hcloses, hmem⟩ := hown
  · obtain ⟨hopens, hends⟩ := ht.marks_of_none htags hmem
    rw [if_neg (Bool.eq_false_iff.mp hcloses), contentAt, hopens, hends, if_neg Bool.false_ne_true,
      if_neg Bool.false_ne_true, List.append_nil, ite_self]
  · rw [if_pos hcloses, action_closed_of_none htags hmem]
    rfl

/-- So its statements before those below it have none. -/
theorem Traces.flatMap_delimiters_opened_of_none (ht : tree.Traces options i)
    (htags : (tree.contentAt i).tags? = none) :
    ((tree.opened options i).map (Emitted.mk i false)).flatMap tree.delimiters = [] :=
  List.flatMap_eq_nil_iff.mpr (List.forall_mem_map.mpr fun _ hs =>
    delimiters_of_none (e := ⟨i, false, _⟩) ht htags (.inl ⟨rfl, hs⟩))

/-- Those after them have none either. -/
theorem Traces.flatMap_delimiters_closed_of_none (ht : tree.Traces options i)
    (htags : (tree.contentAt i).tags? = none) :
    ((tree.closed options i).map (Emitted.mk i true)).flatMap tree.delimiters = [] :=
  List.flatMap_eq_nil_iff.mpr (List.forall_mem_map.mpr fun _ hs =>
    delimiters_of_none (e := ⟨i, true, _⟩) ht htags (.inr ⟨rfl, hs⟩))

/-- The statements that open a node output its start, and its end if nothing is below it. -/
theorem Traces.flatMap_delimiters_opened (ht : tree.Traces options i)
    (hl : (tree.nodeAt i).Legible) {tags : Text × Text} (hlevel : 0 ≤ (tree.nodeAt i).outputLevel)
    (htags : (tree.contentAt i).tags? = some tags) :
    ((tree.opened options i).map (Emitted.mk i false)).flatMap tree.delimiters =
      tree.delimiter i true :: if tree.children i = [] then [tree.delimiter i false] else [] := by
  have hdelimits := ht.delimits hl hlevel htags
  by_cases hchildren : tree.children i = []
  · obtain ⟨-, s, hopened, hs, hmarks⟩ := hdelimits.inline (by simp [hchildren])
    rw [hopened, List.map_singleton, List.flatMap_singleton, delimiters_of_marks hs hmarks,
      if_pos hchildren]
    rfl
  · obtain ⟨s, more, last, hopened, hs, hmarks, hmore, -⟩ :=
      hdelimits.around (by simp [hchildren])
    have hlater : (more.map (Emitted.mk i false)).flatMap tree.delimiters = [] := by
      refine List.flatMap_eq_nil_iff.mpr (List.forall_mem_map.mpr fun m hm => ?_)
      exact delimiters_of_lt (hs.indent ▸ (hmore m hm).2)
    rw [hopened, List.map_cons, List.flatMap_cons, hlater, List.append_nil,
      delimiters_of_marks hs hmarks, if_neg hchildren]
    rfl

/-- The statements that close a node output its end, if anything is below it. -/
theorem Traces.flatMap_delimiters_closed (ht : tree.Traces options i)
    (hl : (tree.nodeAt i).Legible) {tags : Text × Text} (hlevel : 0 ≤ (tree.nodeAt i).outputLevel)
    (htags : (tree.contentAt i).tags? = some tags) :
    ((tree.closed options i).map (Emitted.mk i true)).flatMap tree.delimiters =
      if tree.children i = [] then [] else [tree.delimiter i false] := by
  have hdelimits := ht.delimits hl hlevel htags
  by_cases hchildren : tree.children i = []
  · obtain ⟨hclosed, -⟩ := hdelimits.inline (by simp [hchildren])
    rw [hclosed, if_pos hchildren]
    rfl
  · obtain ⟨s, more, last, -, -, -, -, hclosed, hlast⟩ := hdelimits.around (by simp [hchildren])
    rw [hclosed, List.map_singleton, List.flatMap_singleton, delimiters_of_closes hlast,
      if_neg hchildren]

/-- A statement of a node that has delimiters outputs them, at the level and the indentation of the
node and on one line of output; or it outputs what is written on the line. -/
theorem Traces.outputs_delimiters {e : Emitted} (ht : tree.Traces options e.index)
    (hl : (tree.nodeAt e.index).Legible) (hlevel : 0 ≤ (tree.nodeAt e.index).outputLevel)
    {tags : Text × Text} (htags : (tree.contentAt e.index).tags? = some tags)
    (hown : (e.closes = false ∧ e.statement ∈ tree.opened options e.index) ∨
      (e.closes = true ∧ e.statement ∈ tree.closed options e.index)) :
    (tree.delimiters e = [] →
      e.statement ∈ (tree.contentAt e.index).inner options (tree.nodeAt e.index)) ∧
    ∀ d ∈ tree.delimiters e, d = tree.delimiter e.index d.opens ∧
      (tree.nodeAt e.index).Bounds (if d.opens then tags.1 else [])
        (if d.opens then [] else tags.2) e.statement := by
  obtain ⟨i, closes, s⟩ := e
  dsimp only at *
  have hdelimits := ht.delimits hl hlevel htags
  by_cases hchildren : tree.children i = []
  · obtain ⟨hclosed, line, hopened, hline, hmarks⟩ := hdelimits.inline (by simp [hchildren])
    obtain ⟨rfl, hmem⟩ | ⟨-, hmem⟩ := hown
    · obtain rfl : s = line := by rwa [hopened, List.mem_singleton] at hmem
      rw [delimiters_of_marks hline hmarks]
      refine ⟨fun h => (by cases h), fun d hd => ?_⟩
      obtain rfl | rfl : d = tree.delimiter i true ∨ d = tree.delimiter i false := by
        simpa using hd
      · exact ⟨rfl, hline.weaken List.prefix_rfl List.nil_suffix⟩
      · exact ⟨rfl, hline.weaken List.nil_prefix List.suffix_rfl⟩
    · rw [hclosed] at hmem
      cases hmem
  · obtain ⟨line, more, last, hopened, hline, hmarks, hmore, hclosed, hlast⟩ :=
      hdelimits.around (by simp [hchildren])
    obtain ⟨rfl, hmem⟩ | ⟨rfl, hmem⟩ := hown
    · rw [hopened] at hmem
      obtain rfl | hmem := List.mem_cons.mp hmem
      · rw [delimiters_of_marks hline hmarks]
        refine ⟨fun h => (by cases h), fun d hd => ?_⟩
        obtain rfl : d = tree.delimiter i true := by simpa using hd
        exact ⟨rfl, hline⟩
      · obtain ⟨hinner, hfurther⟩ := hmore s hmem
        rw [delimiters_of_lt (hline.indent ▸ hfurther)]
        exact ⟨fun _ => hinner, List.forall_mem_nil _⟩
    · obtain rfl : s = last := by rwa [hclosed, List.mem_singleton] at hmem
      rw [delimiters_of_closes hlast]
      refine ⟨fun h => (by cases h), List.forall_mem_singleton.mpr ⟨rfl, hlast⟩⟩

end Tree

end Haml
