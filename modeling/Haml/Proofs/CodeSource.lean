import Haml.Proofs.FilterBody
import Haml.Proofs.OutputLine

/-!
# Code stands on its line

The code that a line of a template holds, such as attribute values and statements, is part of the
line as it was written, and the value of a flag is the only one that is not. A logical line has no
line break in it and no blank at its start. So no code of a template has a line break.
-/

namespace Haml

namespace Attribute

/-- What comes after the sign of an entry is part of it. -/
theorem afterSign?_subset {t rest : Text} (h : afterSign? t = some rest) : rest ⊆ t := by
  have htrim := Text.trimLeft_subset t
  unfold afterSign? at h
  split at h
  · rename_i heq
    obtain rfl := Option.some.inj h
    rw [heq] at htrim
    exact (List.cons_subset.mp htrim).2
  · rename_i heq
    obtain rfl := Option.some.inj h
    rw [heq] at htrim
    exact (List.cons_subset.mp (List.cons_subset.mp htrim).2).2
  · cases h

/-- What comes after the quote that ends a key, and its sign, is part of the text. -/
theorem quotedEnd?_subset {mark : Char} {t : Text} {entry : Entry}
    (h : quotedEnd? mark t = some entry) : entry.rest ⊆ t := by
  induction t generalizing entry with
  | nil => cases h
  | cons c t ih =>
    rw [quotedEnd?] at h
    split at h
    · rename_i value hvalue
      obtain rfl := Option.some.inj h
      split at hvalue
      · exact List.Subset.trans (afterSign?_subset hvalue) (List.subset_cons_self c t)
      · cases hvalue
    · obtain ⟨inner, hinner, rfl⟩ := Option.map_eq_some_iff.mp h
      have hsub := ih hinner
      exact List.Subset.trans hsub (List.subset_cons_self c t)

/-- What comes after a quoted key is part of the entry. -/
theorem quotedKey?_subset {mark : Char} {t : Text} {entry : Entry}
    (h : quotedKey? mark t = some entry) : entry.rest ⊆ t := by
  cases t with
  | nil => cases h
  | cons c t =>
    obtain ⟨inner, hinner, rfl⟩ := Option.map_eq_some_iff.mp h
    have hsub := quotedEnd?_subset hinner
    exact List.Subset.trans hsub (List.subset_cons_self c t)

/-- What comes after the last colon of a run is part of the run. -/
theorem lastColon?_subset {t : Text} {entry : Entry} (h : lastColon? t = some entry) :
    entry.rest ⊆ t := by
  induction t generalizing entry with
  | nil => cases h
  | cons c t ih =>
    rw [lastColon?] at h
    split at h
    · rename_i inner hinner
      obtain rfl := Option.some.inj h
      have hsub := ih hinner
      exact List.Subset.trans hsub (List.subset_cons_self c t)
    · split at h
      · obtain rfl := Option.some.inj h
        exact List.subset_cons_self c t
      · cases h

/-- What comes after a bare key is part of the entry. -/
theorem bareKey?_subset {t : Text} {entry : Entry} (h : bareKey? t = some entry) :
    entry.rest ⊆ t := by
  have hrun : t.takeWhile Text.isTagChar ⊆ t := List.takeWhile_subset _
  have hafter : t.dropWhile Text.isTagChar ⊆ t := List.dropWhile_subset _
  unfold bareKey? at h
  dsimp only at h
  split at h
  · cases h
  · rename_i first more heq
    split at h
    · rename_i value hvalue
      obtain rfl := Option.some.inj h
      exact List.Subset.trans (afterSign?_subset hvalue) hafter
    · obtain ⟨inner, hinner, rfl⟩ := Option.map_eq_some_iff.mp h
      rw [heq] at hrun
      exact List.append_subset.mpr
        ⟨List.Subset.trans (lastColon?_subset hinner) (List.cons_subset.mp hrun).2, hafter⟩

/-- The value of a hash entry stands in the entry. -/
theorem ofHashItem?_subset {entry : Text} {given : Attribute}
    (h : ofHashItem? entry = some given) : given.value ⊆ entry := by
  have htrim := Text.trimLeft_subset entry
  obtain ⟨parsed, hparsed, rfl⟩ := Option.map_eq_some_iff.mp h
  refine List.Subset.trans (Text.trim_subset _) (List.Subset.trans ?_ htrim)
  split at hparsed
  · rename_i rest heq
    rw [heq]
    exact List.Subset.trans (quotedKey?_subset hparsed) (List.subset_cons_self _ _)
  · rename_i rest heq
    rw [heq]
    exact List.Subset.trans (quotedKey?_subset hparsed) (List.subset_cons_self _ _)
  · rename_i rest heq
    rw [heq]
    split at hparsed
    · rename_i bare hbare
      obtain rfl := Option.some.inj hparsed
      exact List.Subset.trans (bareKey?_subset hbare) (List.subset_cons_self _ _)
    · exact bareKey?_subset hparsed
  · exact bareKey?_subset hparsed

/-- What is in the brackets of a list is part of it. -/
theorem inner_subset (source : Text) : inner source ⊆ source :=
  List.Subset.trans (List.dropLast_subset _)
    (List.Subset.trans (List.drop_subset _ _) (Text.trim_subset source))

/-- Both the value after an equals sign and what follows it are parts of the text. -/
theorem assigned?_subset {t : Text} {cut : Bracket.Cut} (h : assigned? t = some cut) :
    cut.group ⊆ t ∧ cut.rest ⊆ t := by
  have htrim := Text.trimLeft_subset t
  unfold assigned? at h
  split at h
  · rename_i rest heq
    rw [heq] at htrim
    have hrest : cut.group ++ cut.rest ⊆ t := by
      rw [htmlValue?_append h]
      exact List.Subset.trans (Text.trimLeft_subset rest) (List.cons_subset.mp htrim).2
    exact List.append_subset.mp hrest
  · cases h

/-- A value in html form stands in the list, or is that of a flag. -/
theorem value_of_mem_htmlEntries {t : Text} {given : Attribute} (h : given ∈ htmlEntries t) :
    given.value ⊆ t ∨ given.value = "True".toList := by
  fun_induction htmlEntries t with
  | case1 => cases h
  | case2 c rest hname name cut hcut ih =>
    have hafter : rest.dropWhile isHtmlNameChar ⊆ c :: rest :=
      List.subset_cons_of_subset c (List.dropWhile_subset _)
    obtain ⟨hgroup, hmore⟩ := assigned?_subset hcut
    rcases List.mem_cons.mp h with rfl | h
    · exact .inl (List.Subset.trans hgroup hafter)
    · exact (ih h).imp_left fun hsub => List.Subset.trans hsub (List.Subset.trans hmore hafter)
  | case3 c rest hname name hnone ih =>
    rcases List.mem_cons.mp h with rfl | h
    · exact .inr rfl
    · exact (ih h).imp_left fun hsub => List.subset_cons_of_subset c
        (List.Subset.trans hsub (List.dropWhile_subset _))
  | case4 c rest hname ih => exact (ih h).imp_left (List.subset_cons_of_subset c)

end Attribute

/-- The pieces of a text are parts of it. -/
theorem Bracket.pieces_subset {separator t piece : Text} {s : Scan}
    (h : piece ∈ pieces separator s t) : piece ⊆ t := by
  induction t generalizing s piece with
  | nil =>
    obtain rfl := List.mem_singleton.mp h
    exact List.Subset.refl _
  | cons c t ih =>
    rw [pieces] at h
    split at h
    · rcases List.mem_cons.mp h with rfl | h
      · exact List.nil_subset _
      · exact List.subset_cons_of_subset c (ih h)
    · split at h
      · obtain rfl := List.mem_singleton.mp h
        exact List.cons_subset_cons c (List.nil_subset _)
      · rename_i first more heq
        rcases List.mem_cons.mp h with rfl | h
        · exact List.cons_subset_cons c (ih (heq ▸ List.mem_cons_self))
        · exact List.subset_cons_of_subset c (ih (heq ▸ List.mem_cons_of_mem _ h))

/-- Both the leading group and what follows it are parts of the text. -/
theorem Bracket.splitBalanced_subset (t : Text) :
    (splitBalanced t).group ⊆ t ∧ (splitBalanced t).rest ⊆ t := by
  rw [← List.append_subset, splitBalanced_append]
  exact List.Subset.refl _

/-- The value of an attribute stands in the list, or is that of a flag. -/
theorem Attribute.value_of_mem_ofList {source : Text} {given : Attribute}
    (h : given ∈ ofList source) : given.value ⊆ source ∨ given.value = "True".toList := by
  unfold ofList at h
  split at h
  · obtain ⟨entry, hentry, hof⟩ := List.mem_filterMap.mp h
    have hpiece := Bracket.pieces_subset (List.mem_filter.mp hentry).1
    exact .inl (List.Subset.trans (ofHashItem?_subset hof)
      (List.Subset.trans hpiece (inner_subset _)))
  · exact (value_of_mem_htmlEntries h).imp_left
      fun hsub => List.Subset.trans hsub (inner_subset _)
  · cases h

namespace Element

/-- What comes after the shorthands is part of the text. -/
theorem afterShorthands_subset (t : Text) : afterShorthands t ⊆ t := by
  fun_induction afterShorthands t with
  | case1 => exact List.Subset.refl _
  | case2 c rest h ih =>
    exact List.subset_cons_of_subset c (List.Subset.trans ih (List.dropWhile_subset _))
  | case3 c rest h => exact List.Subset.refl _

/-- What comes after the tag is part of the text. -/
theorem afterTag_subset (t : Text) : afterTag t ⊆ t := by
  unfold afterTag
  split
  · split
    · exact List.subset_cons_of_subset _ (List.dropWhile_subset _)
    · exact List.Subset.refl _
  · exact List.Subset.refl _

/-- What comes after tag and shorthands is part of the text. -/
theorem afterHead_subset (t : Text) : afterHead t ⊆ t :=
  List.Subset.trans (afterShorthands_subset _) (afterTag_subset t)

/-- The attribute lists of a text are parts of it. -/
theorem lists_subset {t group : Text} (h : group ∈ lists t) : group ⊆ t := by
  fun_induction lists t with
  | case1 t hopens ih =>
    have hsplit := Bracket.splitBalanced_subset t
    rcases List.mem_cons.mp h with rfl | h
    · exact hsplit.1
    · exact List.Subset.trans (ih h) hsplit.2
  | case2 t hopens => cases h

/-- What comes after the attribute lists is part of the text. -/
theorem afterLists_subset (t : Text) : afterLists t ⊆ t := by
  fun_induction afterLists t with
  | case1 t hopens ih =>
    have hsplit := Bracket.splitBalanced_subset t
    exact List.Subset.trans ih hsplit.2
  | case2 t hopens => exact List.Subset.refl _

/-- The content of an element is part of what its line ends with. -/
theorem splitContent_subset (t : Text) : (splitContent t).2 ⊆ t := by
  unfold splitContent
  split
  · exact List.Subset.trans (Text.trim_subset _) (by simp)
  · exact List.subset_cons_of_subset _ (Text.trim_subset _)
  · exact Text.trim_subset _

/-- The content of an element stands on its line. -/
theorem content_ofLine_subset (line : Text) : (ofLine line).content ⊆ line := by
  have htail : afterLists (afterHead line) ⊆ line :=
    List.Subset.trans (afterLists_subset _) (afterHead_subset line)
  refine List.Subset.trans (splitContent_subset _) ?_
  split
  · exact List.Subset.trans (List.drop_subset _ _) htail
  · exact htail

/-- The values of an element's attributes stand on its line, those of flags apart. -/
theorem value_of_mem_ofLine {line : Text} {given : Attribute}
    (h : given ∈ (ofLine line).attributes) :
    given.value ⊆ line ∨ given.value = "True".toList := by
  obtain ⟨group, hgroup, hof⟩ := List.mem_flatMap.mp h
  exact (Attribute.value_of_mem_ofList hof).imp_left fun hsub => List.Subset.trans hsub
    (List.Subset.trans (lists_subset hgroup) (afterHead_subset line))

end Element

namespace Text

/-- No character of the text ends a line. -/
def Unbroken (t : Text) : Prop := ∀ c ∈ t, isLineBreak c = false

instance (t : Text) : Decidable (Unbroken t) :=
  decidable_of_iff (t.all (fun c => !isLineBreak c) = true) (by simp [Unbroken])

/-- Parts of a text without line breaks have none. -/
theorem Unbroken.mono {s t : Text} (h : Unbroken t) (hst : s ⊆ t) : Unbroken s :=
  fun c hc => h c (hst hc)

/-- Two texts in a row have no line breaks exactly if neither has. -/
theorem unbroken_append {s t : Text} : Unbroken (s ++ t) ↔ Unbroken s ∧ Unbroken t :=
  List.forall_mem_append

/-- A text has no line breaks exactly if its first character is none and its rest has none. -/
theorem unbroken_cons {c : Char} {t : Text} :
    Unbroken (c :: t) ↔ isLineBreak c = false ∧ Unbroken t := List.forall_mem_cons

/-- No character ends a line, and no blank stands at the start. -/
structure Flush (t : Text) : Prop where
  /-- No character ends a line. -/
  unbroken : Unbroken t
  /-- The first character is visible. -/
  start : ∀ c ∈ t.head?, isBlank c = false

/-- The empty text is flush. -/
theorem flush_nil : Flush [] := ⟨List.forall_mem_nil _, fun c hc => by cases hc⟩

/-- Nothing is blank at the start of a text that has been trimmed. -/
theorem not_isBlank_head?_trim (t : Text) : ∀ c ∈ (trim t).head?, isBlank c = false := by
  intro c hc
  obtain ⟨rest, hrest⟩ : trim t <+: trimLeft t := List.rdropWhile_prefix isBlank _
  have hhead : (trimLeft t).head? = some c := by
    rw [← hrest, List.head?_append, hc]
    rfl
  have hnot := List.head?_dropWhile_not isBlank t
  rw [← trimLeft, hhead] at hnot
  simpa using hnot

/-- A text without line breaks is flush once it is trimmed. -/
theorem Unbroken.flush_trim {t : Text} (h : Unbroken t) : Flush (trim t) :=
  ⟨h.mono (trim_subset t), not_isBlank_head?_trim t⟩

/-- A flush text that is not empty has a character that is visible. -/
theorem Flush.exists_visible {t : Text} (h : Flush t) (hne : t ≠ []) :
    ∃ c ∈ t, isBlank c = false := by
  cases t with
  | nil => exact absurd rfl hne
  | cons c t => exact ⟨c, List.mem_cons_self, h.start c rfl⟩

/-- Text after a line that is not empty. -/
theorem Flush.append {s t : Text} (hs : Flush s) (hne : s ≠ []) (ht : Unbroken t) :
    Flush (s ++ t) := by
  refine ⟨unbroken_append.mpr ⟨hs.unbroken, ht⟩, ?_⟩
  rw [List.head?_append_of_ne_nil _ hne]
  exact hs.start

end Text

namespace LogicalLine

open Text (Unbroken Flush)

/-- Lines without line breaks that are joined to a flush expression leave it flush. -/
theorem flush_joinLines {expression : Text} {lines : List Text} (he : Flush expression)
    (hlines : ∀ line ∈ lines, Unbroken line) : Flush (joinLines expression lines).expression := by
  induction lines generalizing expression with
  | nil => exact he
  | cons next lines ih =>
    obtain ⟨hnext, hrest⟩ := List.forall_mem_cons.mp hlines
    rw [joinLines]
    split
    · rename_i hc
      have hne : expression ≠ [] := by
        rintro rfl
        rw [not_continues_nil] at hc
        cases hc
      refine ih (he.append hne (Text.unbroken_cons.mpr ⟨by decide, ?_⟩)) hrest
      exact hnext.mono (Text.trim_subset next)
    · exact he

/-- The logical lines of lines without breaks have none, and start with a visible character. -/
theorem flush_of_mem_ofLines {number : Nat} {lines : List Text} {line : LogicalLine}
    (hlines : ∀ line ∈ lines, Unbroken line) (h : line ∈ ofLines number lines) :
    Flush line.expression := by
  fun_induction ofLines number lines with
  | case1 => cases h
  | case2 number first rest joined ih =>
    obtain ⟨hfirst, hrest⟩ := List.forall_mem_cons.mp hlines
    rcases List.mem_cons.mp h with rfl | h
    · exact flush_joinLines hfirst.flush_trim hrest
    · obtain ⟨taken, htaken, -⟩ := exists_taken (Text.trim first) rest
      refine ih (fun line hline => hrest line ?_) h
      rw [htaken]
      exact List.mem_append_right _ hline

end LogicalLine

/-- The texts of a line that become code. -/
def Content.sources : Content → List Text
  | markup (.literal t) => [t]
  | markup (.element e) => e.content :: e.attributes.map (·.value)
  | code c => [c.code]
  | _ => []

/-- The code of a line is part of it, trimmed. -/
theorem Code.exists_ofLine_eq (line : Text) :
    ∃ rest, rest ⊆ line ∧ (Code.ofLine line).code = Text.trim rest := by
  unfold ofLine
  split
  · exact ⟨_, List.subset_cons_self _ _, rfl⟩
  · exact ⟨_, by simp, rfl⟩
  · exact ⟨_, List.subset_cons_self _ _, rfl⟩
  · exact ⟨_, List.Subset.refl _, rfl⟩

/-- The code of a line stands on the line, flags apart. -/
theorem Content.source_of_ofLine {kind : Kind} {top : Option Int} {line source : Text}
    (h : source ∈ (Content.ofLine kind top line).sources) :
    source ⊆ line ∨ source = "True".toList := by
  cases kind with
  | text => cases h
  | comment => cases h
  | filter => cases top <;> cases h
  | code =>
    obtain rfl := List.mem_singleton.mp h
    obtain ⟨rest, hrest, heq⟩ := Code.exists_ofLine_eq line
    rw [heq]
    exact .inl (List.Subset.trans (Text.trim_subset rest) hrest)
  | markup =>
    rw [ofLine, Markup.ofLine.eq_def] at h
    split at h
    · cases h
    · split at h
      · obtain rfl := List.mem_singleton.mp h
        exact .inl (List.subset_cons_of_subset _ (Text.trimLeft_subset _))
      · rcases List.mem_cons.mp h with rfl | h
        · exact .inl (Element.content_ofLine_subset line)
        · obtain ⟨given, hgiven, rfl⟩ := List.mem_map.mp h
          exact Element.value_of_mem_ofLine hgiven

/-- A node of a line: the line is written flush, and decides the content. -/
structure Node.Legible (node : Node) : Prop where
  /-- The line has no break and no blank at its start. -/
  flush : node.expression.Flush
  /-- The content is that of the line. -/
  content : node.content = .root ∨
    ∃ kind top, node.content = Content.ofLine kind top node.expression

namespace Node

/-- The root is legible: it has no text. -/
theorem legible_root : root.Legible := ⟨Text.flush_nil, .inl rfl⟩

namespace Legible

variable {node : Node}

/-- The code of a node has no line break. -/
theorem unbroken_source (h : node.Legible) {source : Text} (hs : source ∈ node.content.sources) :
    source.Unbroken := by
  obtain hroot | ⟨kind, top, hcontent⟩ := h.content
  · rw [hroot] at hs
    cases hs
  · rw [hcontent] at hs
    rcases Content.source_of_ofLine hs with hsub | rfl
    · exact h.flush.unbroken.mono hsub
    · decide

/-- A statement has no blank at its start. -/
theorem flush_code (h : node.Legible) {code : Code} (hc : node.content = .code code) :
    code.code.Flush := by
  obtain hroot | ⟨kind, top, hcontent⟩ := h.content
  · rw [hroot] at hc
    cases hc
  · obtain rfl : code = Code.ofLine node.expression := by
      rw [hc] at hcontent
      cases kind with
      | code => exact Content.code.inj hcontent
      | filter => cases top <;> cases hcontent
      | _ => cases hcontent
    obtain ⟨rest, hrest, heq⟩ := Code.exists_ofLine_eq node.expression
    rw [heq]
    exact (h.flush.unbroken.mono hrest).flush_trim

end Legible

end Node

namespace Nesting

variable {n m : Nesting} {line : LogicalLine}

/-- The node of a line is legible if the expression of the line is flush. -/
theorem legible_lineNode (n : Nesting) (h : line.expression.Flush) : (n.lineNode line).Legible := by
  refine ⟨h, .inr ?_⟩
  cases ht : n.tree.topOf? n.parent with
  | some top => exact ⟨.filter, some top, content_lineNode_of_some line ht⟩
  | none => exact ⟨Kind.ofLine line.expression, none, by simp only [lineNode, ht]⟩

/-- All nodes of lines that are written flush are legible. -/
theorem legible_run {lines : List LogicalLine} (h : run lines = .ok n)
    (hlines : ∀ line ∈ lines, line.expression.Flush) (i : Nat) : (n.tree.nodeAt i).Legible := by
  have hall : n.Sound ∧ ((∀ line ∈ lines, line.expression.Flush) →
      ∀ i < n.tree.size, (n.tree.nodeAt i).Legible) := by
    refine run_induction (P := fun n lines => (∀ line ∈ lines, line.expression.Flush) →
      ∀ i < n.tree.size, (n.tree.nodeAt i).Legible) ?_ ?_ h
    · intro _ i hi
      obtain rfl : i = 0 := Nat.lt_one_iff.mp hi
      exact Node.legible_root
    · intro n lines line m hs ih hm hall
      obtain ⟨hbefore, hline⟩ := List.forall_mem_append.mp hall
      obtain ⟨-, -, rfl⟩ | ⟨-, top, -, rfl⟩ | ⟨-, -, rfl⟩ := step_cases hm
      · exact ih hbefore
      · exact Tree.forall_nodeAt_add (P := fun _ node => node.Legible) (ih hbefore)
          ⟨Text.flush_nil, .inr ⟨.filter, some _, rfl⟩⟩
      · exact Tree.forall_nodeAt_add (P := fun _ node => node.Legible) (ih hbefore)
          (legible_lineNode _ (hline line List.mem_cons_self))
  rcases Nat.lt_or_ge i n.tree.size with hi | hi
  · exact hall.2 hlines i hi
  · rw [Tree.nodeAt_of_size_le hi]
    exact Node.legible_root

end Nesting

/-- All nodes of a template are legible. -/
theorem Template.legible_of_parse {source : Text} {tree : Tree} (h : parse source = .ok tree)
    (i : Nat) : (tree.nodeAt i).Legible := by
  obtain ⟨n, hrun, rfl⟩ := Nesting.exists_run h
  refine Nesting.legible_run hrun (fun line hline => ?_) i
  exact LogicalLine.flush_of_mem_ofLines
    (fun line hline => Text.not_isLineBreak_of_mem_splitLines hline) hline

end Haml
