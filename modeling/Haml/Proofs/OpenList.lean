import Haml.Proofs.BracketScan
import Haml.Template

/-!
# Attribute lists that are not closed

An element line is read list by list until no closed list follows. Whether the next line continues
it is decided by a look at its first list only. The two agree on a line whose first list is open. A
line with an open list after closed ones is not continued, and the open list becomes its content.
-/

namespace Haml.Element

open Haml.Bracket

variable {line t g rest : Text} {closed : List Text}

/-- A closed attribute list. -/
def IsList (g : Text) : Prop := opensList g = true ∧ IsGroup g

/-- A text cut into the closed lists at its start and a rest that no closed list starts. If the rest
opens a list, this list is never closed. -/
structure Lists (t : Text) (closed : List Text) (rest : Text) : Prop where
  /-- The lists and the rest make up the text. -/
  cut : t = closed.flatten ++ rest
  /-- Each list is closed. -/
  isList : ∀ g ∈ closed, IsList g
  /-- No closed list starts the rest. -/
  ends : ∀ g, IsList g → ¬g <+: rest

/-- Whether a text opens a list is decided by its first character. -/
theorem opensList_append (h : g ≠ []) (rest : Text) : opensList (g ++ rest) = opensList g := by
  cases g with
  | nil => exact absurd rfl h
  | cons c g => rfl

/-- A list is cut off whatever follows it. -/
theorem IsList.splitBalanced_append (h : IsList g) (rest : Text) :
    opensList (g ++ rest) = true ∧ splitBalanced (g ++ rest) = ⟨g, rest⟩ := by
  rw [opensList_append h.2.ne_nil]
  exact ⟨h.1, h.2.splitBalanced_append rest⟩

/-- What the reading of lists tests for is a closed list at the start. -/
theorem opensList_and_group_iff :
    (opensList t && !(splitBalanced t).group.isEmpty) = true ↔ ∃ g, IsList g ∧ g <+: t := by
  constructor
  · intro h
    rw [Bool.and_eq_true, Bool.not_eq_true', List.isEmpty_eq_false_iff] at h
    obtain ⟨hopens, hgroup⟩ := h
    have hall := splitBalanced_append t
    refine ⟨(splitBalanced t).group, ⟨?_, isGroup_splitBalanced hgroup⟩, _, hall⟩
    rwa [← hall, opensList_append hgroup] at hopens
  · rintro ⟨g, hlist, rest, rfl⟩
    obtain ⟨hopens, hsplit⟩ := hlist.splitBalanced_append rest
    rw [hopens, hsplit]
    simpa using hlist.2.ne_nil

/-- A list in front is the first of the lists that are read. -/
theorem lists_of_isList (h : IsList g) (rest : Text) :
    lists (g ++ rest) = g :: lists rest ∧ afterLists (g ++ rest) = afterLists rest := by
  have hcond := opensList_and_group_iff.mpr ⟨g, h, List.prefix_append g rest⟩
  rw [lists, afterLists, if_pos hcond, if_pos hcond, (h.splitBalanced_append rest).2]
  exact ⟨rfl, rfl⟩

/-- No list is read from a text that starts with none. -/
theorem lists_of_ends (h : ∀ g, IsList g → ¬g <+: t) : lists t = [] ∧ afterLists t = t := by
  have hcond : ¬(opensList t && !(splitBalanced t).group.isEmpty) = true := by
    rw [opensList_and_group_iff]
    rintro ⟨g, hlist, hstart⟩
    exact h g hlist hstart
  rw [lists, afterLists, if_neg hcond, if_neg hcond]
  exact ⟨rfl, rfl⟩

/-- The lists that are read, and the rest after them, are such a cut. -/
theorem lists_cut (t : Text) : Lists t (lists t) (afterLists t) := by
  fun_induction lists t with
  | case1 t hcond ih =>
    obtain ⟨g, hlist, rest, rfl⟩ := opensList_and_group_iff.mp hcond
    rw [(hlist.splitBalanced_append rest).2] at ih ⊢
    rw [(lists_of_isList hlist rest).2]
    refine ⟨?_, List.forall_mem_cons.mpr ⟨hlist, ih.isList⟩, ih.ends⟩
    rw [List.flatten_cons, List.append_assoc, ← ih.cut]
  | case2 t hcond =>
    have hends : ∀ g, IsList g → ¬g <+: t := fun g hlist hstart =>
      hcond (opensList_and_group_iff.mpr ⟨g, hlist, hstart⟩)
    rw [(lists_of_ends hends).2]
    exact ⟨rfl, List.forall_mem_nil _, hends⟩

/-- There is one such cut. -/
theorem Lists.unique (h : Lists t closed rest) : lists t = closed ∧ afterLists t = rest := by
  obtain ⟨rfl, hlists, hends⟩ := h
  induction closed with
  | nil => exact lists_of_ends hends
  | cons g closed ih =>
    obtain ⟨hg, hclosed⟩ := List.forall_mem_cons.mp hlists
    obtain ⟨hmore, hafter⟩ := ih hclosed
    rw [List.flatten_cons, List.append_assoc, (lists_of_isList hg _).1, (lists_of_isList hg _).2,
      hmore, hafter]
    exact ⟨rfl, rfl⟩

/-- The look-ahead sees a list that is never closed, but only if no closed list comes first. -/
theorem opensAttributeList_iff (h : hasHead line = true)
    (hlists : Lists (afterHead line) closed rest) :
    opensAttributeList line = true ↔ opensList rest = true ∧ closed = [] := by
  have hdef : opensAttributeList line = true ↔ opensList (afterHead line) = true ∧
      ¬(opensList (afterHead line) && !(splitBalanced (afterHead line)).group.isEmpty) = true := by
    rw [opensAttributeList, h]
    cases opensList (afterHead line) <;> simp
  rw [hdef, opensList_and_group_iff]
  constructor
  · rintro ⟨hopens, hnone⟩
    obtain ⟨hclosed, hrest⟩ := lists_of_ends fun g hlist hstart => hnone ⟨g, hlist, hstart⟩
    rw [← hlists.unique.1, ← hlists.unique.2, hclosed, hrest]
    exact ⟨hopens, rfl⟩
  · rintro ⟨hopens, rfl⟩
    have hrest : afterHead line = rest := hlists.cut
    rw [hrest]
    refine ⟨hopens, ?_⟩
    rintro ⟨g, hlist, hstart⟩
    exact hlists.ends g hlist hstart

/-- A line with a tag or a shorthand starts with its mark and a character of a name. -/
theorem exists_start_of_hasHead (h : hasHead line = true) :
    ∃ c d more, line = c :: d :: more ∧
      (c = '%' ∧ Text.isTagChar d = true ∨ (c = '.' ∨ c = '#') ∧ Text.isNameChar d = true) := by
  rw [hasHead, Bool.or_eq_true] at h
  obtain htag | hshort := h
  · rw [tag?.eq_def] at htag
    split at htag
    · rename_i more
      split at htag
      · rename_i hany
        cases more with
        | nil => cases hany
        | cons d more => exact ⟨'%', d, more, rfl, .inl ⟨rfl, hany⟩⟩
      · cases htag
    · cases htag
  · cases line with
    | nil => rw [shorthands] at hshort; cases hshort
    | cons c more =>
      rw [shorthands] at hshort
      split at hshort
      · rename_i hcond
        rw [Bool.and_eq_true, isShorthandMark, Bool.or_eq_true, beq_iff_eq, beq_iff_eq] at hcond
        cases more with
        | nil => cases hcond.2
        | cons d more => exact ⟨c, d, more, rfl, .inr hcond⟩
      · cases hshort

/-- A line that starts with a tag or a shorthand is an element. -/
theorem ofLine_of_hasHead (h : hasHead line = true) :
    Kind.ofLine line = .markup ∧ Markup.ofLine line = .element (ofLine line) := by
  obtain ⟨c, d, more, rfl, ⟨rfl, hd⟩ | ⟨rfl | rfl, hd⟩⟩ := exists_start_of_hasHead h
  all_goals
    refine ⟨?_, rfl⟩
    simp [Kind.ofLine, FilterKind.ofLine?, Kind.isCommentLine, Kind.isCodeLine,
      Kind.isMarkupLine, hd]

/-- A list that is not closed is content. -/
theorem content_of_opensList (h : opensList (afterLists (afterHead line)) = true) :
    (ofLine line).content = Text.trim (afterLists (afterHead line)) ∧
      (ofLine line).marker = none := by
  rw [ofLine]
  cases hrest : afterLists (afterHead line) with
  | nil =>
    rw [hrest] at h
    cases h
  | cons c more =>
    rw [hrest] at h
    have hc : c = '\x7b' ∨ c = '(' := by simpa [opensList] using h
    obtain rfl | rfl := hc
    · exact ⟨rfl, rfl⟩
    · exact ⟨rfl, rfl⟩

/-- A line that starts with a tag or a shorthand is an element with the attributes of its closed
lists, and what follows these is determined by the line. The look-ahead finds an open list exactly
if that rest opens one and no closed list comes before it. An open list becomes the content of the
element, and after a closed list no next line can continue it. -/
theorem opensAttributeList_iff_first {line : Text} (h : hasHead line = true) :
    ∃ closed rest, Lists (afterHead line) closed rest ∧
      (∀ others more, Lists (afterHead line) others more → others = closed ∧ more = rest) ∧
      Kind.ofLine line = .markup ∧
      ∃ element, Markup.ofLine line = .element element ∧
        element.attributes = closed.flatMap Attribute.ofList ∧
        (opensAttributeList line = true ↔ opensList rest = true ∧ closed = []) ∧
        (opensList rest = true → element.content = Text.trim rest ∧ element.marker = none ∧
          (closed ≠ [] → ∀ next, LogicalLine.continues line next = false)) := by
  obtain ⟨hkind, hmarkup⟩ := ofLine_of_hasHead h
  have hcut := lists_cut (afterHead line)
  refine ⟨_, _, hcut, fun others more hother => ?_, hkind, _, hmarkup, rfl,
    opensAttributeList_iff h hcut, fun hopens => ?_⟩
  · exact ⟨hother.unique.1.symm, hother.unique.2.symm⟩
  · obtain ⟨hcontent, hmarker⟩ := content_of_opensList hopens
    refine ⟨hcontent, hmarker, fun hclosed next => ?_⟩
    have hno : opensAttributeList line = false := by
      rw [← Bool.not_eq_true, opensAttributeList_iff h hcut]
      exact fun hfirst => hclosed hfirst.2
    rw [LogicalLine.continues, hno]
    rfl

/-- A line with an open list after a closed one. -/
def lateOpen : Text := "%p\x7ba: 1\x7d(b=2".toList

/-- A second list that is left open is no list: it is read as content, and no line continues it. -/
theorem opensAttributeList_iff_first_lateOpen :
    hasHead lateOpen = true ∧ opensAttributeList lateOpen = false ∧
      Lists (afterHead lateOpen) ["\x7ba: 1\x7d".toList] "(b=2".toList ∧
      ∃ element, Markup.ofLine lateOpen = .element element ∧
        element.attributes = [⟨['a'], ['1']⟩] ∧ element.content = "(b=2".toList ∧
        ∀ next, LogicalLine.continues lateOpen next = false := by
  have hhead : hasHead lateOpen = true := by decide +kernel
  have hread : lists (afterHead lateOpen) = ["\x7ba: 1\x7d".toList] ∧
      afterLists (afterHead lateOpen) = "(b=2".toList := by decide +kernel
  obtain ⟨closed, rest, hcut, -, -, element, hmarkup, hattributes, hiff, hopen⟩ :=
    opensAttributeList_iff_first hhead
  obtain rfl : _ = closed := hread.1.symm.trans hcut.unique.1
  obtain rfl : _ = rest := hread.2.symm.trans hcut.unique.2
  obtain ⟨hcontent, -, hcontinues⟩ := hopen rfl
  refine ⟨hhead, ?_, hcut, element, hmarkup, hattributes.trans (by decide +kernel), hcontent,
    hcontinues (List.cons_ne_nil _ _)⟩
  rw [← Bool.not_eq_true, hiff]
  exact fun hfirst => List.cons_ne_nil _ _ hfirst.2

end Haml.Element
