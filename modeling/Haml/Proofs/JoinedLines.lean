import Haml.Proofs.ElementLine
import Haml.Proofs.OpenList
import Haml.Proofs.Verbatim

/-!
# Logical lines written on one line

An attribute list that goes on over several physical lines can as well be written on one: the
indentation of the first line, then all lines with one space between them. In the source that has
each logical line on one physical line nothing more is joined, and it gives the same tree, or an
error with the same fault at the same logical line. The decision to join a line looks at the line as
it stands, and there it does not see blanks at the end; a line that is itself continued begins with
a marker and is never joined to one before it.
-/

namespace Haml

namespace Text

variable {t blanks : Text}

/-- The code points of the blanks. -/
def blankCodes : List Nat :=
  List.range' 0x09 5 ++ List.range' 0x1C 5 ++ [0x85, 0xA0, 0x1680] ++ List.range' 0x2000 11 ++
    [0x2028, 0x2029, 0x202F, 0x205F, 0x3000]

/-- A blank is one of the code points listed as such. -/
theorem toNat_mem_blankCodes {c : Char} (h : isBlank c = true) : c.toNat ∈ blankCodes := by
  simp only [isBlank, Bool.or_eq_true, Bool.and_eq_true, decide_eq_true_eq, beq_iff_eq] at h
  simp only [blankCodes, List.mem_append, List.mem_range'_1, List.mem_cons, List.not_mem_nil]
  omega

/-- A blank is no part of a word. -/
theorem isWord_of_isBlank {c : Char} (h : isBlank c = true) : isWord c = false := by
  have hall : (blankCodes.all fun n => !isWord (Char.ofNat n)) = true := by decide +kernel
  have hword := List.all_eq_true.mp hall _ (toNat_mem_blankCodes h)
  rw [Char.ofNat_toNat] at hword
  simpa using hword

/-- A trimmed text does not end with a blank. -/
theorem not_isBlank_getLast?_trim (t : Text) : ∀ c ∈ (trim t).getLast?, isBlank c = false := by
  intro c hc
  rw [trim, trimRight, List.getLast?_reverse] at hc
  have hnot := List.head?_dropWhile_not isBlank (trimLeft t).reverse
  rw [Option.mem_def.mp hc] at hnot
  exact hnot

/-- What trimming at the end takes away is blank. -/
theorem exists_blanks_trimLeft (t : Text) :
    ∃ blanks, trimLeft t = trim t ++ blanks ∧ ∀ c ∈ blanks, isBlank c = true :=
  ⟨(trimLeft t).rtakeWhile isBlank, List.rdropWhile_append_rtakeWhile.symm,
    fun _ hc => List.mem_rtakeWhile_imp hc⟩

/-- Blanks in front of a text are trimmed off. -/
theorem trimLeft_append_of_blank (h : ∀ c ∈ blanks, isBlank c = true) (t : Text) :
    trimLeft (blanks ++ t) = trimLeft t := List.dropWhile_append_of_pos h

/-- Blanks after a text stay after it, unless all of it is blank. -/
theorem trimLeft_append (h : ∀ c ∈ blanks, isBlank c = true) (t : Text) :
    trimLeft (t ++ blanks) = if trimLeft t = [] then [] else trimLeft t ++ blanks := by
  have hnil : blanks.dropWhile isBlank = [] := List.dropWhile_eq_nil_iff.mpr h
  rw [trimLeft, List.dropWhile_append, hnil]
  simp only [List.isEmpty_iff]
  rfl

end Text

namespace LogicalLine

variable {blanks : Text}

/-- A blank is in no key. -/
theorem isKeyChar_of_isBlank {c : Char} (h : Text.isBlank c = true) : isKeyChar c = false := by
  have hnone {d : Char} (hd : Text.isBlank d = false) : c ≠ d := by
    rintro rfl
    rw [hd] at h
    cases h
  simp only [isKeyChar, Text.isTagChar, Text.isNameChar, Text.isWord_of_isBlank h, Bool.or_false,
    Bool.or_eq_false_iff, beq_eq_false_iff_ne]
  exact ⟨hnone (by decide), hnone (by decide), hnone (by decide)⟩

/-- A blank is no marker. -/
theorem isMarker_of_isBlank {c : Char} (h : Text.isBlank c = true) : isMarker c = false := by
  have hall : ("-=&!~.%#</".toList.all fun c => !Text.isBlank c) = true := by decide
  by_contra hmarker
  have hmem := List.contains_iff_mem.mp (Bool.not_eq_false _ ▸ hmarker)
  have hvisible := List.all_eq_true.mp hall c hmem
  rw [h] at hvisible
  cases hvisible

/-- The indentation of a line is blank. -/
theorem isBlank_of_mem_indentation (line : Text) : ∀ c ∈ indentation line, Text.isBlank c = true :=
  fun _ hc => List.mem_takeWhile_imp hc

/-- A text without a quote at its start. -/
def afterQuote (t : Text) : Text :=
  match t with
  | c :: rest => if Bracket.isQuote c then rest else t
  | [] => []

section Blanks

variable (h : ∀ c ∈ blanks, Text.isBlank c = true)
include h

/-- Blanks at the end do not make anything visible. -/
theorem hasVisible_append (t : Text) : hasVisible (t ++ blanks) = hasVisible t := by
  have hnone : (blanks.any fun c => !Text.isBlank c) = false :=
    List.any_eq_false.mpr fun c hc => by rw [h c hc]; exact Bool.false_ne_true
  rw [hasVisible, List.any_append, hnone, Bool.or_false, hasVisible]

/-- Blanks after a run do not make a colon an inner one. -/
theorem hasInnerColon_append (after t : Text) :
    hasInnerColon (after ++ blanks) t = hasInnerColon after t := by
  induction t with
  | nil => rfl
  | cons c t ih => rw [hasInnerColon, hasInnerColon, ih, ← List.append_assoc, hasVisible_append h]

/-- Blanks do not start with a visible character. -/
theorem head?_ne_of_blank {d : Char} (hd : Text.isBlank d = false) : blanks.head? ≠ some d := by
  intro hhead
  have hblank := h d (List.mem_of_mem_head? hhead)
  rw [hd] at hblank
  cases hblank

/-- Blanks at the end do not make a sign. -/
theorem hasSign_append (t : Text) : hasSign (t ++ blanks) = hasSign t := by
  have harrow := head?_ne_of_blank h (d := '>') (by decide)
  rw [hasSign, hasSign, Attribute.afterSign?.eq_def, Attribute.afterSign?.eq_def,
    Text.trimLeft_append h]
  cases hstart : Text.trimLeft t with
  | nil => rfl
  | cons c rest =>
    rw [if_neg (List.cons_ne_nil _ _), List.cons_append]
    by_cases hcolon : c = ':'
    · subst hcolon
      exact hasVisible_append h rest
    by_cases hequals : c = '='
    · subst hequals
      cases rest with
      | nil =>
        cases blanks with
        | nil => rfl
        | cons d more =>
          have hd : d ≠ '>' := fun heq => harrow (heq ▸ rfl)
          simp [hd]
      | cons d rest =>
        by_cases hd : d = '>'
        · subst hd
          exact hasVisible_append h rest
        · rw [List.cons_append]
          split <;> simp_all
    · split <;> simp_all

/-- Blanks at the end do not make an equals sign. -/
theorem hasEquals_append (t : Text) : hasEquals (t ++ blanks) = hasEquals t := by
  rw [hasEquals, hasEquals, Text.trimLeft_append h]
  cases hstart : Text.trimLeft t with
  | nil => rfl
  | cons c rest =>
    rw [if_neg (List.cons_ne_nil _ _), List.cons_append]
    by_cases hequals : c = '='
    · subst hequals
      exact hasVisible_append h rest
    · split <;> simp_all

/-- A run of name characters ends before the blanks. -/
theorem span_isKeyChar_append (t : Text) :
    (t ++ blanks).takeWhile isKeyChar = t.takeWhile isKeyChar ∧
      (t ++ blanks).dropWhile isKeyChar = t.dropWhile isKeyChar ++ blanks := by
  have hstop : ∀ c ∈ (t.dropWhile isKeyChar ++ blanks).head?, isKeyChar c = false := by
    intro c hc
    have hnot := List.head?_dropWhile_not isKeyChar t
    cases hafter : t.dropWhile isKeyChar with
    | nil =>
      rw [hafter, List.nil_append] at hc
      exact isKeyChar_of_isBlank (h c (List.mem_of_mem_head? hc))
    | cons d rest =>
      rw [hafter] at hc hnot
      obtain rfl : d = c := Option.some.inj hc
      exact hnot
  have hname : ∀ c ∈ t.takeWhile isKeyChar, isKeyChar c = true :=
    fun c hc => List.mem_takeWhile_imp hc
  have hspan := Text.span_append hname hstop
  rwa [← List.append_assoc, List.takeWhile_append_dropWhile] at hspan

/-- Blanks at the end do not make an entry of a list with round brackets. -/
theorem isHtmlEntry_append (t : Text) : isHtmlEntry (t ++ blanks) = isHtmlEntry t := by
  obtain ⟨hname, hafter⟩ := span_isKeyChar_append h t
  rw [isHtmlEntry, hname, hafter, hasEquals_append h, isHtmlEntry]

/-- Blanks at the end stay behind a quoted key. -/
theorem afterQuote_append (t : Text) : afterQuote (t ++ blanks) = afterQuote t ++ blanks := by
  cases t with
  | nil =>
    cases blanks with
    | nil => rfl
    | cons c rest =>
      have hquote := (Bracket.not_isQuote_of_isBlank (h c List.mem_cons_self)).1
      rw [List.nil_append, afterQuote, if_neg (by rw [hquote]; exact Bool.false_ne_true)]
      rfl
  | cons c rest =>
    rw [List.cons_append, afterQuote, afterQuote]
    split <;> rfl

/-- Blanks at the end do not make an entry of a list with curly brackets. -/
theorem isHashEntry_append (t : Text) : isHashEntry (t ++ blanks) = isHashEntry t := by
  have hentry : ∀ t, isHashEntry t = (!((afterQuote t).takeWhile isKeyChar).isEmpty &&
      (hasInnerColon ((afterQuote t).dropWhile isKeyChar)
          (((afterQuote t).takeWhile isKeyChar).drop 1) ||
        hasSign (afterQuote ((afterQuote t).dropWhile isKeyChar)))) := fun _ => rfl
  obtain ⟨hname, hafter⟩ := span_isKeyChar_append h (afterQuote t)
  rw [hentry, hentry, afterQuote_append h, hname, hafter, hasInnerColon_append h,
    afterQuote_append h,
    hasSign_append h]

end Blanks

/-- Whether a line continues another does not depend on the blanks at its end. -/
theorem continues_trimmed (expression line : Text) :
    continues expression (indentation line ++ Text.trim line) = continues expression line := by
  obtain ⟨blanks, hline, hblanks⟩ := Text.exists_blanks_trimLeft line
  have hstart : Text.trimLeft (indentation line ++ Text.trim line) = Text.trim line := by
    rw [Text.trimLeft_append_of_blank (isBlank_of_mem_indentation line)]
    exact Text.trimLeft_eq_self (Text.not_isBlank_head?_trim line)
  have hmarker : (Text.trim line ++ blanks).head?.any isMarker =
      (Text.trim line).head?.any isMarker := by
    cases Text.trim line with
    | cons c rest => rfl
    | nil =>
      cases blanks with
      | nil => rfl
      | cons c rest => exact isMarker_of_isBlank (hblanks c List.mem_cons_self)
  rw [continues, continues, isMarkerLine, isMarkerLine, isAttributeLine, isAttributeLine, hstart,
    hline, hmarker, isHashEntry_append hblanks, isHtmlEntry_append hblanks]

/-- Physical lines written as one, without indentation. -/
def merged (group : List Text) : Text := List.intercalate [' '] (group.map Text.trim)

/-- Physical lines written as one. -/
def joinedLine (group : List Text) : Text := indentation (group.headD []) ++ merged group

/-- A line on its own is written without its blanks. -/
theorem merged_singleton (line : Text) : merged [line] = Text.trim line :=
  List.intercalate_singleton

/-- A line, and lines that each continue those before them. -/
inductive Continued : List Text → Prop
  | single (line : Text) : Continued [line]
  | concat {group : List Text} {next : Text} (h : Continued group)
      (hnext : continues (merged group) next = true) : Continued (group ++ [next])

/-- The groups of physical lines of which the first starts with the lines given. -/
def groupsFrom (group : List Text) : List Text → List (List Text)
  | [] => [group]
  | next :: rest =>
    if continues (merged group) next then groupsFrom (group ++ [next]) rest
    else group :: groupsFrom [next] rest

/-- Physical lines cut where a logical line starts. -/
def groups : List Text → List (List Text)
  | [] => []
  | line :: rest => groupsFrom [line] rest

/-- A cut of physical lines into groups that continue within and not from one to the next. -/
structure Groups (lines : List Text) (groups : List (List Text)) : Prop where
  /-- The groups are the lines in order. -/
  cut : groups.flatten = lines
  /-- The lines of a group continue its first line. -/
  continued : ∀ group ∈ groups, Continued group
  /-- The next group does not. -/
  ends : groups.IsChain fun group next => ∀ line ∈ next.head?, continues (merged group) line = false

/-- The logical lines of groups, of which some physical lines precede the first. -/
def ofGroups (before : Nat) : List (List Text) → List LogicalLine
  | [] => []
  | group :: groups =>
    ⟨before + 1, (indentation (group.headD [])).length, merged group⟩ ::
      ofGroups (before + group.length) groups

/-- A group has at least one line. -/
theorem Continued.ne_nil {group : List Text} (h : Continued group) : group ≠ [] := by
  cases h with
  | single line => exact List.cons_ne_nil _ _
  | concat h hnext => exact List.append_ne_nil_of_right_ne_nil _ (List.cons_ne_nil _ _)

/-- One more line of a group is written after a space. -/
theorem merged_concat {group : List Text} (h : group ≠ []) (next : Text) :
    merged (group ++ [next]) = merged group ++ ' ' :: Text.trim next := by
  have hempty : (group.map Text.trim).isEmpty = false := by simpa using h
  rw [merged, List.map_append, List.map_singleton, Text.intercalate_concat, hempty, merged]
  rfl

/-- The groups that start with the lines given. -/
theorem groups_groupsFrom {group : List Text} (h : Continued group) (lines : List Text) :
    Groups (group ++ lines) (groupsFrom group lines) ∧
      ∃ taken more, groupsFrom group lines = (group ++ taken) :: more := by
  induction lines generalizing group with
  | nil =>
    refine ⟨⟨by simp [groupsFrom], ?_, List.isChain_singleton _⟩, [], [], by simp [groupsFrom]⟩
    exact List.forall_mem_singleton.mpr h
  | cons next lines ih =>
    rw [groupsFrom]
    split
    · rename_i hnext
      obtain ⟨hgroups, taken, more, heq⟩ := ih (h.concat hnext)
      rw [List.append_assoc] at hgroups heq
      exact ⟨hgroups, next :: taken, more, heq⟩
    · rename_i hnext
      obtain ⟨hgroups, taken, more, heq⟩ := ih (.single next)
      refine ⟨⟨?_, ?_, ?_⟩, [], _, by rw [List.append_nil]⟩
      · rw [List.flatten_cons, hgroups.cut]
        rfl
      · exact List.forall_mem_cons.mpr ⟨h, hgroups.continued⟩
      · refine List.isChain_cons.mpr ⟨?_, hgroups.ends⟩
        intro other hother line hline
        rw [heq] at hother
        obtain rfl := Option.some.inj hother
        obtain rfl : next = line := Option.some.inj hline
        simpa using hnext

/-- Physical lines are cut into groups where a logical line starts. -/
theorem groups_groups (lines : List Text) : Groups lines (groups lines) := by
  cases lines with
  | nil => exact ⟨rfl, List.forall_mem_nil _, List.isChain_nil⟩
  | cons line lines => exact (groups_groupsFrom (.single line) lines).1

/-- A group and what joining makes of its lines. -/
theorem groupsFrom_eq {group : List Text} (h : group ≠ []) (lines : List Text) :
    ∃ taken, lines = taken ++ (joinLines (merged group) lines).rest ∧
      (joinLines (merged group) lines).expression = merged (group ++ taken) ∧
      groupsFrom group lines =
        (group ++ taken) :: groups (joinLines (merged group) lines).rest := by
  induction lines generalizing group with
  | nil => exact ⟨[], rfl, by rw [List.append_nil]; rfl, by rw [List.append_nil]; rfl⟩
  | cons next lines ih =>
    rw [joinLines, groupsFrom]
    split
    · obtain ⟨taken, hlines, hexpression, hgroups⟩ :=
        ih (List.append_ne_nil_of_left_ne_nil h [next])
      rw [merged_concat h] at hlines hexpression hgroups
      rw [List.append_assoc] at hexpression hgroups
      exact ⟨next :: taken, by rw [List.cons_append, ← hlines], hexpression, hgroups⟩
    · exact ⟨[], rfl, by rw [List.append_nil], by rw [List.append_nil]; rfl⟩

/-- The logical lines are the groups, numbered by the physical lines. -/
theorem ofLines_eq_ofGroups (before : Nat) (lines : List Text) :
    ofLines before lines = ofGroups before (groups lines) := by
  induction hl : lines.length using Nat.strong_induction_on generalizing before lines with
  | _ size ih =>
    cases lines with
    | nil => rw [ofLines_nil]; rfl
    | cons line rest =>
      obtain ⟨taken, hrest, hexpression, hgroups⟩ := groupsFrom_eq (List.cons_ne_nil line []) rest
      rw [merged_singleton] at hrest hexpression hgroups
      have hlength := congrArg List.length hrest
      rw [List.length_append] at hlength
      rw [List.length_cons] at hl
      rw [ofLines_cons, groups, hgroups, ofGroups, hexpression, ih _ (by omega) _ _ rfl]
      congr 2
      simp only [List.length_append, List.length_cons, List.length_nil]
      omega

/-- The logical line of a group has the number and the width of its first line, and the text of all
its lines. -/
theorem getElem?_ofGroups (before k : Nat) (groups : List (List Text)) :
    (ofGroups before groups)[k]? = groups[k]?.map fun group =>
      ⟨before + (groups.take k).flatten.length + 1, (indentation (group.headD [])).length,
        merged group⟩ := by
  induction groups generalizing before k with
  | nil => rfl
  | cons group groups ih =>
    cases k with
    | zero => rfl
    | succ k =>
      rw [ofGroups, List.getElem?_cons_succ, ih, List.getElem?_cons_succ, List.take_succ_cons,
        List.flatten_cons, List.length_append, Nat.add_assoc before]

/-- Lines that are not joined are groups of their own. -/
theorem groups_of_unjoined {lines : List Text} (h : Unjoined lines) :
    groups lines = lines.map fun line => [line] := by
  induction lines with
  | nil => rfl
  | cons line lines ih =>
    obtain ⟨hhead, htail⟩ := List.isChain_cons.mp h
    cases lines with
    | nil => rfl
    | cons next lines =>
      rw [groups, groupsFrom, merged_singleton, hhead next rfl, if_neg Bool.false_ne_true,
        List.map_cons, ← ih htail]
      rfl

variable {group : List Text}

/-- A line that continues another is not blank. -/
theorem trim_ne_nil_of_continues {expression next : Text} (h : continues expression next = true) :
    Text.trim next ≠ [] := by
  intro hnil
  have hblank : Text.trimLeft (indentation next) = [] :=
    List.dropWhile_eq_nil_iff.mpr (isBlank_of_mem_indentation next)
  rw [← continues_trimmed, hnil, List.append_nil, continues, isAttributeLine, hblank,
    Bool.and_eq_true] at h
  exact absurd h.2 (by decide)

/-- A group of several lines begins with a marker. -/
theorem Continued.cases (h : Continued group) :
    (∃ line, group = [line]) ∨ ∃ c more, merged group = c :: more ∧ isMarker c = true := by
  cases h with
  | single line => exact .inl ⟨line, rfl⟩
  | @concat group next h hnext =>
    rw [continues, Element.opensAttributeList, Bool.and_eq_true, Bool.and_eq_true, Bool.and_eq_true,
      Bool.and_eq_true] at hnext
    obtain ⟨c, d, more, hstart, hc⟩ := Element.exists_start_of_hasHead hnext.1.1.1.1
    refine .inr ⟨c, d :: more ++ ' ' :: Text.trim next, ?_, ?_⟩
    · rw [merged_concat h.ne_nil, hstart]
      rfl
    · obtain ⟨rfl, -⟩ | ⟨rfl | rfl, -⟩ := hc
      all_goals decide

/-- A group that is written as one does not start with a blank. -/
theorem Continued.not_isBlank_head? (h : Continued group) :
    ∀ c ∈ (merged group).head?, Text.isBlank c = false := by
  intro c hc
  obtain ⟨line, rfl⟩ | ⟨d, more, hmerged, hd⟩ := h.cases
  · rw [merged_singleton] at hc
    exact Text.not_isBlank_head?_trim line c hc
  · rw [hmerged] at hc
    obtain rfl : d = c := Option.some.inj hc
    by_contra hblank
    rw [isMarker_of_isBlank (by simpa using hblank)] at hd
    cases hd

/-- A group that is written as one does not end with a blank. -/
theorem Continued.not_isBlank_getLast? (h : Continued group) :
    ∀ c ∈ (merged group).getLast?, Text.isBlank c = false := by
  cases h with
  | single line =>
    rw [merged_singleton]
    exact Text.not_isBlank_getLast?_trim line
  | @concat group next h hnext =>
    intro c hc
    have hne := trim_ne_nil_of_continues hnext
    rw [merged_concat h.ne_nil, List.getLast?_append_of_ne_nil _ (List.cons_ne_nil _ _),
      List.getLast?_cons_of_ne_nil hne] at hc
    exact Text.not_isBlank_getLast?_trim next c hc

/-- The line that a group is written on has the text of the group. -/
theorem Continued.trim_joinedLine (h : Continued group) :
    Text.trim (joinedLine group) = merged group := by
  have hmerged := Text.trim_eq_self h.not_isBlank_head? h.not_isBlank_getLast?
  rw [Text.trim] at hmerged ⊢
  rw [joinedLine, Text.trimLeft_append_of_blank (isBlank_of_mem_indentation _), hmerged]

/-- The line that a group is written on is indented as the first line of the group. -/
theorem Continued.indentation_joinedLine (h : Continued group) :
    indentation (joinedLine group) = indentation (group.headD []) := by
  rw [joinedLine, indentation_append (isBlank_of_mem_indentation _),
    indentation_of_start h.not_isBlank_head?, List.append_nil]

/-- A group on one line continues no line that its first line does not continue. -/
theorem Continued.not_continues (h : Continued group) {expression : Text}
    (hfirst : ∀ line ∈ group.head?, continues expression line = false) :
    continues expression (joinedLine group) = false := by
  obtain ⟨line, rfl⟩ | ⟨c, more, hmerged, hc⟩ := h.cases
  · rw [joinedLine, merged_singleton, List.headD_cons, continues_trimmed]
    exact hfirst line rfl
  · have hstart : Text.trimLeft (joinedLine group) = c :: more := by
      rw [joinedLine, Text.trimLeft_append_of_blank (isBlank_of_mem_indentation _),
        Text.trimLeft_eq_self h.not_isBlank_head?, hmerged]
    rw [continues, isMarkerLine, hstart, List.head?_cons, Option.any_some, hc]
    simp

/-- Groups on one line each are not joined any more. -/
theorem Groups.unjoined {lines : List Text} {groups : List (List Text)} (h : Groups lines groups) :
    Unjoined (groups.map joinedLine) := by
  refine (List.isChain_map joinedLine).mpr (h.ends.imp_of_mem_imp ?_)
  intro group next hgroup hnext hends
  rw [(h.continued group hgroup).trim_joinedLine]
  exact (h.continued next hnext).not_continues hends

/-- A group is written on one line. -/
theorem unbroken_joinedLine (h : ∀ line ∈ group, Text.Unbroken line) :
    Text.Unbroken (joinedLine group) := by
  refine Text.unbroken_append.mpr ⟨?_, ?_⟩
  · cases group with
    | nil => exact List.forall_mem_nil _
    | cons line group => exact (h line List.mem_cons_self).mono (List.takeWhile_subset _)
  · refine Text.unbroken_intercalate (by decide) (List.forall_mem_map.mpr fun line hline => ?_)
    exact (h line hline).mono (Text.trim_subset line)

/-- Two logical lines that differ in their numbers at most. -/
structure Alike (line other : LogicalLine) : Prop where
  /-- They have the same width. -/
  indent : line.indent = other.indent
  /-- They have the same text. -/
  expression : line.expression = other.expression

/-- The logical lines of groups, written over several lines or on one line each. -/
theorem alike_ofGroups {groups : List (List Text)} (h : ∀ group ∈ groups, Continued group)
    (before other : Nat) :
    List.Forall₂ Alike (ofGroups before groups)
      (ofGroups other (groups.map fun group => [joinedLine group])) := by
  induction groups generalizing before other with
  | nil => exact .nil
  | cons group groups ih =>
    obtain ⟨hgroup, hgroups⟩ := List.forall_mem_cons.mp h
    refine .cons ⟨?_, ?_⟩ (ih hgroups _ _)
    · exact congrArg List.length hgroup.indentation_joinedLine.symm
    · exact hgroup.trim_joinedLine.symm.trans (merged_singleton _).symm

end LogicalLine

namespace Nesting

variable {n : Nesting} {line other : LogicalLine}

/-- What becomes of a line depends on its width and text, and an error is at its number. -/
theorem step_cases_of_alike (h : line.Alike other) :
    (∃ m, n.step line = .ok m ∧ n.step other = .ok m) ∨
      ∃ fault, n.step line = .error ⟨fault, line.number⟩ ∧
        n.step other = .error ⟨fault, other.number⟩ := by
  obtain ⟨number, indent, expression⟩ := line
  obtain ⟨number', indent', expression'⟩ := other
  obtain ⟨rfl, rfl⟩ : indent = indent' ∧ expression = expression' := ⟨h.indent, h.expression⟩
  cases hstep : n.step ⟨number, indent, expression⟩ with
  | ok m =>
    refine .inl ⟨m, rfl, ?_⟩
    obtain ⟨he, ht, rfl⟩ | ⟨he, top, ht, rfl⟩ | ⟨hne, hf, rfl⟩ := step_cases hstep
    · rw [step, if_pos he, ht]
    · rw [step, if_pos he, ht]
    · rw [step, if_neg hne, hf]
      rfl
  | error error =>
    obtain ⟨hne, hfault, hnumber⟩ := step_eq_error_iff.mp hstep
    refine .inr ⟨error.fault, ?_, step_eq_error_iff.mpr ⟨hne, hfault, rfl⟩⟩
    rw [← hnumber]

/-- Lines that differ in their numbers at most give the same tree, or fail at the same line with the
same fault. -/
theorem foldlM_cases_of_alike {lines others : List LogicalLine}
    (h : List.Forall₂ LogicalLine.Alike lines others) (n : Nesting) :
    (∃ m, lines.foldlM step n = .ok m ∧ others.foldlM step n = .ok m) ∨
      ∃ (k : Nat) (line other : LogicalLine) (fault : Outline.Fault),
        lines[k]? = some line ∧ others[k]? = some other ∧
        lines.foldlM step n = .error ⟨fault, line.number⟩ ∧
        others.foldlM step n = .error ⟨fault, other.number⟩ := by
  induction h generalizing n with
  | nil => exact .inl ⟨n, rfl, rfl⟩
  | @cons line other lines others hline _ ih =>
    rw [List.foldlM_cons, List.foldlM_cons]
    obtain ⟨m, hm, hm'⟩ | ⟨fault, he, he'⟩ := step_cases_of_alike hline
    · rw [hm, hm']
      obtain hok | ⟨k, first, second, fault, hfirst, hsecond, he, he'⟩ := ih m
      · exact .inl hok
      · exact .inr ⟨k + 1, first, second, fault, hfirst, hsecond, he, he'⟩
    · rw [he, he']
      exact .inr ⟨0, line, other, fault, rfl, rfl, rfl, rfl⟩

end Nesting

namespace Template

open LogicalLine (groups Groups ofGroups joinedLine Unjoined)

/-- The source with each logical line on one physical line. -/
def joined (source : Text) : Text :=
  (groups (Text.splitLines source)).flatMap fun group => joinedLine group ++ ['\n']

/-- The lines of the joined source are the groups, each on one line. -/
theorem splitLines_joined (source : Text) :
    Text.splitLines (joined source) = (groups (Text.splitLines source)).map joinedLine := by
  have hgroups := LogicalLine.groups_groups (Text.splitLines source)
  have hunbroken : ∀ group ∈ groups (Text.splitLines source), Text.Unbroken (joinedLine group) := by
    intro group hgroup
    refine LogicalLine.unbroken_joinedLine fun line hline => ?_
    have hmem : line ∈ Text.splitLines source :=
      hgroups.cut ▸ List.mem_flatten_of_mem hgroup hline
    exact Text.not_isLineBreak_of_mem_splitLines hmem
  rw [joined]
  generalize groups (Text.splitLines source) = all at hunbroken
  induction all with
  | nil => rfl
  | cons group all ih =>
    obtain ⟨hgroup, hall⟩ := List.forall_mem_cons.mp hunbroken
    rw [List.flatMap_cons, List.append_assoc, List.singleton_append, Text.splitLines_append hgroup,
      ih hall, List.map_cons]

/-- Logical lines over several physical lines and on one. The physical lines of a source are cut
into groups, each of which makes up a logical line with the number of its first line. Written on one
line each, no line is joined to another any more, and the source gives the same tree, or an error
with the same fault at the first line of the same group. -/
theorem parse_joined (source : Text) :
    Groups (Text.splitLines source) (groups (Text.splitLines source)) ∧
    logicalLines source = ofGroups 0 (groups (Text.splitLines source)) ∧
    Text.splitLines (joined source) = (groups (Text.splitLines source)).map joinedLine ∧
    Unjoined (Text.splitLines (joined source)) ∧
    ((∃ tree, parse source = .ok tree ∧ parse (joined source) = .ok tree) ∨
      ∃ k fault, k < (groups (Text.splitLines source)).length ∧
        parse source =
          .error ⟨fault, (((groups (Text.splitLines source)).take k).flatten.length + 1 : Nat)⟩ ∧
        parse (joined source) = .error ⟨fault, (k + 1 : Nat)⟩) := by
  have hgroups := LogicalLine.groups_groups (Text.splitLines source)
  have hlines := splitLines_joined source
  have hsource : logicalLines source = ofGroups 0 (groups (Text.splitLines source)) :=
    LogicalLine.ofLines_eq_ofGroups 0 _
  have hjoined : logicalLines (joined source) =
      ofGroups 0 ((groups (Text.splitLines source)).map fun group => [joinedLine group]) := by
    rw [logicalLines, hlines, LogicalLine.ofLines_eq_ofGroups,
      LogicalLine.groups_of_unjoined hgroups.unjoined, List.map_map]
    rfl
  refine ⟨hgroups, hsource, hlines, by rw [hlines]; exact hgroups.unjoined, ?_⟩
  obtain ⟨m, hm, hm'⟩ | ⟨k, line, other, fault, hline, hother, he, he'⟩ :=
    Nesting.foldlM_cases_of_alike (LogicalLine.alike_ofGroups hgroups.continued 0 0) Nesting.start
  · rw [← hsource] at hm
    rw [← hjoined] at hm'
    exact .inl ⟨m.tree, Nesting.build_eq_ok_iff.mpr ⟨m, hm, rfl⟩,
      Nesting.build_eq_ok_iff.mpr ⟨m, hm', rfl⟩⟩
  · rw [← hsource] at he
    rw [← hjoined] at he'
    rw [LogicalLine.getElem?_ofGroups, Option.map_eq_some_iff] at hline hother
    obtain ⟨group, hgroup, rfl⟩ := hline
    obtain ⟨single, -, rfl⟩ := hother
    have hk := (List.getElem?_eq_some_iff.mp hgroup).1
    refine .inr ⟨k, fault, hk, Nesting.build_eq_error_iff.mpr ?_, Nesting.build_eq_error_iff.mpr ?_⟩
    · rwa [Nat.zero_add] at he
    · rwa [Nat.zero_add, ← List.map_take, ← List.flatMap_def, ← List.map_eq_flatMap,
        List.length_map, List.length_take, Nat.min_eq_left hk.le] at he'

example : joined "%p\x7ba: 1,\n    b: 2\x7d text \n  %b".toList =
    "%p\x7ba: 1, b: 2\x7d text\n  %b\n".toList := by decide +kernel

end Template

end Haml
