import Haml.Template
import Mathlib.Data.List.Chain
import Mathlib.Order.Nat

/-!
# Physical and logical lines

A logical line is a physical line with the lines that continue its attribute list. Cutting the
physical lines where a logical line starts cuts the logical lines in the same place, and the number
of a logical line counts all physical lines before its first one. The physical lines of a source
have no line break in them, so each can be split into its indentation and the rest.
-/

namespace Haml

namespace Text

/-- The physical lines of a text have no line break in them. -/
theorem not_isLineBreak_of_mem_splitLines {t line : Text} (h : line ∈ splitLines t) :
    ∀ c ∈ line, isLineBreak c = false := by
  fun_induction splitLines t generalizing line with
  | case1 => simp at h
  | case2 rest ih =>
    rcases List.mem_cons.mp h with rfl | h
    · simp
    · exact ih h
  | case3 c rest _ hb ih =>
    rcases List.mem_cons.mp h with rfl | h
    · simp
    · exact ih h
  | case4 c rest _ hb he ih =>
    obtain rfl := List.mem_singleton.mp h
    simpa using hb
  | case5 c rest _ hb first more he ih =>
    rw [he] at ih
    rcases List.mem_cons.mp h with rfl | h
    · intro d hd
      rcases List.mem_cons.mp hd with rfl | hd
      · simpa using hb
      · exact ih List.mem_cons_self d hd
    · exact ih (List.mem_cons_of_mem _ h)

/-- Trimming a text adds no characters. -/
theorem mem_of_mem_trim {c : Char} {t : Text} (h : c ∈ trim t) : c ∈ t := by
  rw [trim, trimRight, List.mem_reverse] at h
  have hm := List.mem_reverse.mp ((List.dropWhile_sublist _).subset h)
  exact (List.dropWhile_sublist _).subset hm

/-- Each physical line of a text splits into indentation and expression. -/
theorem splitLine?_of_mem_splitLines {t line : Text} (h : line ∈ splitLines t) :
    splitLine? line = some (LogicalLine.indentation line, trim line) := by
  have hn : (trim line).contains '\n' = false := by
    rw [← Bool.not_eq_true, List.contains_iff_mem]
    intro hm
    have hb := not_isLineBreak_of_mem_splitLines h '\n' (mem_of_mem_trim hm)
    exact absurd hb (by decide)
  rw [splitLine?, if_neg (by rw [hn]; exact Bool.false_ne_true)]

end Text

namespace LogicalLine

/-- Joining takes some lines from the front, and takes the same ones whatever follows, as long as
the next line does not continue. -/
theorem exists_taken (expression : Text) (lines : List Text) :
    ∃ taken, lines = taken ++ (joinLines expression lines).rest ∧
      ∀ tail, (∀ next ∈ tail.head?,
          continues (joinLines expression lines).expression next = false) →
        joinLines expression (taken ++ tail) = ⟨(joinLines expression lines).expression, tail⟩ := by
  induction lines generalizing expression with
  | nil =>
    refine ⟨[], rfl, ?_⟩
    intro tail ht
    cases tail with
    | nil => rfl
    | cons next tail =>
      have hc : continues expression next = false := ht next rfl
      simp [joinLines, hc]
  | cons next lines ih =>
    by_cases hc : continues expression next = true
    · obtain ⟨taken, he, ht⟩ := ih (expression ++ ' ' :: Text.trim next)
      refine ⟨next :: taken, ?_, ?_⟩
      · rw [joinLines, if_pos hc, List.cons_append, ← he]
      · intro tail
        rw [joinLines, if_pos hc, List.cons_append, joinLines, if_pos hc]
        exact ht tail
    · refine ⟨[], by rw [joinLines, if_neg hc]; rfl, ?_⟩
      intro tail ht
      rw [joinLines, if_neg hc] at ht ⊢
      cases tail with
      | nil => rfl
      | cons other tail =>
        have ho : continues expression other = false := ht other rfl
        simp [joinLines, ho]

/-- The line after the joined ones does not continue them. -/
theorem continues_rest_joinLines (expression : Text) (lines : List Text) :
    ∀ next ∈ (joinLines expression lines).rest.head?,
      continues (joinLines expression lines).expression next = false := by
  induction lines generalizing expression with
  | nil => simp [joinLines]
  | cons next lines ih =>
    by_cases hc : continues expression next = true
    · rw [joinLines, if_pos hc]
      exact ih _
    · rw [joinLines, if_neg hc]
      intro other ho
      obtain rfl : next = other := Option.some.inj ho
      simpa using hc

/-- Without physical lines there are no logical ones. -/
theorem ofLines_nil (before : Nat) : ofLines before [] = [] := by rw [ofLines]

/-- The first logical line starts on the first physical line and takes those that continue it; the
rest follows. -/
theorem ofLines_cons (before : Nat) (line : Text) (rest : List Text) :
    ofLines before (line :: rest) =
      ⟨before + 1, (indentation line).length, (joinLines (Text.trim line) rest).expression⟩ ::
        ofLines (before + 1 + (rest.length - (joinLines (Text.trim line) rest).rest.length))
          (joinLines (Text.trim line) rest).rest := by
  rw [ofLines]

/-- The first logical line and those after it, with the physical lines that make it up. -/
theorem ofLines_cons_eq (before : Nat) (line : Text) (rest : List Text) :
    ∃ taken tail expression, rest = taken ++ tail ∧
      (∀ next ∈ tail.head?, continues expression next = false) ∧
      ∀ other, (∀ next ∈ other.head?, continues expression next = false) →
        ofLines before (line :: (taken ++ other)) =
          ⟨before + 1, (indentation line).length, expression⟩ ::
            ofLines (before + 1 + taken.length) other := by
  obtain ⟨taken, he, ht⟩ := exists_taken (Text.trim line) rest
  refine ⟨taken, (joinLines (Text.trim line) rest).rest,
    (joinLines (Text.trim line) rest).expression,
    he, continues_rest_joinLines _ _, ?_⟩
  intro other ho
  rw [ofLines_cons, ht other ho, List.length_append, Nat.add_sub_cancel]

/-- Where a logical line stands: it is numbered by its first physical line, has the width of that
line, and the logical lines before it are those of the physical lines before it. -/
theorem ofLines_split {number : Nat} {lines : List Text} {before after : List LogicalLine}
    {line : LogicalLine} (h : ofLines number lines = before ++ line :: after) :
    ∃ above first below, lines = above ++ first :: below ∧
      line.number = number + above.length + 1 ∧ line.indent = (indentation first).length ∧
      line :: after = ofLines (number + above.length) (first :: below) ∧
      before = ofLines number above := by
  induction before generalizing number lines with
  | nil =>
    cases lines with
    | nil => simp [ofLines_nil] at h
    | cons first below =>
      have hl := h
      rw [ofLines_cons, List.nil_append, List.cons.injEq] at h
      obtain ⟨rfl, -⟩ := h
      exact ⟨[], first, below, rfl, rfl, rfl, hl.symm, (ofLines_nil number).symm⟩
  | cons head before ih =>
    cases lines with
    | nil => simp [ofLines_nil] at h
    | cons first rest =>
      obtain ⟨taken, tail, expression, rfl, hnext, heq⟩ := ofLines_cons_eq number first rest
      rw [heq tail hnext, List.cons_append, List.cons.injEq] at h
      obtain ⟨rfl, h⟩ := h
      obtain ⟨above, start, below, rfl, hnumber, hindent, hline, hbefore⟩ := ih h
      refine ⟨first :: (taken ++ above), start, below, by simp, ?_, hindent, ?_, ?_⟩
      · rw [hnumber, List.length_cons, List.length_append]
        omega
      · rw [hline, List.length_cons, List.length_append]
        congr 1
        omega
      · have ho : ∀ next ∈ above.head?, continues expression next = false := by
          intro next hn
          apply hnext
          cases above with
          | nil => cases hn
          | cons other above => exact hn
        rw [heq above ho, hbefore]

/-- The number of a line and of those after it does not change where lines are cut. -/
theorem ofLines_append {number : Nat} {lines rest : List Text} {next : Text}
    (h : ∀ line ∈ (ofLines number lines).getLast?, continues line.expression next = false) :
    ofLines number (lines ++ next :: rest) =
      ofLines number lines ++ ofLines (number + lines.length) (next :: rest) := by
  induction hl : lines.length using Nat.strong_induction_on generalizing number lines with
  | _ size ih =>
    cases lines with
    | nil =>
      obtain rfl : 0 = size := hl
      rw [ofLines_nil]
      rfl
    | cons first more =>
      obtain ⟨taken, tail, expression, rfl, hnext, heq⟩ := ofLines_cons_eq number first more
      rw [heq tail hnext] at h ⊢
      cases tail with
      | nil =>
        rw [ofLines_nil] at h ⊢
        have hlast : ∀ other ∈ (next :: rest).head?, continues expression other = false := by
          intro other ho
          obtain rfl : next = other := Option.some.inj ho
          exact h _ rfl
        have hsize : number + 1 + taken.length = number + size := by
          rw [← hl, List.length_cons, List.length_append, List.length_nil]
          omega
        rw [List.append_nil, List.cons_append, heq _ hlast, hsize]
        rfl
      | cons second tail =>
        have hlast : ∀ other ∈ (second :: (tail ++ next :: rest)).head?,
            continues expression other = false := hnext
        rw [List.length_cons, List.length_append] at hl
        have hsize : (second :: tail).length < size := by omega
        have hrest := ih _ hsize (fun line hline => h line (by
          rw [ofLines_cons] at hline ⊢
          rw [List.getLast?_cons_cons]
          exact hline)) rfl
        have hnumber : number + 1 + taken.length + (second :: tail).length = number + size := by
          omega
        rw [List.cons_append, List.append_assoc, List.cons_append, heq _ hlast, ← List.cons_append,
          hrest, hnumber, List.cons_append]

/-- A line that the next one does not continue is a logical line of its own. -/
theorem ofLines_cons_of_not_continues {number : Nat} {line : Text} {rest : List Text}
    (h : ∀ next ∈ rest.head?, continues (Text.trim line) next = false) :
    ofLines number (line :: rest) =
      ⟨number + 1, (indentation line).length, Text.trim line⟩ :: ofLines (number + 1) rest := by
  have hjoin : joinLines (Text.trim line) rest = ⟨Text.trim line, rest⟩ := by
    cases rest with
    | nil => rfl
    | cons next rest => rw [joinLines, if_neg (by rw [h next rfl]; exact Bool.false_ne_true)]
  rw [ofLines_cons, hjoin, Nat.sub_self, Nat.add_zero]

/-- No line is joined with the next one. -/
def Unjoined (lines : List Text) : Prop :=
  lines.IsChain fun line next => continues (Text.trim line) next = false

/-- Lines that are not joined are logical lines of their own. -/
theorem ofLines_of_unjoined (number : Nat) {lines rest : List Text}
    (h : Unjoined (lines ++ rest.take 1)) :
    ∃ front, ofLines number (lines ++ rest) = front ++ ofLines (number + lines.length) rest ∧
      front.map (fun line => (line.indent, line.expression)) =
        lines.map fun line => ((indentation line).length, Text.trim line) := by
  induction lines generalizing number with
  | nil => exact ⟨[], rfl, rfl⟩
  | cons line lines ih =>
    obtain ⟨hhead, htail⟩ := List.isChain_cons.mp h
    obtain ⟨front, heq, hfront⟩ := ih (number + 1) htail
    have hnext : ∀ next ∈ (lines ++ rest).head?, continues (Text.trim line) next = false := by
      intro next hn
      apply hhead
      cases lines with
      | nil => cases rest <;> exact hn
      | cons => exact hn
    refine ⟨⟨number + 1, (indentation line).length, Text.trim line⟩ :: front, ?_, ?_⟩
    · rw [List.cons_append, ofLines_cons_of_not_continues hnext, heq, List.cons_append,
        List.length_cons, Nat.add_assoc number 1, Nat.add_comm 1]
    · rw [List.map_cons, hfront, List.map_cons]

/-- When lines are joined, there is a first one that is. -/
theorem exists_first_joined {lines rest : List Text} (h : ¬Unjoined (lines ++ rest.take 1)) :
    ∃ front line back next, lines = front ++ line :: back ∧ Unjoined (front ++ [line]) ∧
      (back ++ rest).head? = some next ∧ continues (Text.trim line) next = true := by
  induction lines with
  | nil =>
    refine absurd ?_ h
    cases rest with
    | nil => exact List.isChain_nil
    | cons next rest => exact List.isChain_singleton _
  | cons line lines ih =>
    by_cases hhead : ∀ next ∈ (lines ++ rest).head?, continues (Text.trim line) next = false
    · have htail : ¬Unjoined (lines ++ rest.take 1) := by
        intro htail
        refine h (List.isChain_cons.mpr ⟨?_, htail⟩)
        intro next hn
        apply hhead
        cases lines with
        | nil => cases rest <;> exact hn
        | cons => exact hn
      obtain ⟨front, other, back, next, rfl, hfront, hnext, hc⟩ := ih htail
      refine ⟨line :: front, other, back, next, rfl, List.isChain_cons.mpr ⟨?_, hfront⟩, hnext, hc⟩
      intro second hsecond
      apply hhead
      cases front <;> exact hsecond
    · simp only [not_forall] at hhead
      obtain ⟨next, hn, hc⟩ := hhead
      exact ⟨[], line, lines, next, rfl, List.isChain_singleton _, hn, by simpa using hc⟩

/-- Joining adds to the end. -/
theorem exists_joinLines_eq (expression : Text) (lines : List Text) :
    ∃ more, (joinLines expression lines).expression = expression ++ more := by
  induction lines generalizing expression with
  | nil => exact ⟨[], (List.append_nil _).symm⟩
  | cons next lines ih =>
    rw [joinLines]
    split
    · obtain ⟨more, hm⟩ := ih (expression ++ ' ' :: Text.trim next)
      exact ⟨' ' :: Text.trim next ++ more, by rw [hm, List.append_assoc]⟩
    · exact ⟨[], (List.append_nil _).symm⟩

/-- A line that the next one continues becomes longer. -/
theorem ofLines_cons_of_continues (number : Nat) {line next : Text} {rest : List Text}
    (hnext : rest.head? = some next) (h : continues (Text.trim line) next = true) :
    ∃ more after, ofLines number (line :: rest) =
      ⟨number + 1, (indentation line).length, Text.trim line ++ ' ' :: more⟩ :: after := by
  cases rest with
  | nil => cases hnext
  | cons other rest =>
    obtain rfl : other = next := Option.some.inj hnext
    obtain ⟨more, hm⟩ := exists_joinLines_eq (Text.trim line ++ ' ' :: Text.trim other) rest
    rw [List.append_assoc, List.cons_append] at hm
    rw [ofLines_cons, joinLines, if_pos h, hm]
    exact ⟨_, _, rfl⟩

end LogicalLine

/-- The logical lines of a source. -/
def Template.logicalLines (source : Text) : List LogicalLine :=
  LogicalLine.ofLines 0 (Text.splitLines source)

end Haml
