import Haml.Fragment
import Haml.Proofs.Quotation

/-!
# The expression of an output line

An output line is written as one expression, a sum of quoted texts and of the code of its
expressions. The code fragments cut a line into runs of literal texts: one before the first code
fragment, one between each two and one after the last. `runs_merge` says what is written of each
run, a single literal with all its text or nothing, and reading a quoted text back says what that
literal stands for.
-/

namespace Haml.Fragment

variable {fragments : List Fragment} {f : Fragment} {t : CodeText}

/-- The literal texts before the first code fragment, between each two and after the last. -/
def runs : List Fragment → List (List CodeText)
  | [] => [[]]
  | literal t :: rest => (runs rest).modifyHead (t :: ·)
  | _ :: rest => [] :: runs rest

/-- A run with its texts in one, and with none if there is no text. -/
def mergedRun (run : List CodeText) : List CodeText := [run.flatten].filter fun t => !t.isEmpty

/-- There is at least one run, which may be empty. -/
theorem exists_runs_eq (fragments : List Fragment) : ∃ run more, runs fragments = run :: more := by
  fun_induction runs fragments with
  | case1 => exact ⟨_, _, rfl⟩
  | case2 t rest ih =>
    obtain ⟨run, more, heq⟩ := ih
    exact ⟨t :: run, more, by rw [heq]; rfl⟩
  | case3 f rest hcode ih => exact ⟨_, _, rfl⟩

/-- A literal belongs to the first run. -/
theorem runs_literal (t : CodeText) (rest : List Fragment) :
    runs (literal t :: rest) = (runs rest).modifyHead (t :: ·) := rfl

/-- Code starts a run of its own. -/
theorem runs_code (h : f.isCode = true) (rest : List Fragment) :
    runs (f :: rest) = [] :: runs rest := by
  cases f with
  | literal t => cases h
  | _ => rfl

/-- What is no literal is code. -/
theorem isCode_of_ne_literal (h : ∀ t, f ≠ literal t) : f.isCode = true := by
  cases f with
  | literal t => exact absurd rfl (h t)
  | _ => rfl

/-- Fragments that start with no literal have an empty first run. -/
theorem runs_of_head (h : ∀ t rest, fragments = literal t :: rest → False) :
    ∃ more, runs fragments = [] :: more := by
  cases fragments with
  | nil => exact ⟨[], rfl⟩
  | cons f rest =>
    exact ⟨runs rest, runs_code (isCode_of_ne_literal fun t heq => h t rest (by rw [heq])) rest⟩

/-- A run that starts with some text has one text. -/
theorem mergedRun_cons (ht : t ≠ []) (run : List CodeText) :
    mergedRun (t :: run) = [t ++ run.flatten] := by
  rw [mergedRun, List.flatten_cons]
  exact List.filter_cons_of_pos (by simp [ht])

/-- Merging a run keeps its text. -/
theorem flatten_mergedRun (run : List CodeText) : (mergedRun run).flatten = run.flatten := by
  rw [mergedRun]
  cases run.flatten with
  | nil => rfl
  | cons p t => exact List.append_nil _

/-- Merging makes literals of literals and keeps all else. -/
theorem mem_merge {fragments : List Fragment} {f : Fragment} (h : f ∈ merge fragments) :
    (∃ t, f = literal t) ∨ f ∈ fragments := by
  fun_induction merge fragments with
  | case1 => cases h
  | case2 t rest hempty ih => exact (ih h).imp_right (List.mem_cons_of_mem _)
  | case3 t rest hempty u more heq ih =>
    rcases List.mem_cons.mp h with rfl | h
    · exact .inl ⟨_, rfl⟩
    · exact (ih (heq ▸ List.mem_cons_of_mem _ h)).imp_right (List.mem_cons_of_mem _)
  | case4 t rest hempty hnot ih =>
    rcases List.mem_cons.mp h with rfl | h
    · exact .inl ⟨_, rfl⟩
    · exact (ih h).imp_right (List.mem_cons_of_mem _)
  | case5 g rest hcode ih =>
    rcases List.mem_cons.mp h with rfl | h
    · exact .inr List.mem_cons_self
    · exact (ih h).imp_right (List.mem_cons_of_mem _)

/-- All code stays, in its order. -/
theorem filter_isCode_merge (fragments : List Fragment) :
    (merge fragments).filter isCode = fragments.filter isCode := by
  fun_induction merge fragments with
  | case1 => rfl
  | case2 t rest hempty ih => exact ih
  | case3 t rest hempty u more heq ih => exact (congrArg _ heq).symm.trans ih
  | case4 t rest hempty hnot ih => exact ih
  | case5 f rest hcode ih =>
    have hf := isCode_of_ne_literal hcode
    rw [List.filter_cons_of_pos hf, List.filter_cons_of_pos hf, ih]

/-- Each run becomes one literal, or nothing if it has no text. The literal that the rest starts
with holds all text of its run. -/
theorem runs_merge (fragments : List Fragment) :
    runs (merge fragments) = (runs fragments).map mergedRun := by
  fun_induction merge fragments with
  | case1 => rfl
  | case2 t rest hempty ih =>
    obtain ⟨run, more, hruns⟩ := exists_runs_eq rest
    obtain rfl := List.isEmpty_iff.mp hempty
    rw [ih, runs_literal, hruns]
    rfl
  | case3 t rest hempty u more heq ih =>
    obtain ⟨run, others, hruns⟩ := exists_runs_eq rest
    obtain ⟨first, later, hmore⟩ := exists_runs_eq more
    have ht : t ≠ [] := by simpa using hempty
    rw [heq, runs_literal, hruns, hmore] at ih
    obtain ⟨hhead, htail⟩ : u :: first = mergedRun run ∧ later = others.map mergedRun :=
      List.cons.inj ih
    have hall : u ++ first.flatten = run.flatten := by
      rw [← flatten_mergedRun run, ← hhead, List.flatten_cons]
    have hsingle : first = [] := by
      have hlength : (u :: first).length ≤ 1 := by
        rw [hhead, mergedRun]
        exact List.length_filter_le _ _
      exact List.eq_nil_of_length_eq_zero (by simpa using hlength)
    rw [hsingle, List.flatten_nil, List.append_nil] at hall
    rw [runs_literal, runs_literal, hruns, hmore, hsingle, htail, hall]
    exact congrArg (· :: _) (mergedRun_cons ht run).symm
  | case4 t rest hempty hnot ih =>
    obtain ⟨run, others, hruns⟩ := exists_runs_eq rest
    obtain ⟨later, hlater⟩ := runs_of_head hnot
    have ht : t ≠ [] := by simpa using hempty
    rw [hruns, hlater] at ih
    obtain ⟨hhead, htail⟩ := List.cons.inj ih
    have hnone : run.flatten = [] := by rw [← flatten_mergedRun run, ← hhead]; rfl
    rw [runs_literal, runs_literal, hruns, hlater, htail]
    refine congrArg (· :: _) ?_
    rw [mergedRun_cons ht, hnone, List.append_nil]
  | case5 f rest hcode ih =>
    have hf := isCode_of_ne_literal hcode
    rw [runs_code hf, runs_code hf, ih]
    rfl

/-- No literal is empty, and no two literals stand next to each other. -/
theorem isChain_merge (fragments : List Fragment) :
    literal [] ∉ merge fragments ∧
      (merge fragments).IsChain fun f g => f.isCode = true ∨ g.isCode = true := by
  fun_induction merge fragments with
  | case1 => exact ⟨List.not_mem_nil, List.isChain_nil⟩
  | case2 t rest hempty ih => exact ih
  | case3 t rest hempty u more heq ih =>
    rw [heq] at ih
    obtain ⟨hsolid, hchain⟩ := ih
    refine ⟨?_, ?_⟩
    · rw [List.mem_cons, not_or] at hsolid ⊢
      exact ⟨by simpa using fun ht => absurd ht.symm (by simpa using hempty), hsolid.2⟩
    · rw [List.isChain_cons] at hchain ⊢
      exact hchain
  | case4 t rest hempty hnot ih =>
    obtain ⟨hsolid, hchain⟩ := ih
    refine ⟨?_, List.isChain_cons.mpr ⟨fun g hg => .inr ?_, hchain⟩⟩
    · rw [List.mem_cons, not_or]
      exact ⟨by simpa using fun ht => absurd ht.symm (by simpa using hempty), hsolid⟩
    · obtain ⟨more, hmore⟩ := List.head?_eq_some_iff.mp hg
      exact isCode_of_ne_literal fun u hu => hnot u more (by rw [hmore, hu])
  | case5 f rest hcode ih =>
    obtain ⟨hsolid, hchain⟩ := ih
    have hf := isCode_of_ne_literal hcode
    refine ⟨?_, List.isChain_cons.mpr ⟨fun g _ => .inl hf, hchain⟩⟩
    rw [List.mem_cons, not_or]
    exact ⟨fun heq => hcode [] heq.symm, hsolid⟩

/-- Literals alone become one literal, or nothing. -/
theorem merge_map_literal (texts : List CodeText) :
    merge (texts.map literal) = (mergedRun texts).map literal := by
  induction texts with
  | nil => rfl
  | cons t texts ih =>
    rw [List.map_cons, merge, ih]
    split
    · rename_i hempty
      rw [mergedRun, mergedRun, List.flatten_cons, List.isEmpty_iff.mp hempty, List.nil_append]
    · rename_i hempty
      rw [mergedRun_cons (by simpa using hempty), mergedRun]
      cases texts.flatten with
      | nil => rw [List.append_nil]; rfl
      | cons p u => rfl

/-- The expression for literals alone is a literal of their text. -/
theorem read_toExpression_map_literal (texts : List CodeText) :
    Literal.read (toExpression (texts.map literal)) = .ok (some (.text texts.flatten)) := by
  rw [toExpression, merge_map_literal, mergedRun]
  cases texts.flatten with
  | nil => exact Literal.read_quote []
  | cons p t =>
    have hexpression : List.intercalate " + ".toList ([literal (p :: t)].map expression) =
        CodeText.quote (p :: t) := List.intercalate_singleton
    rw [List.filter_cons_of_pos (by simp), List.filter_nil, List.map_singleton]
    dsimp only
    rw [hexpression]
    exact Literal.read_quote (p :: t)

/-- The expression of a line is a sum that keeps its code fragments in their order. Each run of
literal texts between them is written as one quoted literal that is read back as the text of the
run, and a run without text is not written. A line without code is read back as its text. -/
theorem toExpression_eq_sum :
    (∀ fragments, ∃ printed,
      (printed = [] ∧ toExpression fragments = "''".toList ∨
        printed ≠ [] ∧
          toExpression fragments = List.intercalate " + ".toList (printed.map expression)) ∧
      printed.filter isCode = fragments.filter isCode ∧
      literal [] ∉ printed ∧
      (printed.IsChain fun f g => f.isCode = true ∨ g.isCode = true) ∧
      runs printed = (runs fragments).map mergedRun ∧
      ∀ t, literal t ∈ printed → Literal.read (literal t).expression = .ok (some (.text t))) ∧
    ∀ texts : List CodeText,
      Literal.read (toExpression (texts.map literal)) = .ok (some (.text texts.flatten)) := by
  refine ⟨fun fragments => ⟨merge fragments, ?_, filter_isCode_merge fragments,
    (isChain_merge fragments).1, (isChain_merge fragments).2, runs_merge fragments,
    fun t _ => Literal.read_quote t⟩, read_toExpression_map_literal⟩
  rw [toExpression]
  split
  · rename_i hnil
    exact .inl ⟨hnil, rfl⟩
  · rename_i hne
    exact .inr ⟨hne, rfl⟩

example : toExpression [.text "it's".toList, .text "\n".toList, .text [], .escaped ['x'], .text [],
    .plain ['y'], .text "\"".toList] = "\"it's\\n\" + e(x) + str(y) + '\"'".toList := by
  decide +kernel

end Haml.Fragment
