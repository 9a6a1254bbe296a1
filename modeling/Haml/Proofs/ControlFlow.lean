import Haml.Proofs.Delimiters

/-!
# Well-nested output under any control flow

A statement of the template heads a block, and which statement it is decides how often the block
runs: not at all, once, or any number of times. `Executes` lets every block run any number of times,
chosen anew each time it is reached. In a template whose blocks all have a head, each run outputs
the start and the end of elements and comments well nested, and each start is ended by the same
node, at the same code level and with the same indentation. The reason is that a node and all below
it are in the same blocks, so that no block separates the start of a node from its end.
-/

namespace Haml

section Executes

variable {α : Type} {level : α → Nat}

/-- A run of statements that form blocks by their levels. A statement heads the deeper ones that
follow it, and these run any number of times. -/
inductive Executes (level : α → Nat) : List α → List α → Prop
  | nil : Executes level [] []
  | step {s : α} {block rest : List α} {rounds : List (List α)} {after : List α}
      (hblock : ∀ b ∈ block, level s < level b) (hrest : ∀ r ∈ rest.head?, level r ≤ level s)
      (hrounds : ∀ round ∈ rounds, Executes level block round)
      (hafter : Executes level rest after) :
      Executes level (s :: (block ++ rest)) (s :: (rounds.flatten ++ after))

namespace Executes

/-- A program runs part by part if no block reaches from one part into the next. The block of a
statement of the first part ends before the second part, whose first statement is not deep
enough. -/
theorem append_cases {bound : Nat} {first second run : List α}
    (h : Executes level (first ++ second) run) (hfirst : ∀ s ∈ first, bound ≤ level s)
    (hsecond : ∀ s ∈ second.head?, level s ≤ bound) :
    ∃ before after, run = before ++ after ∧ Executes level first before ∧
      Executes level second after := by
  generalize hall : first ++ second = all at h
  induction h generalizing first with
  | nil =>
    obtain ⟨rfl, rfl⟩ := List.append_eq_nil_iff.mp hall
    exact ⟨[], [], rfl, .nil, .nil⟩
  | @step s block rest rounds after hblock hrest hrounds hafter _ ih =>
    cases first with
    | nil =>
      obtain rfl : second = s :: (block ++ rest) := hall
      exact ⟨[], _, rfl, .nil, .step hblock hrest hrounds hafter⟩
    | cons t first =>
      obtain ⟨rfl, hsplit⟩ := List.cons.inj hall
      obtain ⟨hbound, hmore⟩ := List.forall_mem_cons.mp hfirst
      obtain ⟨middle, rfl, rfl⟩ : ∃ middle, first = block ++ middle ∧ rest = middle ++ second := by
        rcases List.append_eq_append_iff.mp hsplit with
          ⟨extra, hextra, hsecond'⟩ | ⟨extra, hextra, hrest'⟩
        · cases extra with
          | nil => exact ⟨[], by simpa using hextra.symm, by simpa using hsecond'.symm⟩
          | cons e extra =>
            have hdeep := hblock e (by rw [hextra]; simp)
            have hflat := hsecond e (by rw [hsecond']; rfl)
            omega
        · exact ⟨extra, hextra, hrest'⟩
      obtain ⟨before, after, rfl, hbefore, hsecond⟩ :=
        ih (List.forall_mem_append.mp hmore).2 rfl
      refine ⟨t :: (rounds.flatten ++ before), after, by simp, ?_, hsecond⟩
      refine .step hblock ?_ hrounds hbefore
      intro r hr
      refine hrest r ?_
      cases middle with
      | nil => cases hr
      | cons m middle => exact hr

/-- Nothing is executed of an empty program. -/
theorem eq_nil {run : List α} (h : Executes level [] run) : run = [] := by
  cases h
  rfl

/-- Statements of one level run one after the other. -/
theorem eq_of_level {bound : Nat} {list run : List α} (h : Executes level list run)
    (hlevel : ∀ s ∈ list, level s = bound) : run = list := by
  induction h with
  | nil => rfl
  | @step s block rest rounds after hblock _ hrounds _ _ ih =>
    obtain ⟨hs, hmore⟩ := List.forall_mem_cons.mp hlevel
    obtain ⟨hinner, hafter⟩ := List.forall_mem_append.mp hmore
    obtain rfl : block = [] := by
      refine List.eq_nil_iff_forall_not_mem.mpr fun b hb => ?_
      have hdeep := hblock b hb
      rw [hs, hinner b hb] at hdeep
      exact Nat.lt_irrefl _ hdeep
    have hempty : rounds.flatten = [] :=
      List.flatten_eq_nil_iff.mpr fun round hround => (hrounds round hround).eq_nil
    rw [hempty, ih hafter]

/-- The block of a statement runs any number of times. -/
theorem cons_iff {s : α} {block run : List α} (hblock : ∀ b ∈ block, level s < level b) :
    Executes level (s :: block) run ↔
      ∃ rounds : List (List α), run = s :: rounds.flatten ∧
        ∀ round ∈ rounds, Executes level block round := by
  constructor
  · intro h
    generalize hall : s :: block = all at h
    cases h with
    | nil => cases hall
    | @step t inner rest rounds after hinner hrest hrounds hafter =>
      obtain ⟨rfl, rfl⟩ := List.cons.inj hall
      obtain rfl : rest = [] := by
        cases rest with
        | nil => rfl
        | cons r rest =>
          have hflat := hrest r rfl
          have hdeep := hblock r (by simp)
          omega
      rw [hafter.eq_nil, List.append_nil]
      exact ⟨rounds, rfl, by simpa using hrounds⟩
  · rintro ⟨rounds, rfl, hrounds⟩
    have hstep : Executes level (s :: (block ++ [])) (s :: (rounds.flatten ++ [])) :=
      .step hblock (fun r hr => by cases hr) hrounds .nil
    simpa using hstep

/-- Every program has the run in which each block runs once. -/
theorem once (level : α → Nat) (list : List α) : Executes level list list := by
  induction hlength : list.length using Nat.strong_induction_on generalizing list with
  | _ length ih =>
    cases list with
    | nil => exact .nil
    | cons s list =>
      have hcut : list.takeWhile (level s < level ·) ++ list.dropWhile (level s < level ·) = list :=
        List.takeWhile_append_dropWhile
      have hsum := congrArg List.length hcut
      rw [List.length_append] at hsum
      rw [List.length_cons] at hlength
      have hblock := ih _ (by omega) (list.takeWhile (level s < level ·)) rfl
      have hrest := ih _ (by omega) (list.dropWhile (level s < level ·)) rfl
      have hdeep : ∀ b ∈ list.takeWhile (level s < level ·), level s < level b :=
        fun b hb => by simpa using List.mem_takeWhile_imp hb
      have hflat : ∀ r ∈ (list.dropWhile (level s < level ·)).head?, level r ≤ level s := by
        intro r hr
        have hnot := List.head?_dropWhile_not (level s < level ·) list
        rw [hr] at hnot
        simpa using hnot
      have hstep := step hdeep hflat (List.forall_mem_singleton.mpr hblock) hrest
      rwa [List.flatten_singleton, hcut] at hstep

end Executes

/-- The statements are at a level or deeper, and the first of them is at the level. -/
structure AtLevel (level : α → Nat) (bound : Nat) (list : List α) : Prop where
  /-- None is outside of the level. -/
  le : ∀ s ∈ list, bound ≤ level s
  /-- The first is no deeper. -/
  head : ∀ s ∈ list.head?, level s ≤ bound

namespace AtLevel

variable {bound : Nat} {list more : List α}

/-- Statements that are all at one level are a program at that level. -/
theorem of_forall_eq (h : ∀ s ∈ list, level s = bound) : AtLevel level bound list :=
  ⟨fun s hs => (h s hs).ge, fun s hs => (h s (List.mem_of_mem_head? hs)).le⟩

/-- Two programs at one level are one in a row. -/
theorem append (h : AtLevel level bound list) (hmore : AtLevel level bound more) :
    AtLevel level bound (list ++ more) := by
  refine ⟨List.forall_mem_append.mpr ⟨h.le, hmore.le⟩, ?_⟩
  cases list with
  | nil => exact hmore.head
  | cons s list => exact h.head

/-- Programs at one level are one in a row, however many there are. -/
theorem flatMap {β : Type} {parts : List β} {f : β → List α}
    (h : ∀ part ∈ parts, AtLevel level bound (f part)) : AtLevel level bound (parts.flatMap f) := by
  induction parts with
  | nil => exact of_forall_eq (List.forall_mem_nil _)
  | cons part parts ih =>
    obtain ⟨hpart, hparts⟩ := List.forall_mem_cons.mp h
    exact hpart.append (ih hparts)

end AtLevel

/-- Parts of a program at one level run one after the other. -/
theorem Executes.flatMap_cases {β : Type} {bound : Nat} {parts : List β} {f : β → List α}
    {run : List α} (hlevel : ∀ part ∈ parts, AtLevel level bound (f part))
    (h : Executes level (parts.flatMap f) run) :
    ∃ runs : List (List α), run = runs.flatten ∧
      ∀ r ∈ runs, ∃ part ∈ parts, Executes level (f part) r := by
  induction parts generalizing run with
  | nil => exact ⟨[], h.eq_nil, List.forall_mem_nil _⟩
  | cons part parts ih =>
    obtain ⟨hpart, hparts⟩ := List.forall_mem_cons.mp hlevel
    obtain ⟨before, after, rfl, hbefore, hafter⟩ :=
      h.append_cases hpart.le (AtLevel.flatMap hparts).head
    obtain ⟨runs, rfl, hruns⟩ := ih hparts hafter
    refine ⟨before :: runs, rfl, List.forall_mem_cons.mpr ⟨⟨part, List.mem_cons_self, hbefore⟩, ?_⟩⟩
    intro r hr
    obtain ⟨other, hother, hrun⟩ := hruns r hr
    exact ⟨other, List.mem_cons_of_mem _ hother, hrun⟩

end Executes

/-- The level of the statement. -/
def Emitted.level (e : Emitted) : Nat := e.statement.level

namespace Tree

variable {tree : Tree} {options : Options} {i : Nat}

/-- The output of a node that is rendered is not indented by less than nothing. -/
theorem Graded.outputLevel_nonneg (hg : tree.Graded) (hi : tree.Rendered i) :
    0 ≤ (tree.nodeAt i).outputLevel := by
  rw [hg.outputLevel_eq (hg.lt_size_of_rendered hi)]
  exact Int.natCast_nonneg _

/-- The statements of a node after those that open it. -/
def tracedRest (tree : Tree) (options : Options) (i : Nat) : List Emitted :=
  tree.tracedBelow options i ++ (tree.closed options i).map (⟨i, true, ·⟩)

/-- The statements of a node are those that open it and the rest. -/
theorem Traces.traced_eq (ht : tree.Traces options i) :
    tree.traced options i =
      (tree.opened options i).map (⟨i, false, ·⟩) ++ tree.tracedRest options i := by
  rw [ht.cases.2.2, tracedRest, List.append_assoc]

/-- Code with lines below it is a statement of the template. -/
def Headed (tree : Tree) : Prop :=
  ∀ k, tree.Rendered k → tree.children k ≠ [] → ¬tree.Headless k

/-- Nothing follows the opening of a node that has nothing below it. -/
theorem tracedRest_eq_nil (options : Options) (hchildren : tree.children i = []) :
    tree.tracedRest options i = [] := by
  have hbelow : tree.tracedBelow options i = [] := by
    rw [tracedBelow, hchildren, List.flatMap_nil, ite_self]
  have hclosed : tree.closed options i = [] := by
    rw [closed, Branch.closing, isEmpty_below, hchildren]
    split
    · rfl
    · simp
    · rename_i markup _
      cases markup with
      | element element => simp [Markup.closeStatements, Element.closeStatements]
      | _ => rfl
    · rfl
  rw [tracedRest, hbelow, hclosed]
  rfl

/-- Code whose block has a head is one statement. -/
theorem Headed.opened_eq (hh : tree.Headed) (options : Options) (hi : tree.Rendered i) {code : Code}
    (hc : tree.contentAt i = .code code) (hchildren : tree.children i ≠ []) :
    tree.opened options i = [⟨(tree.nodeAt i).blocks, .run code.code⟩] := by
  have hhead : code.marker = .statement ∧ code.code ≠ [] := by
    by_contra hnot
    exact hh i hi hchildren ⟨code, hc, (not_and_or.mp hnot).imp_right not_not.mp⟩
  rw [opened_code hc, Node.codeStatements, hhead.1]
  simp [hhead.2]

/-- The statements that open a node are at its level. -/
theorem Traces.level_opened (ht : tree.Traces options i) (hl : ∀ j, (tree.nodeAt j).Legible) :
    ∀ e ∈ (tree.opened options i).map (Emitted.mk i false),
      Emitted.level e = (tree.nodeAt i).blocks :=
  List.forall_mem_map.mpr fun s hs => (ht.writes_opened hl s hs).level

/-- The statements that close a node are at the level of the lines below it. -/
theorem Graded.level_closed (hg : tree.Graded) (hi : tree.Rendered i) :
    ∀ e ∈ (tree.closed options i).map (Emitted.mk i true),
      Emitted.level e = tree.blocksBelow i := by
  refine List.forall_mem_map.mpr fun s hs => ?_
  obtain ⟨hcode, rfl⟩ | ⟨hcode, hs⟩ := closed_cases hs
  · have hlevel := hg.codeLevel_eq (hg.lt_size_of_rendered hi)
    rw [blocksBelow, hcode, if_pos rfl, Node.blocks, Emitted.level]
    dsimp only
    rw [hlevel]
    omega
  · rw [blocksBelow, hcode, Emitted.level, hs.level]
    rfl

/-- The statements below a node are at the level of its children, if those of each child are. -/
theorem Graded.atLevel_tracedBelow (hg : tree.Graded) (hi : tree.Rendered i)
    (h : ∀ c, tree.RendersChild i c →
      AtLevel Emitted.level (tree.nodeAt c).blocks (tree.traced options c)) :
    AtLevel Emitted.level (tree.blocksBelow i) (tree.tracedBelow options i) := by
  rw [tracedBelow]
  split
  · rename_i hrenders
    refine AtLevel.flatMap fun c hc => ?_
    rw [← hg.blocks_child (hg.lt_size_of_rendered hi) hc]
    exact h c ⟨hc, hrenders⟩
  · exact .of_forall_eq (List.forall_mem_nil _)

/-- A run of a node is well nested, and the delimiters of the node, if it has any, are around it. -/
structure Nests (tree : Tree) (i : Nat) (run : List Emitted) : Prop where
  /-- What the run outputs is well nested. -/
  wellNested : WellNested (run.flatMap tree.delimiters)
  /-- The start of the node comes first and its end last. -/
  around : (tree.contentAt i).tags?.isSome → ∃ inner, WellNested inner ∧
    run.flatMap tree.delimiters = tree.delimiter i true :: (inner ++ [tree.delimiter i false])

/-- A node without delimiters leaves those of its run as they are. -/
theorem Nests.of_none (h : (tree.contentAt i).tags? = none) {run : List Emitted}
    (hrun : WellNested (run.flatMap tree.delimiters)) : tree.Nests i run where
  wellNested := hrun
  around hsome := by
    rw [h] at hsome
    cases hsome

/-- The statements that open a node are a run of it, if nothing is below it. -/
theorem Traces.nests_opened (ht : tree.Traces options i) (hl : (tree.nodeAt i).Legible)
    (hlevel : 0 ≤ (tree.nodeAt i).outputLevel) (hchildren : tree.children i = []) :
    tree.Nests i ((tree.opened options i).map (Emitted.mk i false)) := by
  cases htags : (tree.contentAt i).tags? with
  | none =>
    refine .of_none htags ?_
    rw [ht.flatMap_delimiters_opened_of_none htags]
    exact .nil
  | some tags =>
    have hpair := ht.flatMap_delimiters_opened hl hlevel htags
    rw [if_pos hchildren] at hpair
    exact ⟨hpair ▸ .pair .nil .nil, fun _ => ⟨[], .nil, hpair⟩⟩

/-- What is well nested stays so between the statements that open and close a node. -/
theorem Traces.nests_around (ht : tree.Traces options i) (hl : (tree.nodeAt i).Legible)
    (hlevel : 0 ≤ (tree.nodeAt i).outputLevel) (hchildren : tree.children i ≠ [])
    {inner : List Emitted} (hinner : WellNested (inner.flatMap tree.delimiters)) :
    tree.Nests i ((tree.opened options i).map (Emitted.mk i false) ++
      (inner ++ (tree.closed options i).map (Emitted.mk i true))) := by
  cases htags : (tree.contentAt i).tags? with
  | none =>
    refine .of_none htags ?_
    rwa [List.flatMap_append, List.flatMap_append, ht.flatMap_delimiters_opened_of_none htags,
      ht.flatMap_delimiters_closed_of_none htags, List.nil_append, List.append_nil]
  | some tags =>
    have hpair : ((tree.opened options i).map (Emitted.mk i false) ++
        (inner ++ (tree.closed options i).map (Emitted.mk i true))).flatMap tree.delimiters =
        tree.delimiter i true ::
          (inner.flatMap tree.delimiters ++ [tree.delimiter i false]) := by
      rw [List.flatMap_append, List.flatMap_append, ht.flatMap_delimiters_opened hl hlevel htags,
        ht.flatMap_delimiters_closed hl hlevel htags, if_neg hchildren, if_neg hchildren,
        List.singleton_append]
    exact ⟨hpair ▸ .pair hinner .nil, fun _ => ⟨_, hinner, hpair⟩⟩

/-- Every statement of a rendered node has the delimiters that the node should have, at the level
and the indentation of the node, and every other line of a node with delimiters is what is written
on its line. -/
theorem Graded.outputs_delimiters (hg : tree.Graded) (hl : ∀ j, (tree.nodeAt j).Legible)
    (ht : tree.Traces options 0) {e : Emitted} (he : e ∈ tree.traced options 0) :
    (tree.delimiters e = [] → (tree.contentAt e.index).tags?.isSome →
      e.statement ∈ (tree.contentAt e.index).inner options (tree.nodeAt e.index)) ∧
    ∀ d ∈ tree.delimiters e, d = tree.delimiter e.index d.opens ∧
      ∃ tags, (tree.contentAt e.index).tags? = some tags ∧
        (tree.nodeAt e.index).Bounds (if d.opens then tags.1 else [])
          (if d.opens then [] else tags.2) e.statement := by
  obtain ⟨hrendered, htraces, hown⟩ := ht.mem_cases he
  cases htags : (tree.contentAt e.index).tags? with
  | none =>
    rw [htraces.delimiters_of_none htags hown]
    exact ⟨fun _ h => (by cases h), List.forall_mem_nil _⟩
  | some tags =>
    obtain ⟨hinner, hbounds⟩ := htraces.outputs_delimiters (hl e.index)
      (hg.outputLevel_nonneg hrendered) htags hown
    refine ⟨fun h _ => hinner h, fun d hd => ?_⟩
    obtain ⟨heq, hd⟩ := hbounds d hd
    exact ⟨heq, tags, rfl, hd⟩

section Runs

variable (hg : tree.Graded) (hl : ∀ j, (tree.nodeAt j).Legible)
  (hh : tree.Headed) (ht : tree.Traces options i) (hi : tree.Rendered i)

include hg hl hh ht hi

/-- A node with all below it is at the level of the node. -/
theorem Graded.atLevel_traced :
    AtLevel Emitted.level (tree.nodeAt i).blocks (tree.traced options i) := by
  refine ht.induction (P := fun i => tree.Rendered i →
    AtLevel Emitted.level (tree.nodeAt i).blocks (tree.traced options i)) ?_ hi
  intro i ht ih hi
  have hrest : AtLevel Emitted.level (tree.blocksBelow i) (tree.tracedRest options i) :=
    (hg.atLevel_tracedBelow hi fun c hc => ih c hc (hi.tail hc)).append
      (.of_forall_eq (hg.level_closed hi))
  rw [blocksBelow] at hrest
  have hopened := AtLevel.of_forall_eq (ht.level_opened hl)
  rw [ht.traced_eq]
  by_cases hchildren : tree.children i = []
  · rw [tracedRest_eq_nil options hchildren, List.append_nil]
    exact hopened
  · cases hcontent : tree.contentAt i with
    | code code =>
      rw [hcontent] at hrest
      rw [hh.opened_eq options hi hcontent hchildren] at hopened ⊢
      refine ⟨List.forall_mem_append.mpr ⟨hopened.le, fun e he => ?_⟩, hopened.head⟩
      exact (Nat.le_succ _).trans (hrest.le e he)
    | _ =>
      rw [hcontent] at hrest
      exact hopened.append hrest

/-- What follows the opening of a node is at the level of the lines below it. -/
theorem Graded.atLevel_tracedRest :
    AtLevel Emitted.level (tree.blocksBelow i) (tree.tracedRest options i) := by
  refine (hg.atLevel_tracedBelow hi fun c hc => ?_).append (.of_forall_eq (hg.level_closed hi))
  exact hg.atLevel_traced hl hh (ht.cases.2.1 c hc) (hi.tail hc)

/-- What follows the opening of a node runs as the nodes below it, and ends with what closes it. -/
theorem Graded.wellNested_tracedRest
    (ih : ∀ c, tree.RendersChild i c → ∀ run, Executes Emitted.level (tree.traced options c) run →
      WellNested (run.flatMap tree.delimiters))
    {round : List Emitted} (h : Executes Emitted.level (tree.tracedRest options i) round) :
    ∃ inner, round = inner ++ (tree.closed options i).map (Emitted.mk i true) ∧
      WellNested (inner.flatMap tree.delimiters) := by
  have hchild : ∀ c, tree.RendersChild i c →
      AtLevel Emitted.level (tree.nodeAt c).blocks (tree.traced options c) := fun c hc =>
    hg.atLevel_traced hl hh (ht.cases.2.1 c hc) (hi.tail hc)
  have hclosed : AtLevel Emitted.level (tree.blocksBelow i)
      ((tree.closed options i).map (Emitted.mk i true)) := .of_forall_eq (hg.level_closed hi)
  obtain ⟨inner, after, rfl, hinner, hafter⟩ :=
    h.append_cases (hg.atLevel_tracedBelow hi hchild).le hclosed.head
  refine ⟨inner, by rw [hafter.eq_of_level (hg.level_closed hi)], ?_⟩
  rw [tracedBelow] at hinner
  split at hinner
  · rename_i hrenders
    have hparts : ∀ c ∈ tree.children i, AtLevel Emitted.level (tree.blocksBelow i)
        (tree.traced options c) := fun c hc =>
      hg.blocks_child (hg.lt_size_of_rendered hi) hc ▸ hchild c ⟨hc, hrenders⟩
    obtain ⟨runs, rfl, hruns⟩ := hinner.flatMap_cases hparts
    refine WellNested.flatMap_flatten fun run hrun => ?_
    obtain ⟨c, hc, hrun⟩ := hruns run hrun
    exact ih c ⟨hc, hrenders⟩ run hrun
  · rw [hinner.eq_nil]
    exact .nil

/-- Code runs as its statement, and then its block any number of times. -/
theorem Graded.executes_code_iff {code : Code}
    (hc : tree.contentAt i = .code code) (hchildren : tree.children i ≠ []) {run : List Emitted} :
    Executes Emitted.level (tree.traced options i) run ↔
      ∃ rounds : List (List Emitted),
        run = ⟨i, false, ⟨(tree.nodeAt i).blocks, .run code.code⟩⟩ :: rounds.flatten ∧
        ∀ round ∈ rounds, Executes Emitted.level (tree.tracedRest options i) round := by
  rw [ht.traced_eq, hh.opened_eq options hi hc hchildren, List.map_singleton, List.singleton_append]
  refine Executes.cons_iff fun b hb => ?_
  have hle := (hg.atLevel_tracedRest hl hh ht hi).le b hb
  rw [blocksBelow, hc] at hle
  exact hle

/-- Every run of a node is well nested. Each round of a block is well nested, and code has no
delimiters of its own; for any other node no block separates its lines from those below it. -/
theorem Graded.nests_of_executes {run : List Emitted}
    (h : Executes Emitted.level (tree.traced options i) run) : tree.Nests i run := by
  refine ht.induction (P := fun i => tree.Rendered i → ∀ run,
    Executes Emitted.level (tree.traced options i) run → tree.Nests i run) ?_ hi run h
  intro i ht ih hi run h
  have hround {round : List Emitted}
      (hexec : Executes Emitted.level (tree.tracedRest options i) round) :=
    hg.wellNested_tracedRest hl hh ht hi
      (fun c hc run hrun => (ih c hc (hi.tail hc) run hrun).wellNested) hexec
  have hlevel := hg.outputLevel_nonneg hi
  by_cases hchildren : tree.children i = []
  · rw [ht.traced_eq, tracedRest_eq_nil options hchildren, List.append_nil] at h
    rw [h.eq_of_level (ht.level_opened hl)]
    exact ht.nests_opened (hl i) hlevel hchildren
  · by_cases hcode : (tree.contentAt i).isCode = true
    · obtain ⟨code, hc⟩ := Content.exists_of_isCode hcode
      have hnone : (tree.contentAt i).tags? = none := by rw [hc]; rfl
      obtain ⟨rounds, rfl, hrounds⟩ := (hg.executes_code_iff hl hh ht hi hc hchildren).mp h
      have hstatement := ht.flatMap_delimiters_opened_of_none hnone
      rw [hh.opened_eq options hi hc hchildren, List.map_singleton, List.flatMap_singleton]
        at hstatement
      refine .of_none hnone ?_
      rw [List.flatMap_cons, hstatement, List.nil_append]
      refine WellNested.flatMap_flatten fun round hmem => ?_
      obtain ⟨inner, rfl, hinner⟩ := hround (hrounds round hmem)
      rwa [List.flatMap_append, ht.flatMap_delimiters_closed_of_none hnone, List.append_nil]
    · rw [ht.traced_eq] at h
      have hrest := hg.atLevel_tracedRest hl hh ht hi
      rw [blocksBelow, if_neg hcode] at hrest
      obtain ⟨start, round, rfl, hstart, hrun⟩ :=
        h.append_cases (AtLevel.of_forall_eq (ht.level_opened hl)).le hrest.head
      obtain ⟨inner, rfl, hinner⟩ := hround hrun
      rw [hstart.eq_of_level (ht.level_opened hl)]
      exact ht.nests_around (hl i) hlevel hchildren hinner

end Runs

end Tree

/-- The statements of a template stand in its module one after the other. -/
theorem Compilation.statements_in_code {options : Options} {source name nameSpace code : Text}
    (c : Compilation options source name nameSpace code) :
    ((c.tree.traced options 0).flatMap fun e => e.statement.text) <:+: code := by
  refine List.IsInfix.trans ⟨BodyLine.binding.text c.escape ++ ['\n'],
    BodyLine.result.text c.escape ++ ['\n'], ?_⟩ c.lines_in_code
  simp only [Tree.bodyLines, BodyLine.text, Statement.text, List.flatMap_cons, List.flatMap_append,
    List.flatMap_map, List.flatMap_nil, List.append_assoc, List.append_nil]

/-- A declaration and a list of as many entries as a loop has rounds, with a comment and an element
without an end tag that has another one below it. -/
def loopSource : Text := "!!!\n%ul\n  - for x in xs:\n    %li= x\n  / end\n  %br\n    %b".toList

/-- The tree of `loopSource`. -/
def loopTree : Tree := (Template.parse loopSource).toOption.getD Tree.empty

end Haml
