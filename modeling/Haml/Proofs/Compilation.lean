import Haml.Proofs.CompileOutcome

/-!
# What a compilation writes

A compilation that succeeds has made a tree, the statements of its nodes, and a module around them.
`Compilation` holds these together with the steps that led to them. Along a tree that has a trace,
`traced` gives the statements of each node with all below it, and `Traces.cases` cuts them into
those that open the node, those of its children, and those that close it. What holds of every
rendered node is proved by `Traces.induction`.
-/

namespace Haml

open Literal (Fault)

namespace Tree

variable {tree : Tree} {options : Options} {i : Nat}

/-- The branches below a node. -/
def below (tree : Tree) (i : Nat) : List Branch :=
  (tree.children i).map fun j => tree.branch j (tree.nodeAt j)

/-- A branch is its node with the branches below it. -/
theorem branch_eq_below (tree : Tree) (i : Nat) (node : Node) :
    tree.branch i node = .mk i node (tree.below i) := branch_eq tree i node

/-- There are branches below a node exactly if it has children. -/
theorem isEmpty_below (tree : Tree) (i : Nat) :
    (tree.below i).isEmpty = (tree.children i).isEmpty := List.isEmpty_map

/-- The statements of a node and of all below it, with the nodes they come from. -/
def traced (tree : Tree) (options : Options) (i : Nat) : List Emitted :=
  ((tree.branch i (tree.nodeAt i)).trace options).toOption.getD []

/-- The node and all below it can be rendered. -/
def Traces (tree : Tree) (options : Options) (i : Nat) : Prop :=
  (tree.branch i (tree.nodeAt i)).trace options = .ok (tree.traced options i)

/-- The statements of the lines below a node. -/
def tracedBelow (tree : Tree) (options : Options) (i : Nat) : List Emitted :=
  if (tree.contentAt i).rendersBelow then (tree.children i).flatMap (tree.traced options) else []

/-- The statements that open a node. -/
def opened (tree : Tree) (options : Options) (i : Nat) : List Statement :=
  (Branch.opening options (tree.nodeAt i) (tree.below i)).toOption.getD []

/-- The statements that close a node. -/
def closed (tree : Tree) (options : Options) (i : Nat) : List Statement :=
  Branch.closing (tree.nodeAt i) (tree.below i)
    ((tree.tracedBelow options i).map Emitted.statement)

/-- A node whose branch has a trace has that one. -/
theorem traces_of_trace_eq_ok {all : List Emitted}
    (h : (tree.branch i (tree.nodeAt i)).trace options = .ok all) :
    tree.Traces options i ∧ tree.traced options i = all := by
  have heq : tree.traced options i = all := by
    rw [traced, h]
    rfl
  exact ⟨h.trans (congrArg _ heq.symm), heq⟩

/-- Nodes that are traced one after the other can all be rendered. -/
theorem traces_of_traceOfAll {list : List Nat} {all : List Emitted}
    (h : Branch.traceOfAll options (list.map fun j => tree.branch j (tree.nodeAt j)) = .ok all) :
    (∀ c ∈ list, tree.Traces options c) ∧ list.flatMap (tree.traced options) = all := by
  induction list generalizing all with
  | nil => exact ⟨List.forall_mem_nil _, Except.ok.inj h⟩
  | cons c list ih =>
    rw [List.map_cons, Branch.traceOfAll] at h
    obtain ⟨first, hfirst, hmore⟩ := bind_eq_ok_iff.mp h
    obtain ⟨rest, hrest, heq⟩ := bind_eq_ok_iff.mp hmore
    obtain ⟨hc, rfl⟩ := traces_of_trace_eq_ok hfirst
    obtain ⟨hlist, rfl⟩ := ih hrest
    exact ⟨List.forall_mem_cons.mpr ⟨hc, hlist⟩, Except.ok.inj heq⟩

namespace Traces

/-- A node that can be rendered can be opened, and what is rendered with it can be rendered too. -/
theorem cases (h : tree.Traces options i) :
    Branch.opening options (tree.nodeAt i) (tree.below i) = .ok (tree.opened options i) ∧
    (∀ c, tree.RendersChild i c → tree.Traces options c) ∧
    tree.traced options i = (tree.opened options i).map (⟨i, false, ·⟩) ++
      tree.tracedBelow options i ++ (tree.closed options i).map (⟨i, true, ·⟩) := by
  rw [Traces, branch_eq_below, Branch.trace] at h
  obtain ⟨start, hstart, hrest⟩ := bind_eq_ok_iff.mp h
  obtain ⟨inner, hinner, heq⟩ := bind_eq_ok_iff.mp hrest
  have hopened : tree.opened options i = start := by
    rw [opened, hstart]
    rfl
  have hbelow : (∀ c, tree.RendersChild i c → tree.Traces options c) ∧
      tree.tracedBelow options i = inner := by
    rw [← contentAt] at hinner
    rw [tracedBelow]
    split at hinner
    · rename_i hrenders
      obtain ⟨hall, rfl⟩ := traces_of_traceOfAll hinner
      exact ⟨fun c hc => hall c hc.1, if_pos hrenders⟩
    · rename_i hsilent
      obtain rfl : [] = inner := Except.ok.inj hinner
      exact ⟨fun c hc => absurd hc.2 hsilent, if_neg hsilent⟩
  obtain ⟨hchildren, rfl⟩ := hbelow
  refine ⟨hopened ▸ hstart, hchildren, ?_⟩
  rw [hopened, closed]
  exact (Except.ok.inj heq).symm

/-- What holds of a node when it holds of all that is rendered with it holds of every node that can
be rendered. -/
theorem induction {P : Nat → Prop} (h : tree.Traces options i)
    (step : ∀ i, tree.Traces options i → (∀ c, tree.RendersChild i c → P c) → P i) : P i := by
  induction hs : tree.size - i using Nat.strong_induction_on generalizing i with
  | _ size ih =>
    refine step i h fun c hc => ?_
    have hlt := lt_of_mem_children hc.1
    exact ih _ (by omega) (h.cases.2.1 c hc) rfl

end Traces

/-- The statements below a node are those of the children that it renders. -/
theorem mem_tracedBelow {emitted : Emitted} : emitted ∈ tree.tracedBelow options i ↔
    ∃ c, tree.RendersChild i c ∧ emitted ∈ tree.traced options c := by
  rw [tracedBelow]
  split
  · rename_i hrenders
    simp [RendersChild, hrenders]
  · rename_i hsilent
    simp [RendersChild, hsilent]

/-- Every statement comes from a node that is rendered, as one of its own. -/
theorem Traces.mem_cases (h : tree.Traces options i) {emitted : Emitted}
    (he : emitted ∈ tree.traced options i) :
    Relation.ReflTransGen tree.RendersChild i emitted.index ∧
    tree.Traces options emitted.index ∧
      ((emitted.closes = false ∧ emitted.statement ∈ tree.opened options emitted.index) ∨
        (emitted.closes = true ∧ emitted.statement ∈ tree.closed options emitted.index)) := by
  refine h.induction (P := fun i => emitted ∈ tree.traced options i →
    Relation.ReflTransGen tree.RendersChild i emitted.index ∧ _) ?_ he
  intro i hi ih he
  rw [hi.cases.2.2] at he
  rcases List.mem_append.mp he with he | he
  · rcases List.mem_append.mp he with he | he
    · obtain ⟨statement, hmem, rfl⟩ := List.mem_map.mp he
      exact ⟨.refl, hi, .inl ⟨rfl, hmem⟩⟩
    · obtain ⟨c, hc, hmem⟩ := mem_tracedBelow.mp he
      obtain ⟨hpath, hown⟩ := ih c hc hmem
      exact ⟨.head hc hpath, hown⟩
  · obtain ⟨statement, hmem, rfl⟩ := List.mem_map.mp he
    exact ⟨.refl, hi, .inr ⟨rfl, hmem⟩⟩

/-- What is rendered with a node can be rendered. -/
theorem Traces.of_path (h : tree.Traces options i) {j : Nat}
    (hj : Relation.ReflTransGen tree.RendersChild i j) : tree.Traces options j := by
  induction hj with
  | refl => exact h
  | tail _ hj ih => exact ih.cases.2.1 _ hj

/-- A node has code when it does not nest too deep and can be rendered. -/
theorem code_eq_ok_iff_traces (h : i < tree.size) {code : Text} :
    tree.code options i = .ok code ↔
      (tree.branch i (tree.nodeAt i)).reach ≤ Branch.maxReach ∧ tree.Traces options i ∧
        code = (tree.traced options i).flatMap fun emitted => emitted.statement.text := by
  rw [code_eq_ok_iff h, ← Branch.map_trace]
  refine and_congr_right fun _ => ?_
  constructor
  · rintro ⟨all, hall, rfl⟩
    cases htrace : (tree.branch i (tree.nodeAt i)).trace options with
    | error fault =>
      rw [htrace] at hall
      cases hall
    | ok emitted =>
      obtain ⟨htraces, rfl⟩ := traces_of_trace_eq_ok htrace
      rw [htrace] at hall
      rw [← Except.ok.inj hall, List.flatMap_map]
      exact ⟨htraces, rfl⟩
  · rintro ⟨htraces, rfl⟩
    rw [Traces] at htraces
    exact ⟨(tree.traced options i).map Emitted.statement, by rw [htraces]; rfl,
      by rw [List.flatMap_map]⟩

end Tree

/-- A compilation that has succeeded: the tree of the template, the place of its function, and the
module with the statements of all nodes. -/
structure Compilation (options : Options) (source name nameSpace code : Text) where
  /-- The tree of the template. -/
  tree : Tree
  /-- Where the function is registered. -/
  place : Registration.Target
  /-- The tree is that of the source. -/
  parse_eq : Template.parse source = .ok tree
  /-- The place is that of the name. -/
  target_eq : Registration.target options name nameSpace = .ok place
  /-- All nodes that are rendered can be. -/
  traces : tree.Traces options 0
  /-- The module holds the statements. -/
  code_eq : code = Registration.moduleText options place.root place.inner place.name
    ((tree.traced options 0).flatMap fun emitted => emitted.statement.text)

/-- Code comes from a compilation. -/
theorem nonempty_compilation {options : Options} {source name nameSpace code : Text}
    (h : compile options source name nameSpace = .ok code) :
    Nonempty (Compilation options source name nameSpace code) := by
  obtain ⟨tree, htree, hemit⟩ := bind_eq_ok_iff.mp h
  have hparse := mapError_eq_ok_iff.mp htree
  obtain ⟨place, hplace, hcode⟩ := bind_eq_ok_iff.mp hemit
  obtain ⟨body, hbody, heq⟩ := bind_eq_ok_iff.mp hcode
  obtain ⟨n, hrun, rfl⟩ := Nesting.exists_run hparse
  have hrooted := (Nesting.reads_run hrun).1.rooted
  obtain ⟨-, htraces, rfl⟩ := (Tree.code_eq_ok_iff_traces hrooted.size_pos).mp hbody
  exact ⟨⟨n.tree, place, hparse, mapError_eq_ok_iff.mp hplace, htraces, (Except.ok.inj heq).symm⟩⟩

end Haml
