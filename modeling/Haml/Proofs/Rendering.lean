import Haml.Compile
import Haml.Proofs.Branch
import Haml.Proofs.Fallible

/-!
# The parts of a rendering

A node renders in three parts: the statements that open it, those of the lines below it, and those
that close it. Only the first part can fail, and only for an element. The lines below a filter are
rendered by the filter, and those below a silent comment not at all. A trace is a rendering that
keeps with each statement the node that it comes from.
-/

namespace Haml

open Literal (Fault)

/-- Whether the lines below a node render by themselves. -/
def Content.rendersBelow : Content → Bool
  | comment c => !c.silent
  | filter _ => false
  | _ => true

/-- What renders the nodes below it is no filter. -/
theorem Content.isFilter_of_rendersBelow {content : Content} (h : content.rendersBelow = true) :
    content.isFilter = false := by
  cases content with
  | filter line => cases h
  | _ => rfl

/-- A statement and where it comes from. -/
structure Emitted where
  /-- The index of the node. -/
  index : Nat
  /-- Whether it comes after the lines below the node. -/
  closes : Bool
  /-- The statement. -/
  statement : Statement
deriving DecidableEq

namespace Branch

variable {options : Options} {index : Nat} {node : Node} {children : List Branch}

/-- The statements of a node before those of the lines below it. -/
def opening (options : Options) (node : Node) (children : List Branch) :
    Except Fault (List Statement) :=
  match node.content with
  | .root => .ok []
  | .text => .ok (node.textStatements options)
  | .code code => .ok (node.codeStatements options code)
  | .comment comment =>
    .ok (if comment.silent then []
      else if children.isEmpty then [node.pushText 0 comment.inline]
      else comment.openStatements node)
  | .markup markup => markup.openStatements options node (!children.isEmpty)
  | .filter (.body _) => .ok []
  | .filter (.header kind) => .ok (kind.statements options.format node (filterLines children))

/-- The statements of a node after those of the lines below it, which are `inner`. -/
def closing (node : Node) (children : List Branch) (inner : List Statement) : List Statement :=
  match node.content with
  | .code _ =>
    if !children.isEmpty && inner.isEmpty then [⟨(node.codeLevel + 1).toNat, .pass⟩] else []
  | .comment comment =>
    if comment.silent || children.isEmpty then [] else [node.pushText 0 comment.closing]
  | .markup markup => markup.closeStatements node (!children.isEmpty)
  | _ => []

/-- The statements of the lines below a node. -/
def body (options : Options) (node : Node) (children : List Branch) :
    Except Fault (List Statement) :=
  if node.content.rendersBelow then statementsOfAll options children else .ok []

/-- A block below code is never empty. -/
theorem codeBody_eq {code : Code} (hc : node.content = .code code) (inner : List Statement) :
    node.codeBody (!children.isEmpty) inner = inner ++ closing node children inner := by
  simp only [Node.codeBody, closing, hc]
  split
  · rename_i hempty
    have hnil : inner = [] := by simpa using (Bool.and_eq_true_iff.mp hempty).2
    rw [hnil, List.nil_append]
  · rw [List.append_nil]

/-- A branch renders in three parts. -/
theorem statements_mk (options : Options) (index : Nat) (node : Node) (children : List Branch) :
    statements options (mk index node children) = do
      let start ← opening options node children
      let inner ← body options node children
      return start ++ inner ++ closing node children inner := by
  rw [statements, opening, body]
  cases hc : node.content with
  | root =>
    simp only [closing, hc, Content.rendersBelow, if_true]
    cases statementsOfAll options children <;>
      simp [Bind.bind, Except.bind, Pure.pure, Except.pure]
  | text =>
    simp only [closing, hc, Content.rendersBelow, if_true]
    cases statementsOfAll options children <;>
      simp [Bind.bind, Except.bind, Pure.pure, Except.pure]
  | code code =>
    simp only [codeBody_eq hc, Content.rendersBelow, if_true]
    cases statementsOfAll options children <;>
      simp [Bind.bind, Except.bind, Pure.pure, Except.pure]
  | comment comment =>
    simp only [closing, hc, Content.rendersBelow]
    by_cases hs : comment.silent = true
    · simp [hs, Bind.bind, Except.bind, Pure.pure, Except.pure]
    · cases children with
      | nil => simp [hs, statementsOfAll, Bind.bind, Except.bind, Pure.pure, Except.pure]
      | cons child rest =>
        cases statementsOfAll options (child :: rest) <;>
          simp [hs, Bind.bind, Except.bind, Pure.pure, Except.pure]
  | markup markup => simp only [closing, hc, Content.rendersBelow, if_true]
  | filter line =>
    cases line <;>
      simp [closing, hc, Content.rendersBelow, Bind.bind, Except.bind, Pure.pure, Except.pure]

mutual

/-- The statements of a branch with the nodes they come from. -/
def trace (options : Options) : Branch → Except Fault (List Emitted)
  | mk index node children => do
    let start ← opening options node children
    let inner ← (if node.content.rendersBelow then traceOfAll options children else .ok [])
    return start.map (⟨index, false, ·⟩) ++ inner ++
      (closing node children (inner.map Emitted.statement)).map (⟨index, true, ·⟩)

/-- The statements of several branches with the nodes they come from. -/
def traceOfAll (options : Options) : List Branch → Except Fault (List Emitted)
  | [] => .ok []
  | branch :: rest => do return (← trace options branch) ++ (← traceOfAll options rest)

end

mutual

/-- A trace has the statements of the rendering. -/
theorem map_trace (options : Options) : (branch : Branch) →
    (trace options branch).map (List.map Emitted.statement) = statements options branch
  | mk index node children => by
    have ih := map_traceOfAll options children
    rw [trace, statements_mk, body, ← ih]
    cases opening options node children with
    | error fault => rfl
    | ok start =>
      cases node.content.rendersBelow with
      | false =>
        simp [Bind.bind, Except.bind, Pure.pure, Except.pure, Except.map, Function.comp_def]
      | true =>
        cases traceOfAll options children <;>
          simp [Bind.bind, Except.bind, Pure.pure, Except.pure, Except.map, Function.comp_def]

/-- The traces of several branches have the statements of the renderings. -/
theorem map_traceOfAll (options : Options) : (branches : List Branch) →
    (traceOfAll options branches).map (List.map Emitted.statement) =
      statementsOfAll options branches
  | [] => rfl
  | branch :: rest => by
    rw [traceOfAll, statementsOfAll, ← map_trace options branch, ← map_traceOfAll options rest]
    cases trace options branch with
    | error fault => rfl
    | ok first =>
      cases traceOfAll options rest <;>
        simp [Bind.bind, Except.bind, Pure.pure, Except.pure, Except.map]

end

end Branch

/-- A node has code when it does not nest too deep and its statements can be written. -/
theorem Tree.code_eq_ok_iff {tree : Tree} {i : Nat} (h : i < tree.size) {options : Options}
    {code : Text} : tree.code options i = .ok code ↔
      (tree.branch i (tree.nodeAt i)).reach ≤ Branch.maxReach ∧
      ∃ all, (tree.branch i (tree.nodeAt i)).statements options = .ok all ∧
        code = all.flatMap Statement.text := by
  rw [Tree.code, Tree.branch?_of_lt h]
  dsimp only
  rw [Branch.code]
  split
  · rename_i hreach
    rw [mapError_eq_ok_iff, bind_eq_ok_iff]
    simp [Pure.pure, Except.pure, hreach, eq_comm]
  · rename_i hreach
    simp [hreach]

/-- A tree has code exactly if it is not too deep and its statements can be made; the code is their
text. -/
theorem Tree.Rooted.code_eq_ok_iff {tree : Tree} (h : tree.Rooted) {options : Options}
    {code : Text} : tree.code options 0 = .ok code ↔
      (tree.branch 0 Node.root).reach ≤ Branch.maxReach ∧
      ∃ all, (tree.branch 0 Node.root).statements options = .ok all ∧
        code = all.flatMap Statement.text := by
  rw [Tree.code_eq_ok_iff h.size_pos, h.nodeAt_zero]

end Haml
