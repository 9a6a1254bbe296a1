import Haml.Registration
import Haml.Template

/-!
# Compilation

From the text of a template to the text of a module. A compilation fails for an error of the
template, for a name without segments, for a tree that nests too deep, or for a literal attribute
value that cannot be evaluated, in this order.
-/

namespace Haml

/-- Why a compilation fails. -/
inductive CompileFailure where
  | template (error : TemplateError)
  | name (error : Registration.Error)
  | literal (fault : Literal.Fault)
  /-- The tree nests too deep. -/
  | tooDeep
  /-- There is no node to compile; the tree of a template always has one. -/
  | noNode
deriving DecidableEq, Repr

/-- The text of a failure. -/
def CompileFailure.message : CompileFailure → Text
  | template error => error.message
  | name error => error.message
  | literal fault => fault.message.toList
  | tooDeep => "The template nests too deep.".toList
  | noNode => "There is no such node.".toList

/-- The code of the node at an index of a tree. -/
def Tree.code (tree : Tree) (options : Options) (i : Nat) : Except CompileFailure Text :=
  match tree.branch? i with
  | none => .error .noNode
  | some branch =>
    if branch.reach ≤ Branch.maxReach then (branch.code options).mapError .literal
    else .error .tooDeep

/-- The module for a tree. -/
def emit (options : Options) (tree : Tree) (name nameSpace : Text) :
    Except CompileFailure Text := do
  let target ← (Registration.target options name nameSpace).mapError .name
  let body ← tree.code options 0
  return Registration.moduleText options target.root target.inner target.name body

/-- The module for the text of a template. -/
def compile (options : Options) (source name nameSpace : Text) : Except CompileFailure Text := do
  let tree ← (Template.parse source).mapError .template
  emit options tree name nameSpace

end Haml
