import Haml.Line.Basic
import Haml.Text.Quoted

/-!
# The tree of template lines

Nodes are kept in the order of their creation, and each refers to its parent by index, so a parent
always comes before its children. A new node is appended to the list of its parent's children; that
the lists and the references agree is carried by the tree. Node 0 is the root. `Tree.branch` gives
the nodes below one node as a rose tree, on which everything that walks the tree is a structural
recursion.
-/

namespace Haml

/-- A node of the tree: a template line with its levels. -/
structure Node where
  /-- The line without indentation. -/
  expression : Text
  /-- The width of the indentation. -/
  indent : Int
  /-- How many indentation units deep the line is. -/
  blockLevel : Int
  /-- How many blocks deep its statements are in the generated function. -/
  codeLevel : Int
  /-- How deep its output is indented. -/
  outputLevel : Int
  /-- The index of the parent. -/
  parent : Option Nat
  /-- What the line means. -/
  content : Content
deriving DecidableEq, Repr

namespace Node

/-- The root: it stands for no line, and its children have the lowest levels. -/
def root : Node :=
  { expression := [], indent := 0, blockLevel := 0, codeLevel := 1, outputLevel := 0,
    parent := none, content := .root }

/-- The output level of a node's children: code adds no markup, so its children stay at its
level. -/
def childOutputLevel (node : Node) : Int :=
  match node.content with
  | .root => 0
  | .code _ => node.outputLevel
  | _ => node.outputLevel + 1

/-- The code level of a node's children: a block opens below code only. -/
def childCodeLevel (node : Node) : Int :=
  if node.content.isCode then node.codeLevel + 1 else node.codeLevel

/-- The name of a node's kind in a dump. -/
def label (node : Node) : Text :=
  match node.content.kind? with
  | none => "Root".toList
  | some kind => kind.name.map Char.toUpper

/-- One node in a dump. -/
def summary (node : Node) : Text :=
  node.label ++ '(' :: Text.quote node.expression ++ ", block_level=".toList ++
    Text.ofInt node.blockLevel ++ ", code_block_level=".toList ++ Text.ofInt node.codeLevel ++ [')']

end Node

/-- A node with all that is below it. -/
inductive Branch where
  | mk (index : Nat) (node : Node) (children : List Branch)

namespace Branch

/-- The index of the node. -/
def index : Branch → Nat
  | mk index _ _ => index

/-- The node at the top. -/
def node : Branch → Node
  | mk _ node _ => node

/-- The branches right below. -/
def children : Branch → List Branch
  | mk _ _ children => children

mutual

/-- One line for each node, indented by depth. -/
def dumpLines (depth : Nat) : Branch → List Text
  | mk _ node children =>
    (Text.times depth "|   ".toList ++ node.summary) :: dumpAll (depth + 1) children

/-- The lines of several branches of one depth. -/
def dumpAll (depth : Nat) : List Branch → List Text
  | [] => []
  | branch :: rest => dumpLines depth branch ++ dumpAll depth rest

end

mutual

/-- The number of levels of a branch. -/
def height : Branch → Nat
  | mk _ _ children => heightOfAll children + 1

/-- The greatest number of levels of several branches. -/
def heightOfAll : List Branch → Nat
  | [] => 0
  | branch :: rest => max (height branch) (heightOfAll rest)

end

mutual

/-- The nodes of a branch with their indices, each before those below it. -/
def nodes : Branch → List (Nat × Node)
  | mk index node children => (index, node) :: nodesOfAll children

/-- The nodes of several branches. -/
def nodesOfAll : List Branch → List (Nat × Node)
  | [] => []
  | branch :: rest => nodes branch ++ nodesOfAll rest

end

end Branch

/-- The nodes in the order of their creation, and the lists of their children. -/
@[ext]
structure Tree where
  /-- All nodes; the root is the first. -/
  nodes : Array Node
  /-- The children of each node, by index. -/
  childLists : Array (List Nat)
  /-- Each node has a list. -/
  size_childLists : childLists.size = nodes.size
  /-- A node is listed for an earlier one exactly if that is its parent. -/
  listed : ∀ i j : Nat, j ∈ childLists[i]?.getD [] ↔ i < j ∧ nodes[j]?.bind Node.parent = some i
  /-- The lists are in the order of creation. -/
  ordered : ∀ i : Nat, (childLists[i]?.getD []).Pairwise (· < ·)
deriving DecidableEq, Repr

namespace Tree

/-- The tree without nodes. -/
def empty : Tree := ⟨#[], #[], rfl, by simp, by simp⟩

/-- The number of nodes. -/
def size (tree : Tree) : Nat := tree.nodes.size

/-- The node at an index. -/
def get? (tree : Tree) (i : Nat) : Option Node := tree.nodes[i]?

/-- The index that a reference stands for: it counts from the first node, or from behind the last
one if it is negative. Nothing when it leads outside the tree. -/
def index? (tree : Tree) (reference : Int) : Option Nat :=
  let i := if reference < 0 then reference + tree.size else reference
  if 0 ≤ i ∧ i < tree.size then some i.toNat else none

/-- The node that a reference stands for. -/
def find? (tree : Tree) (reference : Int) : Option Node := (tree.index? reference).bind tree.get?

/-- Lists of children with a new node appended to the list of its parent, and an empty list for the
new node. -/
def link (lists : Array (List Nat)) (parent : Option Nat) (child : Nat) : Array (List Nat) :=
  (match parent with
    | some p => lists.modify p (· ++ [child])
    | none => lists).push []

/-- There is a list more than before. -/
theorem size_link (lists : Array (List Nat)) (parent : Option Nat) (child : Nat) :
    (link lists parent child).size = lists.size + 1 := by
  cases parent <;> simp [link]

/-- The list of the parent ends in the new node, and every other list is as before. -/
theorem getD_link (lists : Array (List Nat)) (parent : Option Nat) (child i : Nat) :
    (link lists parent child)[i]?.getD [] =
      lists[i]?.getD [] ++ if i < lists.size ∧ parent = some i then [child] else [] := by
  have hpush (others : Array (List Nat)) : (others.push [])[i]?.getD [] = others[i]?.getD [] := by
    rw [Array.getElem?_push]
    split
    case isTrue heq => rw [heq, Array.getElem?_eq_none (Nat.le_refl _)]; rfl
    case isFalse => rfl
  cases parent with
  | none => simp [link, hpush]
  | some p =>
    rw [link, hpush, Array.getElem?_modify]
    by_cases hp : p = i
    · subst hp
      by_cases hlt : p < lists.size <;> simp [hlt]
    · simp [hp]

/-- A node that is listed for another is a node of the tree. -/
theorem lt_size_of_mem_childLists (tree : Tree) {i j : Nat}
    (h : j ∈ tree.childLists[i]?.getD []) : i < j ∧ j < tree.nodes.size := by
  obtain ⟨hlt, hparent⟩ := (tree.listed i j).mp h
  obtain ⟨node, hnode, -⟩ := Option.bind_eq_some_iff.mp hparent
  exact ⟨hlt, (Array.getElem?_eq_some_iff.mp hnode).1⟩

/-- The tree with one more node; its index is the size before. -/
def add (tree : Tree) (node : Node) : Tree :=
  { nodes := tree.nodes.push node
    childLists := link tree.childLists node.parent tree.nodes.size
    size_childLists := by rw [size_link, tree.size_childLists, Array.size_push]
    listed := fun i j => by
      rw [getD_link, List.mem_append, tree.listed, tree.size_childLists, Array.getElem?_push]
      by_cases hj : j = tree.nodes.size
      · subst hj
        rw [Array.getElem?_eq_none (Nat.le_refl _)]
        split <;> simp_all
      · rw [if_neg hj]
        split <;> simp [hj]
    ordered := fun i => by
      rw [getD_link, List.pairwise_append]
      refine ⟨tree.ordered i, by split <;> simp, fun j hj k hk => ?_⟩
      obtain ⟨-, hlt⟩ := tree.lt_size_of_mem_childLists hj
      split at hk
      case isTrue => rwa [List.mem_singleton.mp hk]
      case isFalse => cases hk }

/-- The parent of a node. -/
def parent? (tree : Tree) (i : Nat) : Option Nat := (tree.get? i).bind (·.parent)

/-- The children of a node in the order of their creation. -/
def children (tree : Tree) (i : Nat) : List Nat := tree.childLists[i]?.getD []

/-- A new node is the last child of its parent, and no other node has another child by it. -/
theorem children_add (tree : Tree) (node : Node) (i : Nat) :
    (tree.add node).children i =
      tree.children i ++ if i < tree.size ∧ node.parent = some i then [tree.size] else [] := by
  rw [children, add, getD_link, tree.size_childLists]
  rfl

/-- Children are later nodes of the tree. -/
theorem lt_of_mem_children {tree : Tree} {i j : Nat} (h : j ∈ tree.children i) :
    i < j ∧ j < tree.size :=
  tree.lt_size_of_mem_childLists h

/-- The nodes below the node `i`, as a rose tree. -/
def branch (tree : Tree) (i : Nat) (node : Node) : Branch :=
  .mk i node ((tree.children i).attach.filterMap fun ⟨j, _h⟩ =>
    match tree.get? j with
    | some child => some (tree.branch j child)
    | none => none)
termination_by tree.size - i
decreasing_by have := lt_of_mem_children _h; omega

/-- The branch of the node at an index. -/
def branch? (tree : Tree) (i : Nat) : Option Branch := (tree.get? i).map (tree.branch i)

/-- Why a tree has no view. -/
inductive ViewError where
  | noRoot
  | tooDeep
deriving DecidableEq, Repr

/-- The greatest number of levels below the root in a view. -/
def maxHeight : Nat := 990

/-- A view of the tree with one node a line. -/
def dump (tree : Tree) : Except ViewError Text :=
  match tree.branch? 0 with
  | none => .error .noRoot
  | some root =>
    if Branch.heightOfAll root.children ≤ maxHeight then
      .ok (List.intercalate ['\n'] (Branch.dumpAll 0 root.children))
    else .error .tooDeep

/-- The depths of the nodes so far, and of one more: one below the parent's. Nothing when the node
has no parent among them. -/
def extendDepths (depths : List Int) (node : Node) : Option (List Int) := do
  return depths ++ [(← depths[← node.parent]?) + 1]

/-- The deepest nesting, the root's children having depth 0; nothing when a later node has no
parent. -/
def depth? (tree : Tree) : Option Int :=
  match tree.nodes.toList with
  | [] | [_] => some 0
  | _ :: rest => (rest.foldlM extendDepths [-1]).map fun depths => depths.foldl max (-1)

/-- Whether the node, or one above it, is a filter or a comment; nothing when there is no such
node. -/
def inRawBlock? (tree : Tree) (i : Nat) : Option Bool :=
  match tree.get? i with
  | none => none
  | some node =>
    if node.content.isRaw then some true
    else
      match node.parent with
      | none => some false
      | some p => if p < i then tree.inRawBlock? p else none
termination_by i

/-- The reference to the filter that a filter line belongs to, to itself if it opens the filter. -/
def topOf? (tree : Tree) (i : Nat) : Option Int :=
  match tree.get? i with
  | none => none
  | some node =>
    match node.content with
    | .filter (.body top) => some top
    | .filter (.header _) => some i
    | _ => none

end Tree

/-- Where a line goes: its kind and the node it becomes a child of. -/
structure Placement where
  /-- The kind of the line. -/
  kind : Kind
  /-- The index of the parent. -/
  parent : Nat
deriving DecidableEq, Repr

namespace Tree

/-- The placement of a line with `previous` the node before it and `parent` the node that encloses
it. A blank line after a filter line belongs to the filter, and any line below a filter line is
content of the filter. Nothing when the filter of the line before is not in the tree. -/
def place? (tree : Tree) (line : Text) (previous : Option Nat) (parent : Nat) : Option Placement :=
  match if line.isEmpty then previous.bind tree.topOf? else none with
  | some top => (tree.index? top).map fun filter => ⟨.filter, filter⟩
  | none =>
    if (tree.topOf? parent).isSome then some ⟨.filter, parent⟩
    else some ⟨Kind.ofLine line, parent⟩

/-- The levels of a new node that the outline decides. -/
structure Levels where
  /-- Its block level. -/
  block : Int
  /-- Its code level. -/
  code : Int
  /-- The width of its indentation. -/
  indent : Int
deriving DecidableEq, Repr

/-- The tree with a node for a line; nothing when its parent does not exist. -/
def insert? (tree : Tree) (line : Text) (previous : Option Nat) (parent : Nat) (levels : Levels) :
    Option Tree := do
  let placement ← tree.place? line previous parent
  let above ← tree.get? placement.parent
  let top := if placement.kind == .filter then tree.topOf? placement.parent else none
  return tree.add
    { expression := line
      indent := levels.indent
      blockLevel := levels.block
      codeLevel := levels.code
      outputLevel := above.childOutputLevel
      parent := some placement.parent
      content := Content.ofLine placement.kind top line }

end Tree

end Haml
