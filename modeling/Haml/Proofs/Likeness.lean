import Haml.Proofs.Rendering

/-!
# Trees that render alike

What a node renders does not depend on its index, its parent, its width or its block level, nor on
what is below a silent comment, and of the lines of a filter only on the text that the filter takes.
So when a map of indices sends the nodes of one tree to nodes of another that are alike in what is
left, children to children, the branches at the two ends of the map render the same statements and
nest equally deep.
-/

namespace Haml

/-- Two nodes with the same output. -/
structure Node.RendersLike (a b : Node) : Prop where
  /-- They have the same line. -/
  expression : b.expression = a.expression
  /-- Their statements are at the same level. -/
  codeLevel : b.codeLevel = a.codeLevel
  /-- Their output is indented alike. -/
  outputLevel : b.outputLevel = a.outputLevel
  /-- They mean the same, or both are content of a filter. -/
  content : b.content = a.content ∨
    ∃ s t, a.content = .filter (.body s) ∧ b.content = .filter (.body t)

/-- A node renders like itself. -/
theorem Node.RendersLike.refl (node : Node) : node.RendersLike node := ⟨rfl, rfl, rfl, .inl rfl⟩

/-- Of two nodes that render alike both render what is below them, or neither. -/
theorem Node.RendersLike.rendersBelow {a b : Node} (h : a.RendersLike b) :
    b.content.rendersBelow = a.content.rendersBelow := by
  rcases h.content with heq | ⟨s, t, ha, hb⟩
  · rw [heq]
  · rw [ha, hb]
    rfl

namespace Branch

variable {options : Options} {a b : Node} {cs ds : List Branch} {i j : Nat}

/-- What is below two nodes as far as they show it themselves. -/
structure BelowLike (content : Content) (cs ds : List Branch) : Prop where
  /-- There is something below both or below none. -/
  isEmpty : content.rendersBelow = true → ds.isEmpty = cs.isEmpty
  /-- A filter has the same text. -/
  filter : ∀ kind, content = .filter (.header kind) → filterLines ds = filterLines cs

/-- Nodes that render alike open alike. -/
theorem opening_congr (h : a.RendersLike b) (hbelow : BelowLike a.content cs ds) :
    opening options b ds = opening options a cs := by
  obtain ⟨hempty, hfilter⟩ := hbelow
  obtain ⟨expression, indent, block, code, output, parent, content⟩ := a
  obtain ⟨expression', indent', block', code', output', parent', content'⟩ := b
  obtain ⟨hexpr, hcode, houtput, hcontent⟩ := h
  dsimp only at hexpr hcode houtput hcontent hempty hfilter
  subst hexpr hcode houtput
  rcases hcontent with rfl | ⟨s, t, rfl, rfl⟩
  · cases content' with
    | filter line =>
      cases line with
      | header kind =>
        simp only [opening, hfilter kind rfl]
        cases kind <;> rfl
      | body top => rfl
    | comment comment =>
      by_cases hs : comment.silent = true
      · simp only [opening, hs, if_true]
      · have hrenders : (Content.comment comment).rendersBelow = true := by
          simp [Content.rendersBelow, hs]
        simp only [opening, hempty hrenders]
        rfl
    | markup markup =>
      simp only [opening, hempty rfl]
      cases markup <;> rfl
    | _ => rfl
  · rfl

/-- Nodes that render alike close alike. -/
theorem closing_congr (h : a.RendersLike b) (hbelow : BelowLike a.content cs ds)
    (inner : List Statement) : closing b ds inner = closing a cs inner := by
  have hempty := hbelow.isEmpty
  obtain ⟨expression, indent, block, code, output, parent, content⟩ := a
  obtain ⟨expression', indent', block', code', output', parent', content'⟩ := b
  obtain ⟨hexpr, hcode, houtput, hcontent⟩ := h
  dsimp only at hexpr hcode houtput hcontent hempty
  subst hexpr hcode houtput
  rcases hcontent with rfl | ⟨s, t, rfl, rfl⟩
  · cases content' with
    | comment comment =>
      by_cases hs : comment.silent = true
      · simp only [closing, hs, Bool.true_or, if_true]
      · have hrenders : (Content.comment comment).rendersBelow = true := by
          simp [Content.rendersBelow, hs]
        simp only [closing, hempty hrenders]
        rfl
    | markup markup =>
      simp only [closing, hempty rfl]
      cases markup <;> rfl
    | code code => simp only [closing, hempty rfl]
    | _ => rfl
  · rfl

/-- The same is below two nodes as far as it is rendered by itself. -/
theorem reach_congr (h : a.RendersLike b) (hbelow : BelowLike a.content cs ds)
    (hreach : a.content.rendersBelow = true → reachOfAll ds = reachOfAll cs) :
    reach (mk j b ds) = reach (mk i a cs) := by
  have hempty := hbelow.isEmpty
  rw [reach, reach]
  rcases h.content with heq | ⟨s, t, ha, hb⟩
  · rw [heq]
    cases hc : a.content with
    | comment comment =>
      by_cases hs : comment.silent = true
      · simp only [hs, if_true]
      · rw [hreach (by rw [hc]; simp [Content.rendersBelow, hs])]
    | code code => rw [hempty (by rw [hc]; rfl), hreach (by rw [hc]; rfl)]
    | filter line => rfl
    | _ => simp only [hreach (by rw [hc]; rfl)]
  · rw [ha, hb]

/-- Branches that render alike one by one do so together. -/
theorem statementsOfAll_map_congr {α : Type} {list : List α} {g k : α → Branch}
    (h : ∀ x ∈ list, statements options (g x) = statements options (k x)) :
    statementsOfAll options (list.map g) = statementsOfAll options (list.map k) := by
  induction list with
  | nil => rfl
  | cons x list ih =>
    rw [List.map_cons, List.map_cons, statementsOfAll, statementsOfAll, h x List.mem_cons_self,
      ih fun y hy => h y (List.mem_cons_of_mem _ hy)]

/-- Branches that reach equally deep do so together. -/
theorem reachOfAll_map_congr {α : Type} {list : List α} {g k : α → Branch}
    (h : ∀ x ∈ list, reach (g x) = reach (k x)) :
    reachOfAll (list.map g) = reachOfAll (list.map k) := by
  induction list with
  | nil => rfl
  | cons x list ih =>
    rw [List.map_cons, List.map_cons, reachOfAll, reachOfAll, h x List.mem_cons_self,
      ih fun y hy => h y (List.mem_cons_of_mem _ hy)]

/-- The statements of branches are made part by part. -/
theorem statementsOfAll_append (options : Options) (cs ds : List Branch) :
    statementsOfAll options (cs ++ ds) = do
      return (← statementsOfAll options cs) ++ (← statementsOfAll options ds) := by
  induction cs with
  | nil =>
    rw [List.nil_append, statementsOfAll]
    exact (bind_pure _).symm
  | cons c cs ih =>
    rw [List.cons_append, statementsOfAll, statementsOfAll, ih]
    simp only [bind_assoc, pure_bind, List.append_assoc]

/-- Branches reach as deep as the deeper one of their parts. -/
theorem reachOfAll_append (cs ds : List Branch) :
    reachOfAll (cs ++ ds) = max (reachOfAll cs) (reachOfAll ds) := by
  induction cs with
  | nil => exact (Nat.zero_max _).symm
  | cons c cs ih => rw [List.cons_append, reachOfAll, reachOfAll, ih, Nat.max_assoc]

end Branch

namespace Tree

variable {t u : Tree} {f : Nat → Nat} {within : Nat → Prop}

/-- The map `f` sends some nodes of the tree `t`, with what is rendered below them, to nodes of the
tree `u` that render alike. -/
structure Mirrors (t u : Tree) (f : Nat → Nat) (within : Nat → Prop) : Prop where
  /-- The nodes render alike. -/
  node : ∀ i, within i → (t.nodeAt i).RendersLike (u.nodeAt (f i))
  /-- Children are sent to children. -/
  children : ∀ i, within i → (t.contentAt i).rendersBelow = true →
    u.children (f i) = (t.children i).map f
  /-- Children are among the nodes. -/
  closed : ∀ i, within i → (t.contentAt i).rendersBelow = true → ∀ c ∈ t.children i, within c
  /-- Filters have the same text. -/
  filter : ∀ i kind, within i → t.contentAt i = .filter (.header kind) →
    Branch.filterLines (u.branch (f i) (u.nodeAt (f i))).children =
      Branch.filterLines (t.branch i (t.nodeAt i)).children

namespace Mirrors

variable {i : Nat}

/-- What is below a node and its image is alike. -/
theorem belowLike (h : t.Mirrors u f within) (hi : within i) :
    Branch.BelowLike (t.nodeAt i).content
      ((t.children i).map fun c => t.branch c (t.nodeAt c))
      ((u.children (f i)).map fun c => u.branch c (u.nodeAt c)) where
  isEmpty := by
    intro hrenders
    rw [h.children i hi hrenders, List.isEmpty_map, List.isEmpty_map, List.isEmpty_map]
  filter := by
    intro kind hk
    have hlines := h.filter i kind hi hk
    rwa [branch_eq, branch_eq] at hlines

/-- The branches of two mirrored nodes render the same statements and nest equally deep. -/
theorem branch_eq (h : t.Mirrors u f within) (options : Options) (hi : within i) :
    (u.branch (f i) (u.nodeAt (f i))).statements options =
      (t.branch i (t.nodeAt i)).statements options ∧
    (u.branch (f i) (u.nodeAt (f i))).reach = (t.branch i (t.nodeAt i)).reach := by
  induction hs : t.size - i using Nat.strong_induction_on generalizing i with
  | _ size ih =>
    have hchild : (t.contentAt i).rendersBelow = true → ∀ c ∈ t.children i,
        (u.branch (f c) (u.nodeAt (f c))).statements options =
          (t.branch c (t.nodeAt c)).statements options ∧
        (u.branch (f c) (u.nodeAt (f c))).reach = (t.branch c (t.nodeAt c)).reach := by
      intro hrenders c hc
      have hlt := lt_of_mem_children hc
      exact ih _ (by omega) (h.closed i hi hrenders c hc) rfl
    have hnode := h.node i hi
    have hbelow := h.belowLike hi
    rw [Tree.branch_eq u, Tree.branch_eq t]
    constructor
    · rw [Branch.statements_mk, Branch.statements_mk, Branch.opening_congr hnode hbelow]
      have hbody : Branch.body options (u.nodeAt (f i))
          ((u.children (f i)).map fun c => u.branch c (u.nodeAt c)) =
          Branch.body options (t.nodeAt i)
            ((t.children i).map fun c => t.branch c (t.nodeAt c)) := by
        rw [Branch.body, Branch.body, hnode.rendersBelow]
        split
        · rename_i hrenders
          rw [h.children i hi hrenders, List.map_map]
          exact Branch.statementsOfAll_map_congr fun c hc => (hchild hrenders c hc).1
        · rfl
      rw [hbody]
      simp only [Branch.closing_congr hnode hbelow]
    · refine Branch.reach_congr hnode hbelow fun hrenders => ?_
      rw [h.children i hi hrenders, List.map_map]
      exact Branch.reachOfAll_map_congr fun c hc => (hchild hrenders c hc).2

/-- So do several branches. -/
theorem branches_eq (h : t.Mirrors u f within) (options : Options) {list : List Nat}
    (hlist : ∀ c ∈ list, within c) :
    Branch.statementsOfAll options ((list.map f).map fun c => u.branch c (u.nodeAt c)) =
      Branch.statementsOfAll options (list.map fun c => t.branch c (t.nodeAt c)) ∧
    Branch.reachOfAll ((list.map f).map fun c => u.branch c (u.nodeAt c)) =
      Branch.reachOfAll (list.map fun c => t.branch c (t.nodeAt c)) := by
  rw [List.map_map]
  exact ⟨Branch.statementsOfAll_map_congr fun c hc => (h.branch_eq options (hlist c hc)).1,
    Branch.reachOfAll_map_congr fun c hc => (h.branch_eq options (hlist c hc)).2⟩

end Mirrors

end Tree

end Haml
