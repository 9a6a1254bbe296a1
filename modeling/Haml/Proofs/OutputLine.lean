import Haml.Html.Value
import Haml.Proofs.LogicalLine
import Haml.Proofs.Rendering

/-!
# Output lines

An output line is made of literal text and of expressions. The expressions come from the template:
an interpolation is part of the text that it stands in, and an attribute is left to the run time as
it was given. At run time every expression has a value, and `output` gives the text of the line for
the values of its expressions in order.
-/

namespace Haml

open Literal (Fault)

namespace Text

/-- Trimming the start of a text adds no characters. -/
theorem trimLeft_subset (t : Text) : trimLeft t ⊆ t := List.dropWhile_subset _

/-- Trimming a text adds no characters. -/
theorem trim_subset (t : Text) : trim t ⊆ t := fun _ => mem_of_mem_trim

end Text

namespace Fragment

/-- Literal text, or the value of a part of a text. -/
def IsPart (escape : Bool) (t : Text) (f : Fragment) : Prop :=
  (∃ u, f = literal u) ∨ ∃ x, x ⊆ t ∧ f = ofValue escape x

/-- A part of a text is a part of any text that has all its characters. -/
theorem IsPart.mono {escape : Bool} {s t : Text} {f : Fragment} (h : IsPart escape s f)
    (hst : s ⊆ t) : IsPart escape t f :=
  h.imp id fun ⟨x, hx, hf⟩ => ⟨x, List.Subset.trans hx hst, hf⟩

/-- Putting text in front of fragments adds literal text at most. -/
theorem mem_prepend {t : Text} {fragments : List Fragment} {f : Fragment}
    (h : f ∈ prepend t fragments) : (∃ u, f = literal u) ∨ f ∈ fragments := by
  unfold prepend at h
  split at h
  · rcases List.mem_cons.mp h with rfl | h
    · exact .inl ⟨_, rfl⟩
    · exact .inr (List.mem_cons_of_mem _ h)
  · rcases List.mem_cons.mp h with rfl | h
    · exact .inl ⟨_, rfl⟩
    · exact .inr h

/-- An interpolation gives literal text and the values of parts of the text. -/
theorem isPart_of_mem_interpolate {escape : Bool} {t : Text} {f : Fragment}
    (h : f ∈ interpolate escape t) : IsPart escape t f := by
  fun_induction interpolate escape t with
  | case1 => cases h
  | case2 rest ih =>
    rcases mem_prepend h with hlit | hmore
    · exact .inl hlit
    · exact (ih hmore).mono fun c hc => by simp [hc]
  | case3 rest hempty ih =>
    rcases mem_prepend h with hlit | hmore
    · exact .inl hlit
    · exact (ih hmore).mono (List.subset_cons_self _ _)
  | case4 rest hgroup inner ih =>
    have hall := Bracket.splitBalanced_append ('\x7b' :: rest)
    have hsub : ('\x7b' :: rest) ⊆ '#' :: '\x7b' :: rest := List.subset_cons_self _ _
    rcases List.mem_cons.mp h with rfl | h
    · refine .inr ⟨_, fun c hc => hsub ?_, rfl⟩
      rw [← hall]
      exact List.mem_append_left _
        (List.mem_of_mem_drop (List.dropLast_subset _ (Text.trim_subset _ hc)))
    · refine (ih h).mono fun c hc => hsub ?_
      rw [← hall]
      exact List.mem_append_right _ hc
  | case5 c rest _ _ ih =>
    rcases mem_prepend h with hlit | hmore
    · exact .inl hlit
    · exact (ih hmore).mono (List.subset_cons_self _ _)

end Fragment

namespace Attribute

/-- Literal text, or the escaped value of one of the expressions. -/
def IsWritten (values : List Text) (f : Fragment) : Prop :=
  (∃ u, f = .literal u) ∨ ∃ x ∈ values, f = .escaped x

/-- Literal text is written whatever the expressions are. -/
theorem isWritten_literal (values : List Text) (u : CodeText) : IsWritten values (.literal u) :=
  .inl ⟨u, rfl⟩

/-- What is written for some expressions is written for more of them. -/
theorem IsWritten.mono {values more : List Text} {f : Fragment} (h : IsWritten values f)
    (hsub : values ⊆ more) : IsWritten more f := h.imp id fun ⟨x, hx, hf⟩ => ⟨x, hsub hx, hf⟩

/-- An id is written as literal text and as escaped values. -/
theorem isWritten_of_mem_idFragments {order : Literal.SetOrder} {id : Option Text}
    {values : List Text} {fragments : List Fragment}
    (h : idFragments order id values = .ok fragments) :
    ∀ f ∈ fragments, IsWritten values f := by
  obtain ⟨parts, hparts, hend⟩ := bind_eq_ok_iff.mp h
  have hall : ∀ f ∈ parts, IsWritten values f := by
    refine foldlM_eq_ok_induction (P := fun parts => ∀ f ∈ parts, IsWritten values f) hparts ?_ ?_
    · split
      · exact List.forall_mem_singleton.mpr (isWritten_literal _ _)
      · exact List.forall_mem_nil _
    · intro parts value next hvalue hold hnext
      have hjoined : ∀ f ∈ (if parts.isEmpty then parts else parts ++ [Fragment.text ['_']]),
          IsWritten values f := by
        split
        · exact hold
        · exact List.forall_mem_append.mpr
            ⟨hold, List.forall_mem_singleton.mpr (isWritten_literal _ _)⟩
      obtain ⟨read, -, hread⟩ := bind_eq_ok_iff.mp hnext
      cases read with
      | none =>
        obtain rfl := Except.ok.inj hread
        exact List.forall_mem_append.mpr
          ⟨hjoined, List.forall_mem_singleton.mpr (.inr ⟨value, hvalue, rfl⟩)⟩
      | some literal =>
        dsimp only at hread
        split at hread
        · obtain ⟨shown, -, heq⟩ := bind_eq_ok_iff.mp hread
          obtain rfl := Except.ok.inj heq
          exact List.forall_mem_append.mpr
            ⟨hjoined, List.forall_mem_singleton.mpr (isWritten_literal _ _)⟩
        · obtain rfl := Except.ok.inj hread
          exact hold
  split at hend
  · obtain rfl := Except.ok.inj hend
    exact List.forall_mem_nil _
  · obtain rfl := Except.ok.inj hend
    exact List.forall_mem_cons.mpr ⟨isWritten_literal _ _,
      List.forall_mem_append.mpr ⟨hall, List.forall_mem_singleton.mpr (isWritten_literal _ _)⟩⟩

/-- Classes of the run are written as literal text and as escaped values. -/
theorem isWritten_of_mem_dynamicClass {spaced : Bool} {values : List Text} {f : Fragment}
    (h : f ∈ dynamicClass spaced values) : IsWritten values f := by
  induction values generalizing spaced with
  | nil => cases h
  | cons value rest ih =>
    rw [dynamicClass] at h
    rcases List.mem_append.mp h with h | h
    · split at h
      · exact .inl ⟨_, List.mem_singleton.mp h⟩
      · cases h
    · rcases List.mem_cons.mp h with rfl | h
      · exact .inr ⟨value, List.mem_cons_self, rfl⟩
      · exact (ih h).mono (List.subset_cons_self _ _)

/-- A class is written as literal text and as escaped values. -/
theorem isWritten_of_mem_classFragments {order : Literal.SetOrder} {shorthand values : List Text}
    {fragments : List Fragment} (h : classFragments order shorthand values = .ok fragments) :
    ∀ f ∈ fragments, IsWritten values f := by
  obtain ⟨classes, hclasses, hend⟩ := bind_eq_ok_iff.mp h
  have hdynamic : classes.dynamic ⊆ values := by
    refine foldlM_eq_ok_induction (P := fun classes => classes.dynamic ⊆ values) hclasses
      (List.nil_subset _) ?_
    intro classes value next hvalue hold hnext
    obtain ⟨read, -, hread⟩ := bind_eq_ok_iff.mp hnext
    cases read with
    | none =>
      obtain rfl := Except.ok.inj hread
      exact List.append_subset.mpr ⟨hold, List.cons_subset.mpr ⟨hvalue, List.nil_subset _⟩⟩
    | some literal =>
      obtain ⟨texts, -, heq⟩ := bind_eq_ok_iff.mp hread
      obtain rfl := Except.ok.inj heq
      exact hold
  split at hend
  · obtain rfl := Except.ok.inj hend
    exact List.forall_mem_nil _
  · obtain rfl := Except.ok.inj hend
    refine List.forall_mem_cons.mpr ⟨isWritten_literal _ _,
      List.forall_mem_append.mpr ⟨?_, List.forall_mem_singleton.mpr (isWritten_literal _ _)⟩⟩
    exact fun f hf => (isWritten_of_mem_dynamicClass hf).mono hdynamic

/-- Any other attribute is written as literal text, or with its escaped value. -/
theorem isWritten_of_mem_otherFragments {options : Options} {given : Attribute}
    {fragments : List Fragment} (h : otherFragments options given = .ok fragments) :
    ∀ f ∈ fragments, IsWritten [given.value] f := by
  obtain ⟨read, -, hread⟩ := bind_eq_ok_iff.mp h
  split at hread
  · obtain rfl := Except.ok.inj hread
    exact List.forall_mem_cons.mpr ⟨isWritten_literal _ _, List.forall_mem_cons.mpr
      ⟨.inr ⟨_, List.mem_singleton_self _, rfl⟩,
        List.forall_mem_singleton.mpr (isWritten_literal _ _)⟩⟩
  · split at hread <;>
      · obtain rfl := Except.ok.inj hread
        exact List.forall_mem_singleton.mpr (isWritten_literal _ _)
  · obtain rfl := Except.ok.inj hread
    exact List.forall_mem_nil _
  · obtain rfl := Except.ok.inj hread
    exact List.forall_mem_nil _
  · obtain ⟨shown, -, heq⟩ := bind_eq_ok_iff.mp hread
    obtain rfl := Except.ok.inj heq
    exact List.forall_mem_singleton.mpr (isWritten_literal _ _)

/-- Attributes are written as literal text and as escaped values of the expressions given. -/
theorem isWritten_of_mem_serialise {options : Options} {id : Option Text} {classes : List Text}
    {attributes : List Attribute} {fragments : List Fragment}
    (h : serialise options id classes attributes = .ok fragments) :
    ∀ f ∈ fragments, IsWritten (attributes.map (·.value)) f := by
  have hvalues : ∀ name, valuesOf name attributes ⊆ attributes.map (·.value) := fun name =>
    List.map_subset _ (List.filter_subset_self _)
  obtain ⟨idPart, hid, hmore⟩ := bind_eq_ok_iff.mp h
  obtain ⟨classPart, hclass, hmore⟩ := bind_eq_ok_iff.mp hmore
  obtain ⟨rest, hrest, heq⟩ := bind_eq_ok_iff.mp hmore
  obtain rfl := Except.ok.inj heq
  refine List.forall_mem_append.mpr ⟨List.forall_mem_append.mpr ⟨?_, ?_⟩, ?_⟩
  · exact fun f hf => (isWritten_of_mem_idFragments hid f hf).mono (hvalues _)
  · exact fun f hf => (isWritten_of_mem_classFragments hclass f hf).mono (hvalues _)
  · intro f hf
    obtain ⟨part, hpart, hf⟩ := List.mem_flatten.mp hf
    obtain ⟨given, hgiven, hof⟩ := exists_of_mem_mapM hrest hpart
    refine (isWritten_of_mem_otherFragments hof f hf).mono
      (List.cons_subset.mpr ⟨?_, List.nil_subset _⟩)
    exact List.mem_map_of_mem (List.mem_filter.mp hgiven).1

end Attribute

/-- The lines at the start of an element are made of fixed text, its attributes and the content on
its own line. -/
theorem Element.mem_openStatements {options : Options} {element : Element} {node : Node}
    {hasChildren : Bool} {start : List Statement}
    (h : element.openStatements options node hasChildren = .ok start) :
    ∃ attributes, Attribute.serialise options element.id element.classes
        element.attributes = .ok attributes ∧
      ∀ s ∈ start, ∃ line, s = node.push line ∧
        ∀ f ∈ line, (∃ t, f = .text t) ∨ f ∈ attributes ∨ f ∈ element.inlineContent options := by
  obtain ⟨attributes, hattributes, h⟩ := bind_eq_ok_iff.mp h
  refine ⟨attributes, hattributes, ?_⟩
  dsimp only at h
  split at h
  · obtain rfl := Except.ok.inj h
    refine List.forall_mem_singleton.mpr ⟨_, rfl, fun f hf => ?_⟩
    grind
  · split at h
    · obtain rfl := Except.ok.inj h
      refine List.forall_mem_singleton.mpr ⟨_, rfl, fun f hf => ?_⟩
      grind
    · obtain rfl := Except.ok.inj h
      refine List.forall_mem_cons.mpr ⟨⟨_, rfl, fun f hf => ?_⟩, ?_⟩
      · grind
      · split
        · exact List.forall_mem_nil _
        · refine List.forall_mem_singleton.mpr ⟨_, rfl, fun f hf => ?_⟩
          grind

/-- A value at run time. -/
structure RunTimeValue where
  /-- Whether it stands for a missing value. -/
  missing : Bool
  /-- Its text. -/
  text : CodeText

namespace RunTimeValue

/-- What the escape function makes of a value: nothing of a missing one. -/
def escaped (value : RunTimeValue) : CodeText :=
  if value.missing then [] else Html.escapeCodes value.text

/-- Data as a value. -/
def ofData : Data → RunTimeValue
  | .null => ⟨true, Text.codes (Data.display .null)⟩
  | data => ⟨false, Text.codes data.display⟩

/-- Data is escaped as the escape function of a namespace does it. -/
theorem escaped_ofData (data : Data) :
    (ofData data).escaped = Text.codes (Html.escapeValue data) := by
  cases data with
  | null => rfl
  | _ => exact Html.escapeCodes_codes _

end RunTimeValue

namespace Fragment

/-- The text of a fragment whose expression has a value. -/
def shown (value : RunTimeValue) : Fragment → CodeText
  | literal t => t
  | escaped _ => value.escaped
  | plain _ | code _ => value.text

/-- The text of an output line, given the values of its expressions in order. -/
def output (values : Nat → RunTimeValue) : List Fragment → CodeText
  | [] => []
  | f :: rest =>
    f.shown (values 0) ++ output (if f.isCode then fun i => values (i + 1) else values) rest

end Fragment

end Haml
