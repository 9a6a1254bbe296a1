import Haml.Proofs.CompileOutcome
import Haml.Proofs.ElementLine
import Haml.Proofs.Escaping

/-!
# Attributes as items of a text

The text of attributes is made of items: a name alone, or a name with a quoted value. If no value
has a quote or another delimiter in it, the text can be cut into its items in one way only, and
undoing the entities gives the values. `expectedItems` puts together the items that shorthands and
attributes stand for, from the values known before the run and those of the run, without a word
about fragments.
-/

namespace Haml

open Literal (Fault SetOrder Value)

namespace Html

/-- A text with the four entities replaced by their characters. -/
def unescape : CodeText → CodeText
  | .char '&' :: .char 'a' :: .char 'm' :: .char 'p' :: .char ';' :: rest =>
    .char '&' :: unescape rest
  | .char '&' :: .char 'l' :: .char 't' :: .char ';' :: rest => .char '<' :: unescape rest
  | .char '&' :: .char 'g' :: .char 't' :: .char ';' :: rest => .char '>' :: unescape rest
  | .char '&' :: .char 'q' :: .char 'u' :: .char 'o' :: .char 't' :: .char ';' :: rest =>
    .char '"' :: unescape rest
  | c :: rest => c :: unescape rest
  | [] => []

/-- Only an ampersand can start an entity. -/
theorem unescape_cons {c : CodePoint} (h : c ≠ .char '&') (rest : CodeText) :
    unescape (c :: rest) = c :: unescape rest := by
  rw [unescape]
  all_goals
    rintro _ rfl
    exact absurd rfl h

/-- Texts are escaped part by part. -/
theorem escapeCodes_append (s t : CodeText) :
    escapeCodes (s ++ t) = escapeCodes s ++ escapeCodes t := List.flatMap_append

/-- Escaping is undone. -/
theorem unescape_escapeCodes (t : CodeText) : unescape (escapeCodes t) = t := by
  induction t with
  | nil => rfl
  | cons point t ih =>
    rw [escapeCodes, List.flatMap_cons, ← escapeCodes]
    cases point with
    | surrogate offset =>
      rw [codeEntity, List.singleton_append, unescape_cons (by simp), ih]
    | char c =>
      rw [codeEntity, entity]
      split_ifs with hamp hless hgreater hquote
      · rw [eq_of_beq hamp]
        exact congrArg _ ih
      · rw [eq_of_beq hless]
        exact congrArg _ ih
      · rw [eq_of_beq hgreater]
        exact congrArg _ ih
      · rw [eq_of_beq hquote]
        exact congrArg _ ih
      · rw [Text.codes, List.map_singleton, List.singleton_append,
          unescape_cons (by simpa using hamp), ih]

end Html

namespace Attribute

/-- An attribute in the text of an element: a name, and a value unless it is a flag. -/
structure Item where
  /-- The name. -/
  name : Text
  /-- The value between the quotes. -/
  value : Option CodeText
deriving DecidableEq, Repr

namespace Item

/-- The value with its sign and quotes. -/
def assignment (item : Item) : CodeText :=
  item.value.elim [] fun v => Text.codes "=\"".toList ++ (v ++ [.char '"'])

/-- The text of an item. -/
def text (item : Item) : CodeText := .char ' ' :: Text.codes item.name ++ item.assignment

/-- The item with its value escaped. -/
def escaped (item : Item) : Item := { item with value := item.value.map Html.escapeCodes }

/-- The item with the entities in its value undone. -/
def unescaped (item : Item) : Item := { item with value := item.value.map Html.unescape }

/-- The name has only characters of names, and the value has no delimiter. -/
structure Clean (item : Item) : Prop where
  /-- There is a name. -/
  named : item.name ≠ []
  /-- It has only characters of names. -/
  name : ∀ c ∈ item.name, isHtmlNameChar c = true
  /-- The value has no delimiter. -/
  value : ∀ v ∈ item.value, ∀ c ∈ v, Html.isDelimiter c = false

/-- An item with a value is written with the value escaped, in double quotes. -/
theorem text_escaped_some (name : Text) (v : CodeText) :
    (escaped ⟨name, some v⟩).text =
      Text.codes (' ' :: name ++ "=\"".toList) ++ (Html.escapeCodes v ++ Text.codes ['"']) := by
  simp [text, escaped, assignment, Text.codes]

/-- An item without a value is written as its name. -/
theorem text_escaped_none (name : Text) :
    (escaped ⟨name, none⟩).text = Text.codes (' ' :: name) := List.append_nil _

/-- With the entities undone an escaped item is the item again. -/
theorem unescaped_escaped (item : Item) : item.escaped.unescaped = item := by
  obtain ⟨name, value⟩ := item
  cases value with
  | none => rfl
  | some v => simp [escaped, unescaped, Html.unescape_escapeCodes]

/-- An escaped value has no delimiter. -/
theorem clean_escaped {item : Item} (hnamed : item.name ≠ [])
    (hname : ∀ c ∈ item.name, isHtmlNameChar c = true) : item.escaped.Clean := by
  refine ⟨hnamed, hname, fun v hv c hc => ?_⟩
  obtain ⟨w, -, rfl⟩ := Option.map_eq_some_iff.mp hv
  simpa using List.filter_eq_nil_iff.mp (Html.filter_escapeCodes w) c hc

end Item

/-- A run of elements of a class and what follows it are determined by the whole. -/
theorem span_unique {α : Type} {p : α → Bool} {a b s t : List α} (ha : ∀ x ∈ a, p x = true)
    (hb : ∀ x ∈ b, p x = true) (hs : ∀ x ∈ s.head?, p x = false) (ht : ∀ x ∈ t.head?, p x = false)
    (h : a ++ s = b ++ t) : a = b ∧ s = t := by
  obtain ⟨htake, hdrop⟩ := Text.span_append ha hs
  obtain ⟨hother, hrest⟩ := Text.span_append hb ht
  rw [h] at htake hdrop
  exact ⟨htake.symm.trans hother, hdrop.symm.trans hrest⟩

/-- Whether a code point is a character of names. -/
def isNamePoint : CodePoint → Bool
  | .char c => isHtmlNameChar c
  | .surrogate _ => false

/-- The code points of a name are such as names are made of. -/
theorem isNamePoint_codes {name : Text} (h : ∀ c ∈ name, isHtmlNameChar c = true) :
    ∀ c ∈ Text.codes name, isNamePoint c = true := by
  intro c hc
  obtain ⟨d, hd, rfl⟩ := List.mem_map.mp hc
  exact h d hd

/-- The first item of a text is determined, if what follows starts with a blank. -/
theorem item_unique {first second : Item} (hfirst : first.Clean) (hsecond : second.Clean)
    {s t : CodeText} (hs : ∀ c ∈ s.head?, c = .char ' ') (ht : ∀ c ∈ t.head?, c = .char ' ')
    (h : first.text ++ s = second.text ++ t) : first = second ∧ s = t := by
  have hends {item : Item} {s : CodeText} (hs : ∀ c ∈ s.head?, c = .char ' ') :
      ∀ c ∈ (item.assignment ++ s).head?, isNamePoint c = false := by
    intro c hc
    rw [Item.assignment] at hc
    cases hvalue : item.value with
    | none =>
      rw [hvalue] at hc
      rw [hs c hc]
      decide
    | some v =>
      rw [hvalue] at hc
      obtain rfl := Option.some.inj hc
      decide
  rw [Item.text, Item.text, List.cons_append, List.cons_append, List.append_assoc,
    List.append_assoc] at h
  obtain ⟨hnames, hrest⟩ := span_unique (isNamePoint_codes hfirst.name)
    (isNamePoint_codes hsecond.name) (hends hs) (hends ht) (List.cons.inj h).2
  have hname : first.name = second.name :=
    List.map_injective_iff.mpr (fun _ _ => CodePoint.char.inj) hnames
  obtain ⟨name, value⟩ := first
  obtain ⟨other, otherValue⟩ := second
  obtain rfl : name = other := hname
  cases value with
  | none =>
    cases otherValue with
    | none => exact ⟨rfl, hrest⟩
    | some w =>
      have hsign : s.head? = some (.char '=') := congrArg List.head? hrest
      exact absurd (hs _ hsign) (by decide)
  | some v =>
    cases otherValue with
    | none =>
      have hsign : t.head? = some (.char '=') := congrArg List.head? hrest.symm
      exact absurd (ht _ hsign) (by decide)
    | some w =>
      have hquote {v : CodeText} (hv : ∀ c ∈ v, Html.isDelimiter c = false) :
          ∀ c ∈ v, (c != .char '"') = true := by
        intro c hc
        rw [bne_iff_ne]
        rintro rfl
        exact absurd (hv _ hc) (by decide)
      have hvalues : v ++ .char '"' :: s = w ++ .char '"' :: t := by
        simpa [Item.assignment, Text.codes] using hrest
      obtain ⟨rfl, hmore⟩ := span_unique (hquote (hfirst.value v rfl))
        (hquote (hsecond.value w rfl)) (by simp) (by simp) hvalues
      exact ⟨rfl, (List.cons.inj hmore).2⟩

/-- A text can be cut into items in one way only. -/
theorem items_unique {first second : List Item} (hfirst : ∀ item ∈ first, item.Clean)
    (hsecond : ∀ item ∈ second, item.Clean)
    (h : first.flatMap Item.text = second.flatMap Item.text) : first = second := by
  have hstart (items : List Item) : ∀ c ∈ (items.flatMap Item.text).head?, c = .char ' ' := by
    intro c hc
    cases items with
    | nil => cases hc
    | cons item more => exact (Option.some.inj hc).symm
  induction first generalizing second with
  | nil =>
    cases second with
    | nil => rfl
    | cons item more => cases h
  | cons item first ih =>
    cases second with
    | nil => cases h
    | cons other second =>
      rw [List.flatMap_cons, List.flatMap_cons] at h
      obtain ⟨hitem, hmore⟩ := List.forall_mem_cons.mp hfirst
      obtain ⟨hother, hothers⟩ := List.forall_mem_cons.mp hsecond
      obtain ⟨rfl, hrest⟩ := item_unique hitem hother (hstart first) (hstart second) h
      rw [ih hmore hothers hrest]

end Attribute

/-- The text of a value: that of a missing one is empty. -/
def RunTimeValue.visible (value : RunTimeValue) : CodeText :=
  if value.missing then [] else value.text

/-- A value of the run is shown as what is visible of it, escaped; of a missing value nothing is
visible. -/
theorem RunTimeValue.escaped_eq (value : RunTimeValue) :
    value.escaped = Html.escapeCodes value.visible := by
  rw [escaped, visible]
  split <;> rfl

/-- The values after the first `n`. -/
def valuesAfter (n : Nat) (values : Nat → RunTimeValue) : Nat → RunTimeValue :=
  fun i => values (i + n)

/-- After no value all values are left. -/
theorem valuesAfter_zero (values : Nat → RunTimeValue) : valuesAfter 0 values = values := rfl

/-- Values are taken one after the other. -/
theorem valuesAfter_add (m n : Nat) (values : Nat → RunTimeValue) :
    valuesAfter m (valuesAfter n values) = valuesAfter (n + m) values := by
  funext i
  rw [valuesAfter, valuesAfter, valuesAfter, Nat.add_assoc, Nat.add_comm m]

namespace Fragment

/-- No fragments output nothing. -/
@[simp] theorem output_nil (values : Nat → RunTimeValue) : output values [] = [] := rfl

/-- A literal is output as it stands and takes no value. -/
@[simp] theorem output_literal_cons (values : Nat → RunTimeValue) (t : CodeText)
    (rest : List Fragment) : output values (.literal t :: rest) = t ++ output values rest := rfl

/-- Fixed text is output as it stands. -/
@[simp] theorem output_text_cons (values : Nat → RunTimeValue) (t : Text) (rest : List Fragment) :
    output values (.text t :: rest) = Text.codes t ++ output values rest := rfl

/-- An escaped expression takes the next value. -/
theorem output_escaped_cons (values : Nat → RunTimeValue) (x : Text) (rest : List Fragment) :
    output values (.escaped x :: rest) =
      (values 0).escaped ++ output (valuesAfter 1 values) rest := rfl

/-- Each part of a line takes its values after those of the parts before it. -/
theorem output_append (values : Nat → RunTimeValue) (a b : List Fragment) :
    output values (a ++ b) =
      output values a ++ output (valuesAfter (a.countP isCode) values) b := by
  induction a generalizing values with
  | nil => rfl
  | cons f rest ih =>
    rw [List.cons_append, output, output, ih, List.append_assoc, List.countP_cons]
    cases hf : f.isCode with
    | false => rfl
    | true =>
      have hshift : valuesAfter (rest.countP isCode) (valuesAfter 1 values) =
          valuesAfter (rest.countP isCode + 1) values := by
        rw [valuesAfter_add, Nat.add_comm]
      exact congrArg (fun v => _ ++ (_ ++ output v b)) hshift

end Fragment

namespace Attribute

/-- The value of an expression that is a literal. -/
def literal? (value : Text) : Option Value := (Literal.read value).toOption.join

/-- Whether the value of an attribute is left to the run. -/
def isDynamic (given : Attribute) : Bool := (literal? given.value).isNone

/-- The value of an attribute: known before the run, or given by it. -/
inductive Outcome where
  | known (value : Value)
  | run (value : RunTimeValue)

/-- Attributes with their values, those of the run in order. -/
def assign (values : Nat → RunTimeValue) : List Attribute → List (Attribute × Outcome)
  | [] => []
  | given :: rest =>
    match literal? given.value with
    | some value => (given, .known value) :: assign values rest
    | none => (given, .run (values 0)) :: assign (valuesAfter 1 values) rest

namespace Outcome

/-- The text that a value adds to the id. -/
def idTexts (order : SetOrder) : Outcome → List CodeText
  | known value => if value.truthy then [value.display order] else []
  | run value => [value.visible]

/-- The texts that a value adds to the class when it is known before the run. -/
def knownClasses (order : SetOrder) : Outcome → List CodeText
  | known value => (classParts value).map (Value.display order)
  | run _ => []

/-- The text that a value adds to the class when the run gives it. -/
def runClasses : Outcome → List CodeText
  | known _ => []
  | run value => [value.visible]

/-- The item of an attribute other than id and class. -/
def item? (options : Options) (name : Text) : Outcome → Option Item
  | known (.bool true) =>
    some ⟨name, if options.format == .xhtml then some (Text.codes name) else none⟩
  | known (.bool false) => none
  | known .none => none
  | known value => some ⟨name, some (value.display options.setOrder)⟩
  | run value => some ⟨name, some value.visible⟩

end Outcome

/-- An item whose value joins texts; none if there are no texts. -/
def joinedItem? (name : Text) (separator : Char) (texts : List CodeText) : Option Item :=
  if texts.isEmpty then none
  else some ⟨name, some (List.intercalate (Text.codes [separator]) texts)⟩

/-- Whether an attribute is given for the id. -/
def isId (given : Attribute) : Bool := given.name == "id".toList

/-- Whether an attribute is given for the class. -/
def isClass (given : Attribute) : Bool := given.name == "class".toList

/-- Whether an attribute is given for neither. -/
def isOther (given : Attribute) : Bool :=
  given.name != "id".toList && given.name != "class".toList

/-- The item of the id: the shorthand, then the values given. -/
def idItem? (order : SetOrder) (id : Option Text) (assigned : List (Attribute × Outcome)) :
    Option Item :=
  joinedItem? "id".toList '_' ((id.filter (!·.isEmpty)).toList.map Text.codes ++
    assigned.flatMap fun x => x.2.idTexts order)

/-- The item of the class: the shorthands, then the values known before the run, then the others. -/
def classItem? (order : SetOrder) (classes : List Text) (assigned : List (Attribute × Outcome)) :
    Option Item :=
  joinedItem? "class".toList ' ' (classes.map Text.codes ++
    (assigned.flatMap fun x => x.2.knownClasses order) ++ assigned.flatMap fun x => x.2.runClasses)

/-- The items of attributes other than id and class. -/
def otherItems (options : Options) (assigned : List (Attribute × Outcome)) : List Item :=
  assigned.filterMap fun x => x.2.item? options x.1.name

/-- The items that shorthands and attributes stand for. -/
def expectedItems (options : Options) (id : Option Text) (classes : List Text)
    (assigned : List (Attribute × Outcome)) : List Item :=
  (idItem? options.setOrder id (assigned.filter fun x => x.1.isId)).toList ++
    (classItem? options.setOrder classes (assigned.filter fun x => x.1.isClass)).toList ++
    otherItems options (assigned.filter fun x => x.1.isOther)

/-- An attribute with a literal has its value before the run and takes none of it. -/
theorem assign_of_some {given : Attribute} {value : Value} (h : literal? given.value = some value)
    (values : Nat → RunTimeValue) (rest : List Attribute) :
    given.isDynamic = false ∧ assign values (given :: rest) =
      (given, .known value) :: assign values rest := by
  rw [isDynamic, assign, h]
  exact ⟨rfl, rfl⟩

/-- Any other attribute takes the next value of the run. -/
theorem assign_of_none {given : Attribute} (h : literal? given.value = none)
    (values : Nat → RunTimeValue) (rest : List Attribute) :
    given.isDynamic = true ∧ assign values (given :: rest) =
      (given, .run (values 0)) :: assign (valuesAfter 1 values) rest := by
  rw [isDynamic, assign, h]
  exact ⟨rfl, rfl⟩

/-- Each part of the attributes takes its values after those of the parts before it. -/
theorem assign_append (values : Nat → RunTimeValue) (a b : List Attribute) :
    assign values (a ++ b) =
      assign values a ++ assign (valuesAfter (a.countP isDynamic) values) b := by
  induction a generalizing values with
  | nil => rfl
  | cons given rest ih =>
    rw [List.cons_append, List.countP_cons]
    cases hread : literal? given.value with
    | some value =>
      rw [(assign_of_some hread values (rest ++ b)).2, (assign_of_some hread values rest).2,
        (assign_of_some hread values rest).1, if_neg Bool.false_ne_true, ih]
      rfl
    | none =>
      rw [(assign_of_none hread values (rest ++ b)).2, (assign_of_none hread values rest).2,
        (assign_of_none hread values rest).1, if_pos rfl, ih, valuesAfter_add, Nat.add_comm 1]
      rfl

/-- Values are assigned to the attributes that are given, and to no others. -/
theorem fst_of_mem_assign {values : Nat → RunTimeValue} {attributes : List Attribute}
    {x : Attribute × Outcome} (h : x ∈ assign values attributes) : x.1 ∈ attributes := by
  induction attributes generalizing values with
  | nil => cases h
  | cons given rest ih =>
    cases hread : literal? given.value with
    | some value =>
      rw [(assign_of_some hread values rest).2] at h
      obtain rfl | h := List.mem_cons.mp h
      · exact List.mem_cons_self
      · exact List.mem_cons_of_mem _ (ih h)
    | none =>
      rw [(assign_of_none hread values rest).2] at h
      obtain rfl | h := List.mem_cons.mp h
      · exact List.mem_cons_self
      · exact List.mem_cons_of_mem _ (ih h)

end Attribute

end Haml
