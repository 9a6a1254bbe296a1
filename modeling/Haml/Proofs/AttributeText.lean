import Haml.Proofs.AttributeItem

/-!
# The text of attributes

The fragments of the attributes of an element give, with whatever values at run time, the text of
the items that shorthands and attributes stand for. The id and the class join several values: what
is known before the run and what is not are parts of one quoted value, with separators between
them. The one obstacle is a known integer that has too many digits to be written.
-/

namespace Haml

open Literal (Fault SetOrder Value)

namespace Attribute

/-- Fragments that give texts, escaped and with a separator between them. -/
structure Joins (separator : Char) (values : Nat → RunTimeValue) (fragments : List Fragment)
    (texts : List CodeText) : Prop where
  /-- There are no fragments exactly if there are no texts. -/
  isEmpty : fragments.isEmpty = texts.isEmpty
  /-- They output the texts. -/
  output : Fragment.output values fragments =
    Html.escapeCodes (List.intercalate (Text.codes [separator]) texts)

section Joined

variable {separator : Char} {values : Nat → RunTimeValue} {parts next : List Fragment}
  {texts : List CodeText}

/-- One more text is added with a separator unless it is the first. -/
theorem Joins.concat (h : Joins separator values parts texts)
    (hseparator : Html.entity separator = [separator]) {f : Fragment} {t : CodeText}
    (hf : f.shown (values (parts.countP Fragment.isCode)) = Html.escapeCodes t) :
    Joins separator values
      ((if parts.isEmpty then parts else parts ++ [.text [separator]]) ++ [f]) (texts ++ [t]) := by
  have hcat {α : Type} (l : List α) (x : α) : (l ++ [x]).isEmpty = false := by simp
  refine ⟨(hcat _ _).trans (hcat _ _).symm, ?_⟩
  have hsign : Html.escapeCodes (Text.codes [separator]) = Text.codes [separator] := by
    simp [Html.escapeCodes, Text.codes, Html.codeEntity, hseparator]
  rw [Text.intercalate_concat, Html.escapeCodes_append, Html.escapeCodes_append, ← h.output,
    ← h.isEmpty, ← hf]
  cases hparts : parts.isEmpty with
  | true =>
    rw [if_pos rfl, if_pos rfl, Fragment.output_append]
    simp [Fragment.output, valuesAfter, Html.escapeCodes]
  | false =>
    rw [if_neg Bool.false_ne_true, if_neg Bool.false_ne_true, Fragment.output_append,
      Fragment.output_append, hsign]
    simp [Fragment.output, Fragment.shown, Fragment.text, Fragment.isCode, valuesAfter]

/-- What is read without a fault is the literal, if there is one. -/
theorem literal?_of_read {value : Text} {read : Option Value} (h : Literal.read value = .ok read) :
    literal? value = read := by
  rw [literal?, h]
  rfl

/-- A value that can be written is written as it is displayed. -/
theorem eq_display_of_shown {order : SetOrder} {value : Value} {t : CodeText}
    (h : Literal.shown order value = .ok t) : t = value.display order := by
  rw [Literal.shown] at h
  split at h
  · exact (Except.ok.inj h).symm
  · cases h

/-- One more part of an id: an expression, a literal that is not false, or nothing, with an
underscore before it unless it is the first. -/
theorem addIdPart_eq_ok {order : SetOrder} {value : Text}
    (h : addIdPart order parts value = .ok next) :
    next = (literal? value).elim
      ((if parts.isEmpty then parts else parts ++ [.text ['_']]) ++ [.escaped value])
      fun literal =>
        if literal.truthy then (if parts.isEmpty then parts else parts ++ [.text ['_']]) ++
          [.literal (Html.escapeCodes (literal.display order))]
        else parts := by
  obtain ⟨read, hread, hnext⟩ := bind_eq_ok_iff.mp h
  rw [literal?_of_read hread]
  cases read with
  | none => exact (Except.ok.inj hnext).symm
  | some literal =>
    dsimp only [Option.elim] at hnext ⊢
    split at hnext
    · rename_i htrue
      obtain ⟨t, hshown, heq⟩ := bind_eq_ok_iff.mp hnext
      rw [if_pos htrue, ← eq_display_of_shown hshown]
      exact (Except.ok.inj heq).symm
    · rename_i hfalse
      rw [if_neg hfalse]
      exact (Except.ok.inj hnext).symm

/-- Values that can all be written are written as they are displayed. -/
theorem mapM_shown {order : SetOrder} {list : List Value} {results : List CodeText}
    (h : list.mapM (Literal.shown order) = .ok results) :
    results = list.map (Value.display order) := by
  induction list generalizing results with
  | nil => exact (Except.ok.inj h).symm
  | cons value list ih =>
    rw [List.mapM_cons] at h
    obtain ⟨first, hfirst, hmore⟩ := bind_eq_ok_iff.mp h
    obtain ⟨rest, hrest, heq⟩ := bind_eq_ok_iff.mp hmore
    obtain rfl := Except.ok.inj heq
    rw [eq_display_of_shown hfirst, ih hrest, List.map_cons]

/-- The classes of a literal are its parts that are not false, as they are displayed. -/
theorem classTexts_eq_ok {order : SetOrder} {value : Value}
    (h : classTexts order value = .ok texts) :
    texts = (classParts value).map (Value.display order) := by
  have hsingle {value : Value} (h : (if value.truthy then do return [← Literal.shown order value]
      else .ok [] : Except Fault (List CodeText)) = .ok texts) :
      texts = ([value].filter Value.truthy).map (Value.display order) := by
    split at h
    · rename_i htrue
      obtain ⟨t, hshown, heq⟩ := bind_eq_ok_iff.mp h
      rw [List.filter_cons_of_pos htrue, List.filter_nil, List.map_singleton,
        ← eq_display_of_shown hshown]
      exact (Except.ok.inj heq).symm
    · rename_i hfalse
      rw [List.filter_cons_of_neg hfalse]
      exact (Except.ok.inj h).symm
  cases value with
  | list items => exact mapM_shown h
  | tuple items => exact mapM_shown h
  | _ =>
    simp only [classTexts] at h
    exact hsingle h

/-- One more class value: the parts of a literal join the known classes, an expression those of the
run. -/
theorem addClass_eq_ok {order : SetOrder} {classes result : ClassValues} {value : Text}
    (h : ClassValues.add order classes value = .ok result) :
    result = (literal? value).elim { classes with dynamic := classes.dynamic ++ [value] }
      fun literal =>
        { classes with
          static := classes.static ++ (classParts literal).map (Value.display order) } := by
  obtain ⟨read, hread, hresult⟩ := bind_eq_ok_iff.mp h
  rw [literal?_of_read hread]
  cases read with
  | none => exact (Except.ok.inj hresult).symm
  | some literal =>
    obtain ⟨texts, htexts, heq⟩ := bind_eq_ok_iff.mp hresult
    rw [Option.elim_some, ← classTexts_eq_ok htexts]
    exact (Except.ok.inj heq).symm

/-- The expressions of the attributes whose values are left to the run. -/
def expressions (attributes : List Attribute) : List Fragment :=
  (attributes.filter isDynamic).map fun given => .escaped given.value

/-- The expressions of attributes are found part by part. -/
theorem expressions_append (a b : List Attribute) :
    expressions (a ++ b) = expressions a ++ expressions b := by
  rw [expressions, List.filter_append, List.map_append]
  rfl

/-- Fragments with the expressions of some attributes have one piece of code for each attribute that
is left to the run. -/
theorem countP_isCode {fragments : List Fragment} {attributes : List Attribute}
    (h : fragments.filter Fragment.isCode = expressions attributes) :
    fragments.countP Fragment.isCode = attributes.countP isDynamic := by
  rw [List.countP_eq_length_filter, h, expressions, List.length_map, List.countP_eq_length_filter]

/-- A value given for the id adds its text and its expression, if it has them. -/
theorem Joins.addIdPart {order : SetOrder} {given : Attribute}
    (h : addIdPart order parts given.value = .ok next)
    (hjoins : Joins '_' values parts texts) :
    Joins '_' values next (texts ++ (assign (valuesAfter (parts.countP Fragment.isCode) values)
        [given]).flatMap fun x => x.2.idTexts order) ∧
      next.filter Fragment.isCode = parts.filter Fragment.isCode ++ expressions [given] := by
  have hnext := addIdPart_eq_ok h
  cases hread : literal? given.value with
  | none =>
    obtain ⟨hdynamic, hassign⟩ := assign_of_none hread
      (valuesAfter (parts.countP Fragment.isCode) values) []
    rw [hread, Option.elim_none] at hnext
    have hmore := hjoins.concat rfl (f := .escaped given.value) (RunTimeValue.escaped_eq _)
    rw [← hnext] at hmore
    rw [hassign, expressions, List.filter_cons_of_pos hdynamic]
    refine ⟨?_, ?_⟩
    · simpa [assign, Outcome.idTexts, valuesAfter] using hmore
    · rw [hnext]
      split <;> simp [Fragment.text, Fragment.isCode]
  | some literal =>
    obtain ⟨hdynamic, hassign⟩ := assign_of_some hread
      (valuesAfter (parts.countP Fragment.isCode) values) []
    rw [hread, Option.elim_some] at hnext
    rw [hassign, expressions, List.filter_cons_of_neg (by simp [hdynamic])]
    split at hnext
    · rename_i htrue
      have hmore := hjoins.concat rfl (f := .literal (Html.escapeCodes (literal.display order)))
        rfl
      rw [← hnext] at hmore
      refine ⟨?_, ?_⟩
      · simpa [assign, Outcome.idTexts, htrue] using hmore
      · rw [hnext]
        split <;> simp [Fragment.text, Fragment.isCode]
    · rename_i hfalse
      obtain rfl : next = parts := hnext
      refine ⟨?_, (List.append_nil _).symm⟩
      simpa [assign, Outcome.idTexts, hfalse] using hjoins

/-- The loop over the values of the id joins their texts. -/
theorem Joins.foldlM_addIdPart {order : SetOrder} {attributes : List Attribute}
    (h : (attributes.map (·.value)).foldlM (Attribute.addIdPart order) parts = .ok next)
    (hjoins : Joins '_' values parts texts) :
    Joins '_' values next (texts ++ (assign (valuesAfter (parts.countP Fragment.isCode) values)
        attributes).flatMap fun x => x.2.idTexts order) ∧
      next.filter Fragment.isCode = parts.filter Fragment.isCode ++ expressions attributes := by
  induction attributes generalizing parts texts with
  | nil =>
    obtain rfl : parts = next := Except.ok.inj h
    refine ⟨?_, (List.append_nil _).symm⟩
    rw [assign, List.flatMap_nil, List.append_nil]
    exact hjoins
  | cons given rest ih =>
    rw [List.map_cons, List.foldlM_cons] at h
    obtain ⟨middle, hmiddle, hrest⟩ := bind_eq_ok_iff.mp h
    obtain ⟨hmid, hfilter⟩ := hjoins.addIdPart hmiddle
    obtain ⟨hnext, hcode⟩ := ih hrest hmid
    have hcount : middle.countP Fragment.isCode =
        parts.countP Fragment.isCode + [given].countP isDynamic := by
      rw [List.countP_eq_length_filter, hfilter, List.length_append, expressions, List.length_map,
        ← List.countP_eq_length_filter, ← List.countP_eq_length_filter]
    have hsplit : given :: rest = [given] ++ rest := rfl
    rw [hsplit, assign_append, List.flatMap_append, expressions_append, valuesAfter_add, ← hcount,
      ← List.append_assoc, ← List.append_assoc, ← hfilter]
    exact ⟨hnext, hcode⟩

end Joined

/-- All class values: known classes and expressions are collected apart, each in the order of the
attributes. -/
theorem foldlM_addClass {order : SetOrder} {attributes : List Attribute}
    {classes result : ClassValues}
    (h : (attributes.map (·.value)).foldlM (ClassValues.add order) classes = .ok result)
    (values : Nat → RunTimeValue) :
    result.static = classes.static ++
        ((assign values attributes).flatMap fun x => x.2.knownClasses order) ∧
      result.dynamic = classes.dynamic ++ (attributes.filter isDynamic).map (·.value) := by
  induction attributes generalizing classes values with
  | nil =>
    obtain rfl : classes = result := Except.ok.inj h
    exact ⟨(List.append_nil _).symm, (List.append_nil _).symm⟩
  | cons given rest ih =>
    rw [List.map_cons, List.foldlM_cons] at h
    obtain ⟨middle, hmiddle, hrest⟩ := bind_eq_ok_iff.mp h
    have hstep := addClass_eq_ok hmiddle
    cases hread : literal? given.value with
    | none =>
      obtain ⟨hdynamic, hassign⟩ := assign_of_none hread values rest
      obtain ⟨hstatic, hexpressions⟩ := ih hrest (valuesAfter 1 values)
      rw [hread, Option.elim_none] at hstep
      rw [hassign, hstatic, hexpressions, hstep, List.filter_cons_of_pos hdynamic]
      simp [Outcome.knownClasses]
    | some literal =>
      obtain ⟨hdynamic, hassign⟩ := assign_of_some hread values rest
      obtain ⟨hstatic, hexpressions⟩ := ih hrest values
      rw [hread, Option.elim_some] at hstep
      rw [hassign, hstatic, hexpressions, hstep, List.filter_cons_of_neg (by simp [hdynamic])]
      simp [Outcome.knownClasses]

/-- The values of the run continue the texts known before it. -/
theorem output_dynamicClass (texts : List CodeText) (attributes : List Attribute)
    (values : Nat → RunTimeValue) :
    Html.escapeCodes (List.intercalate (Text.codes [' ']) texts) ++ Fragment.output values
        (dynamicClass (!texts.isEmpty) ((attributes.filter isDynamic).map (·.value))) =
      Html.escapeCodes (List.intercalate (Text.codes [' ']) (texts ++
        (assign values attributes).flatMap fun x => x.2.runClasses)) := by
  induction attributes generalizing texts values with
  | nil => simp [assign, dynamicClass]
  | cons given rest ih =>
    cases hread : literal? given.value with
    | some literal =>
      obtain ⟨hdynamic, hassign⟩ := assign_of_some hread values rest
      rw [hassign, List.filter_cons_of_neg (by simp [hdynamic])]
      exact ih texts values
    | none =>
      obtain ⟨hdynamic, hassign⟩ := assign_of_none hread values rest
      have hmore := ih (texts ++ [(values 0).visible]) (valuesAfter 1 values)
      have hspaced : (!(texts ++ [(values 0).visible]).isEmpty) = true := by simp
      have hblank : Html.escapeCodes (Text.codes [' ']) = Text.codes [' '] := rfl
      rw [hspaced, Text.intercalate_concat, Html.escapeCodes_append, Html.escapeCodes_append,
        ← RunTimeValue.escaped_eq] at hmore
      rw [hassign, List.filter_cons_of_pos hdynamic, List.map_cons, dynamicClass,
        List.flatMap_cons, ← List.append_assoc texts]
      refine Eq.trans ?_ hmore
      cases htexts : texts.isEmpty with
      | true => simp [Html.escapeCodes, Fragment.output_escaped_cons]
      | false => simp [hblank, Fragment.output_escaped_cons]

/-- The run gives one class for each class attribute that is left to it. -/
theorem length_runClasses (attributes : List Attribute) (values : Nat → RunTimeValue) :
    ((assign values attributes).flatMap fun x => x.2.runClasses).length =
      (attributes.filter isDynamic).length := by
  induction attributes generalizing values with
  | nil => rfl
  | cons given rest ih =>
    cases hread : literal? given.value with
    | some literal =>
      obtain ⟨hdynamic, hassign⟩ := assign_of_some hread values rest
      rw [hassign, List.filter_cons_of_neg (by simp [hdynamic]), ← ih values]
      rfl
    | none =>
      obtain ⟨hdynamic, hassign⟩ := assign_of_none hread values rest
      rw [hassign, List.filter_cons_of_pos hdynamic, List.length_cons,
        ← ih (valuesAfter 1 values)]
      rfl

/-- The code for the classes of the run is their expressions. -/
theorem filter_dynamicClass (spaced : Bool) (expressions : List Text) :
    (dynamicClass spaced expressions).filter Fragment.isCode = expressions.map .escaped := by
  induction expressions generalizing spaced with
  | nil => rfl
  | cons x rest ih =>
    rw [dynamicClass, List.filter_append, List.filter_cons_of_pos rfl, ih]
    cases spaced <;> rfl

/-- Nothing in the name of an attribute is escaped. -/
theorem escapeCodes_name {name : Text} (h : ∀ c ∈ name, isHtmlNameChar c = true) :
    Html.escapeCodes (Text.codes name) = Text.codes name := by
  have hentity : ∀ c ∈ name, Html.entity c = [c] := by
    intro c hc
    have hother {d : Char} (hd : isHtmlNameChar d = false) : (c == d) = false := by
      rw [beq_eq_false_iff_ne]
      rintro rfl
      rw [h c hc] at hd
      cases hd
    simp [Html.entity, hother (d := '&') (by decide), hother (d := '<') (by decide),
      hother (d := '>') (by decide), hother (d := '"') (by decide)]
  rw [Html.escapeCodes_codes, Html.escape_eq_flatMap, List.flatMap_congr hentity]
  simp

/-- The text of items with their values escaped. -/
def writtenItems (items : List Item) : CodeText := items.flatMap fun item => item.escaped.text

/-- Items are written one after the other. -/
theorem writtenItems_append (a b : List Item) :
    writtenItems (a ++ b) = writtenItems a ++ writtenItems b := List.flatMap_append

/-- The other attributes stand for their items part by part. -/
theorem otherItems_append (options : Options) (a b : List (Attribute × Outcome)) :
    otherItems options (a ++ b) = otherItems options a ++ otherItems options b :=
  List.filterMap_append

/-- One item is written escaped. -/
theorem writtenItems_singleton (item : Item) : writtenItems [item] = item.escaped.text :=
  List.flatMap_singleton _ _

/-- Another attribute is written as its item. -/
theorem output_otherFragments {options : Options} {given : Attribute} {fragments : List Fragment}
    (hname : ∀ c ∈ given.name, isHtmlNameChar c = true)
    (h : otherFragments options given = .ok fragments) (values : Nat → RunTimeValue) :
    fragments.filter Fragment.isCode = expressions [given] ∧
      Fragment.output values fragments =
        writtenItems (otherItems options (assign values [given])) := by
  obtain ⟨read, hread, hfragments⟩ := bind_eq_ok_iff.mp h
  replace hread := literal?_of_read hread
  cases read with
  | none =>
    obtain ⟨hdynamic, hassign⟩ := assign_of_none hread values []
    obtain rfl := Except.ok.inj hfragments
    rw [hassign, expressions, List.filter_cons_of_pos hdynamic]
    refine ⟨rfl, Eq.trans ?_ (writtenItems_singleton _).symm⟩
    rw [Item.text_escaped_some, ← RunTimeValue.escaped_eq]
    simp [Fragment.output_escaped_cons]
  | some literal =>
    obtain ⟨hdynamic, hassign⟩ := assign_of_some hread values []
    rw [hassign, expressions, List.filter_cons_of_neg (by simp [hdynamic])]
    cases literal with
    | bool flag =>
      cases flag with
      | false =>
        obtain rfl := Except.ok.inj hfragments
        exact ⟨rfl, rfl⟩
      | true =>
        dsimp only at hfragments
        split at hfragments
        · rename_i hformat
          obtain rfl := Except.ok.inj hfragments
          refine ⟨rfl, Eq.trans ?_ (writtenItems_singleton _).symm⟩
          rw [if_pos hformat, Item.text_escaped_some, escapeCodes_name hname]
          simp [Text.codes]
        · rename_i hformat
          obtain rfl := Except.ok.inj hfragments
          refine ⟨rfl, Eq.trans ?_ (writtenItems_singleton _).symm⟩
          rw [if_neg hformat, Item.text_escaped_none]
          simp
    | none =>
      obtain rfl := Except.ok.inj hfragments
      exact ⟨rfl, rfl⟩
    | _ =>
      obtain ⟨t, hshown, heq⟩ := bind_eq_ok_iff.mp hfragments
      obtain rfl := Except.ok.inj heq
      refine ⟨rfl, Eq.trans ?_ (writtenItems_singleton _).symm⟩
      rw [Item.text_escaped_some, ← eq_display_of_shown hshown]
      simp

/-- The other attributes are written as their items, in order. -/
theorem output_mapM_otherFragments {options : Options} {attributes : List Attribute}
    {results : List (List Fragment)}
    (hnames : ∀ given ∈ attributes, ∀ c ∈ given.name, isHtmlNameChar c = true)
    (h : attributes.mapM (otherFragments options) = .ok results) (values : Nat → RunTimeValue) :
    results.flatten.filter Fragment.isCode = expressions attributes ∧
      Fragment.output values results.flatten =
        writtenItems (otherItems options (assign values attributes)) := by
  induction attributes generalizing results values with
  | nil =>
    obtain rfl : [] = results := Except.ok.inj h
    exact ⟨rfl, rfl⟩
  | cons given rest ih =>
    rw [List.mapM_cons] at h
    obtain ⟨first, hfirst, hmore⟩ := bind_eq_ok_iff.mp h
    obtain ⟨more, hrest, heq⟩ := bind_eq_ok_iff.mp hmore
    obtain rfl := Except.ok.inj heq
    obtain ⟨hname, hnames⟩ := List.forall_mem_cons.mp hnames
    obtain ⟨hcode, hout⟩ := output_otherFragments hname hfirst values
    have hsplit : given :: rest = [given] ++ rest := rfl
    obtain ⟨hcodes, houts⟩ := ih hnames hrest (valuesAfter ([given].countP isDynamic) values)
    rw [List.flatten_cons, List.filter_append, hcode, hcodes, Fragment.output_append, hout,
      countP_isCode hcode, houts, hsplit, expressions_append, assign_append, otherItems_append,
      writtenItems_append]
    exact ⟨rfl, rfl⟩

/-- The id is written as its item. -/
theorem output_idFragments {order : SetOrder} {id : Option Text} {attributes : List Attribute}
    {fragments : List Fragment}
    (h : idFragments order id (attributes.map (·.value)) = .ok fragments)
    (values : Nat → RunTimeValue) :
    fragments.filter Fragment.isCode = expressions attributes ∧
      Fragment.output values fragments =
        writtenItems (idItem? order id (assign values attributes)).toList := by
  obtain ⟨parts, hparts, hend⟩ := bind_eq_ok_iff.mp h
  obtain ⟨start, hloop, hstart, hplain⟩ : ∃ start,
      (attributes.map (·.value)).foldlM (addIdPart order) start = .ok parts ∧
      Joins '_' values start ((id.filter (!·.isEmpty)).toList.map Text.codes) ∧
      start.filter Fragment.isCode = [] := by
    split at hparts
    · refine ⟨_, hparts, ⟨rfl, ?_⟩, rfl⟩
      rw [Fragment.output_text_cons, Fragment.output_nil, List.append_nil]
      exact (Html.escapeCodes_codes _).symm.trans
        (congrArg Html.escapeCodes List.intercalate_singleton.symm)
    · rename_i hid
      refine ⟨[], hparts, ?_, rfl⟩
      have hnone : id.filter (!·.isEmpty) = none := by
        cases id with
        | none => rfl
        | some name =>
          cases name with
          | nil => rfl
          | cons c rest => exact absurd rfl (hid c rest)
      rw [hnone]
      exact ⟨rfl, rfl⟩
  have hcount : start.countP Fragment.isCode = 0 := by
    rw [List.countP_eq_length_filter, hplain]
    rfl
  obtain ⟨hjoins, hcode⟩ := hstart.foldlM_addIdPart hloop
  rw [hplain, List.nil_append] at hcode
  rw [hcount, valuesAfter_zero] at hjoins
  rw [idItem?, joinedItem?, ← hjoins.isEmpty]
  split at hend
  · rename_i hempty
    obtain rfl := Except.ok.inj hend
    rw [List.isEmpty_iff.mp hempty] at hcode
    rw [if_pos hempty]
    exact ⟨hcode, rfl⟩
  · rename_i hempty
    obtain rfl := Except.ok.inj hend
    rw [if_neg hempty, Option.toList_some, writtenItems_singleton, Item.text_escaped_some]
    refine ⟨?_, ?_⟩
    · simp [hcode, Fragment.text, Fragment.isCode]
    · rw [List.cons_append, Fragment.output_text_cons, Fragment.output_append, hjoins.output,
        Fragment.output_text_cons, Fragment.output_nil, List.append_nil]
      rfl

/-- The class is written as its item. -/
theorem output_classFragments {order : SetOrder} {classes : List Text}
    {attributes : List Attribute} {fragments : List Fragment}
    (h : classFragments order classes (attributes.map (·.value)) = .ok fragments)
    (values : Nat → RunTimeValue) :
    fragments.filter Fragment.isCode = expressions attributes ∧
      Fragment.output values fragments =
        writtenItems (classItem? order classes (assign values attributes)).toList := by
  obtain ⟨result, hresult, hend⟩ := bind_eq_ok_iff.mp h
  obtain ⟨hstatic, hdynamic⟩ := foldlM_addClass hresult values
  rw [List.nil_append] at hdynamic
  have houtput := output_dynamicClass result.static attributes values
  have hcode : (dynamicClass (!result.static.isEmpty) result.dynamic).filter Fragment.isCode =
      expressions attributes := by
    rw [filter_dynamicClass, hdynamic, List.map_map]
    rfl
  have hlength := length_runClasses attributes values
  rw [← hdynamic] at houtput
  rw [classItem?, ← hstatic, joinedItem?]
  generalize ((assign values attributes).flatMap fun x => x.2.runClasses) = texts at *
  have hempty : (result.static ++ texts).isEmpty =
      (result.static.isEmpty && result.dynamic.isEmpty) := by
    rw [Bool.eq_iff_iff, Bool.and_eq_true, List.isEmpty_iff, List.isEmpty_iff, List.isEmpty_iff,
      List.append_eq_nil_iff, hdynamic, ← List.length_eq_zero_iff (l := texts), hlength,
      List.length_eq_zero_iff, List.map_eq_nil_iff]
  rw [hempty]
  split at hend
  · rename_i hnone
    obtain rfl := Except.ok.inj hend
    rw [List.isEmpty_iff.mp (Bool.and_eq_true_iff.mp hnone).2] at hcode
    rw [if_pos hnone]
    exact ⟨hcode, rfl⟩
  · rename_i hsome
    obtain rfl := Except.ok.inj hend
    rw [if_neg hsome, Option.toList_some, writtenItems_singleton, Item.text_escaped_some,
      ← houtput]
    refine ⟨?_, ?_⟩
    · simp [hcode, Fragment.text, Fragment.isCode]
    · rw [List.cons_append, Fragment.output_literal_cons, Fragment.output_append,
        Fragment.output_text_cons, Fragment.output_nil, List.append_nil]
      simp

/-- A choice that takes all attributes takes all values with them. -/
theorem filter_assign_of_forall {p : Attribute → Bool} {attributes : List Attribute}
    (h : ∀ given ∈ attributes, p given = true) (values : Nat → RunTimeValue) :
    (assign values attributes).filter (fun x => p x.1) = assign values attributes :=
  List.filter_eq_self.mpr fun x hx => h x.1 (fst_of_mem_assign hx)

/-- A choice that takes no attribute takes no value. -/
theorem filter_assign_of_none {p : Attribute → Bool} {attributes : List Attribute}
    (h : ∀ given ∈ attributes, p given = false) (values : Nat → RunTimeValue) :
    (assign values attributes).filter (fun x => p x.1) = [] :=
  List.filter_eq_nil_iff.mpr fun x hx => by
    rw [h x.1 (fst_of_mem_assign hx)]
    exact Bool.false_ne_true

/-- Attributes are written in the order of ids, classes, and all others. -/
theorem ordered_eq (attributes : List Attribute) : ordered attributes =
    attributes.filter isId ++ attributes.filter isClass ++ attributes.filter isOther := rfl

/-- Each kind of attribute takes its values after those of the kinds before it. -/
theorem filter_assign_ordered (attributes : List Attribute) (values : Nat → RunTimeValue) :
    (assign values (ordered attributes)).filter (fun x => x.1.isId) =
        assign values (attributes.filter isId) ∧
      (assign values (ordered attributes)).filter (fun x => x.1.isClass) =
        assign (valuesAfter ((attributes.filter isId).countP isDynamic) values)
          (attributes.filter isClass) ∧
      (assign values (ordered attributes)).filter (fun x => x.1.isOther) =
        assign (valuesAfter ((attributes.filter isId ++ attributes.filter isClass).countP isDynamic)
          values) (attributes.filter isOther) := by
  have hkept {p : Attribute → Bool} : ∀ given ∈ attributes.filter p, p given = true :=
    fun given hgiven => (List.mem_filter.mp hgiven).2
  have hid : ∀ given ∈ attributes.filter isId, given.isClass = false ∧ given.isOther = false := by
    intro given hgiven
    have hname : given.name = "id".toList := eq_of_beq (hkept (p := isId) given hgiven)
    rw [isClass, isOther, hname]
    exact ⟨rfl, rfl⟩
  have hclass : ∀ given ∈ attributes.filter isClass,
      given.isId = false ∧ given.isOther = false := by
    intro given hgiven
    have hname : given.name = "class".toList := eq_of_beq (hkept (p := isClass) given hgiven)
    rw [isId, isOther, hname]
    exact ⟨rfl, rfl⟩
  have hother : ∀ given ∈ attributes.filter isOther,
      given.isId = false ∧ given.isClass = false := by
    intro given hgiven
    have hnames := hkept given hgiven
    rw [isOther, Bool.and_eq_true, bne, bne, Bool.not_eq_true', Bool.not_eq_true'] at hnames
    exact hnames
  rw [ordered_eq, assign_append, assign_append]
  simp only [List.filter_append]
  refine ⟨?_, ?_, ?_⟩
  · rw [filter_assign_of_forall (p := isId) hkept,
      filter_assign_of_none (p := isId) fun given hgiven => (hclass given hgiven).1,
      filter_assign_of_none (p := isId) fun given hgiven => (hother given hgiven).1,
      List.append_nil, List.append_nil]
  · rw [filter_assign_of_none (p := isClass) fun given hgiven => (hid given hgiven).1,
      filter_assign_of_forall (p := isClass) hkept,
      filter_assign_of_none (p := isClass) fun given hgiven => (hother given hgiven).2,
      List.append_nil, List.nil_append]
  · rw [filter_assign_of_none (p := isOther) fun given hgiven => (hid given hgiven).2,
      filter_assign_of_none (p := isOther) fun given hgiven => (hclass given hgiven).2,
      filter_assign_of_forall (p := isOther) hkept, List.nil_append, List.nil_append]

/-- The fragments have the expressions left to the run, in the order in which attributes are
written, and give the text of the items that the attributes stand for. -/
theorem output_serialise {options : Options} {id : Option Text} {classes : List Text}
    {attributes : List Attribute} {fragments : List Fragment}
    (hnames : ∀ given ∈ attributes, ∀ c ∈ given.name, isHtmlNameChar c = true)
    (h : serialise options id classes attributes = .ok fragments) (values : Nat → RunTimeValue) :
    fragments.filter Fragment.isCode = expressions (ordered attributes) ∧
      Fragment.output values fragments = writtenItems
        (expectedItems options id classes (assign values (ordered attributes))) := by
  obtain ⟨idPart, hid, hmore⟩ := bind_eq_ok_iff.mp h
  obtain ⟨classPart, hclass, hmore⟩ := bind_eq_ok_iff.mp hmore
  obtain ⟨rest, hrest, heq⟩ := bind_eq_ok_iff.mp hmore
  obtain rfl := Except.ok.inj heq
  replace hid : idFragments options.setOrder id ((attributes.filter isId).map (·.value)) =
    .ok idPart := hid
  replace hclass : classFragments options.setOrder classes
    ((attributes.filter isClass).map (·.value)) = .ok classPart := hclass
  replace hrest : (attributes.filter isOther).mapM (otherFragments options) = .ok rest := hrest
  obtain ⟨hidCode, hidOut⟩ := output_idFragments hid values
  obtain ⟨hclassCode, hclassOut⟩ := output_classFragments hclass
    (valuesAfter ((attributes.filter isId).countP isDynamic) values)
  obtain ⟨hrestCode, hrestOut⟩ := output_mapM_otherFragments
    (fun given hgiven => hnames given (List.mem_filter.mp hgiven).1) hrest
    (valuesAfter ((attributes.filter isId ++ attributes.filter isClass).countP isDynamic) values)
  have hcode : (idPart ++ classPart).filter Fragment.isCode =
      expressions (attributes.filter isId ++ attributes.filter isClass) := by
    rw [List.filter_append, hidCode, hclassCode, expressions_append]
  obtain ⟨hids, hclasses, hothers⟩ := filter_assign_ordered attributes values
  refine ⟨?_, ?_⟩
  · rw [List.filter_append, hcode, hrestCode, ordered_eq, ← expressions_append]
  · rw [Fragment.output_append, Fragment.output_append, countP_isCode hidCode, countP_isCode hcode,
      hidOut, hclassOut, hrestOut, ← writtenItems_append, ← writtenItems_append, expectedItems,
      hids, hclasses, hothers]

/-- An item has the name of the id, of the class or of an attribute. -/
theorem name_of_mem_expectedItems {options : Options} {id : Option Text} {classes : List Text}
    {assigned : List (Attribute × Outcome)} {item : Item}
    (h : item ∈ expectedItems options id classes assigned) :
    item.name = "id".toList ∨ item.name = "class".toList ∨
      ∃ x ∈ assigned, item.name = x.1.name := by
  have hjoined {name : Text} {separator : Char} {texts : List CodeText}
      (h : item ∈ (joinedItem? name separator texts).toList) : item.name = name := by
    rw [joinedItem?] at h
    split at h
    · cases h
    · rw [List.mem_singleton.mp h]
  rw [expectedItems, List.mem_append, List.mem_append] at h
  obtain (hid | hclass) | hother := h
  · exact .inl (hjoined hid)
  · exact .inr (.inl (hjoined hclass))
  · obtain ⟨x, hx, hitem⟩ := List.mem_filterMap.mp hother
    refine .inr (.inr ⟨x, (List.mem_filter.mp hx).1, ?_⟩)
    rw [Outcome.item?.eq_def] at hitem
    split at hitem
    all_goals simp only [Option.some.injEq, reduceCtorEq] at hitem
    all_goals rw [← hitem]

/-- The items are clean once their values are escaped. -/
theorem clean_expectedItems (options : Options) (id : Option Text) (classes : List Text)
    (assigned : List (Attribute × Outcome))
    (hnames : ∀ x ∈ assigned, x.1.name ≠ [] ∧ ∀ c ∈ x.1.name, isHtmlNameChar c = true) :
    ∀ item ∈ (expectedItems options id classes assigned).map Item.escaped, item.Clean := by
  intro written hwritten
  obtain ⟨item, hitem, rfl⟩ := List.mem_map.mp hwritten
  have hname : item.name ≠ [] ∧ ∀ c ∈ item.name, isHtmlNameChar c = true := by
    obtain hname | hname | ⟨x, hx, hname⟩ := name_of_mem_expectedItems hitem
    all_goals rw [hname]
    · exact ⟨by decide, List.all_eq_true.mp (by decide)⟩
    · exact ⟨by decide, List.all_eq_true.mp (by decide)⟩
    · exact hnames x hx
  exact Item.clean_escaped hname.1 hname.2

/-- An attribute whose value, if it is known before the run, has no integer with too many digits in
the parts that are written. -/
def IsWritable (given : Attribute) : Prop :=
  ∀ value ∈ literal? given.value, ∀ part ∈ parts given.name value, part.isWritable = true

instance : DecidablePred IsWritable := fun given =>
  decidable_of_iff
    ((literal? given.value).all fun value => (parts given.name value).all Value.isWritable)
    (by simp [IsWritable, Option.all_eq_true])

/-- An attribute whose value can be evaluated fails only for such an integer. -/
theorem fault?_of_read {given : Attribute} {read : Option Value}
    (h : Literal.read given.value = .ok read) :
    (given.IsWritable ∧ given.fault? = none) ∨
      (¬given.IsWritable ∧ given.fault? = some .tooManyDigits) := by
  rw [IsWritable, literal?_of_read h, fault?, h]
  cases read with
  | none => exact .inl ⟨by simp, rfl⟩
  | some value =>
    simp only [Option.mem_def, Option.some.injEq, forall_eq']
    cases hfind : (parts given.name value).findSome? Literal.writeFault? with
    | none =>
      refine .inl ⟨fun part hpart => ?_, rfl⟩
      have hpart := List.findSome?_eq_none_iff.mp hfind part hpart
      simpa [Literal.writeFault?] using hpart
    | some fault =>
      obtain ⟨part, hpart, hfault⟩ := List.exists_of_findSome?_eq_some hfind
      rw [Literal.writeFault?] at hfault
      split at hfault
      · cases hfault
      · rename_i hno
        refine .inr ⟨fun hall => hno (hall part hpart), ?_⟩
        rw [Option.some.inj hfault]

/-- Attributes whose values can be evaluated fail exactly if one of them has an integer that cannot
be written. -/
theorem findSome?_fault? {attributes : List Attribute}
    (hread : ∀ given ∈ attributes, ∃ read, Literal.read given.value = .ok read) :
    ((∀ given ∈ attributes, given.IsWritable) ∧ attributes.findSome? fault? = none) ∨
      ((∃ given ∈ attributes, ¬given.IsWritable) ∧
        attributes.findSome? fault? = some .tooManyDigits) := by
  induction attributes with
  | nil => exact .inl ⟨by simp, rfl⟩
  | cons given rest ih =>
    obtain ⟨⟨read, hof⟩, hrest⟩ := List.forall_mem_cons.mp hread
    rw [List.findSome?_cons]
    obtain ⟨hyes, hnone⟩ | ⟨hno, hsome⟩ := fault?_of_read hof
    · rw [hnone]
      obtain ⟨hall, hfind⟩ | ⟨⟨other, hother, hno⟩, hfind⟩ := ih hrest
      · exact .inl ⟨List.forall_mem_cons.mpr ⟨hyes, hall⟩, hfind⟩
      · exact .inr ⟨⟨other, List.mem_cons_of_mem _ hother, hno⟩, hfind⟩
    · rw [hsome]
      exact .inr ⟨⟨given, List.mem_cons_self, hno⟩, rfl⟩

/-- Attributes whose values can be evaluated are written unless a known value has an integer with
too many digits. The fragments are then the expressions of the other values, in the order of
writing, with literal text between them. Whatever the run gives for these expressions, the text is
made of items without delimiters in their values, and of no other items; and with the entities
undone they are the items that shorthands, known values and values of the run stand for. A known
set is written as its elements, each of them once, in the order of the run. -/
theorem serialise_readBack (options : Options) (id : Option Text) (classes : List Text)
    {attributes : List Attribute}
    (hnames : ∀ given ∈ attributes,
      given.name ≠ [] ∧ ∀ c ∈ given.name, isHtmlNameChar c = true)
    (hread : ∀ given ∈ attributes, ∃ read, Literal.read given.value = .ok read) :
    ((∃ given ∈ attributes, ¬given.IsWritable) →
        serialise options id classes attributes = .error .tooManyDigits) ∧
      ((∀ given ∈ attributes, given.IsWritable) →
        ∃ fragments, serialise options id classes attributes = .ok fragments ∧
          fragments.filter Fragment.isCode = expressions (ordered attributes) ∧
          ∀ values : Nat → RunTimeValue, ∃ items : List Item,
            Fragment.output values fragments = items.flatMap Item.text ∧
            (∀ item ∈ items, item.Clean) ∧
            (∀ others : List Item, (∀ item ∈ others, item.Clean) →
              Fragment.output values fragments = others.flatMap Item.text → others = items) ∧
            items.map Item.unescaped =
              expectedItems options id classes (assign values (ordered attributes))) ∧
      ∀ elements : List Value, elements ≠ [] →
        ∃ shown, shown.Perm (Value.reprs options.setOrder elements) ∧
          (Value.set elements).display options.setOrder =
            Text.codes ('\x7b' :: Value.commas shown ++ ['\x7d']) := by
  rw [← and_assoc]
  refine ⟨?_, fun elements hne => Value.exists_display_set options.setOrder hne⟩
  have herror := errorOf?_serialise options id classes attributes
  obtain ⟨hall, hnone⟩ | ⟨⟨other, hother, hno⟩, hsome⟩ := findSome?_fault?
    fun given hgiven => hread given (mem_ordered.mp hgiven)
  · refine ⟨?_, fun _ => ?_⟩
    · rintro ⟨given, hgiven, hno⟩
      exact absurd (hall given (mem_ordered.mpr hgiven)) hno
    obtain ⟨fragments, hok⟩ := errorOf?_eq_none_iff.mp (herror.trans hnone)
    have hchars := fun given hgiven => (hnames given hgiven).2
    refine ⟨fragments, hok, (output_serialise hchars hok fun _ => ⟨true, []⟩).1, fun values => ?_⟩
    have hclean := clean_expectedItems options id classes (assign values (ordered attributes))
      fun x hx => hnames x.1 (mem_ordered.mp (fst_of_mem_assign hx))
    have htext := (output_serialise hchars hok values).2
    rw [writtenItems, ← List.flatMap_map] at htext
    refine ⟨_, htext, hclean, fun others hothers hsame => ?_, ?_⟩
    · exact items_unique hothers hclean (hsame.symm.trans htext)
    · rw [List.map_map]
      exact (List.map_congr_left fun item _ => item.unescaped_escaped).trans (List.map_id _)
  · refine ⟨fun _ => errorOf?_eq_some_iff.mp (herror.trans hsome), fun hwritable => ?_⟩
    exact absurd (hwritable other (mem_ordered.mp hother)) hno

/-- Attributes of all kinds, with values known before the run and values left to it. -/
def mixedAttributes : List Attribute :=
  [⟨"class".toList, "['a', '', 'b']".toList⟩, ⟨"id".toList, "item.id".toList⟩,
    ⟨"href".toList, "'?a&b=\"1\"'".toList⟩, ⟨"class".toList, "kind".toList⟩,
    ⟨"checked".toList, "True".toList⟩, ⟨"title".toList, "None".toList⟩,
    ⟨"data-n".toList, "count".toList⟩, ⟨"data-s".toList, "\x7b3, 1, 2\x7d".toList⟩,
    ⟨"data-m".toList, ('1' :: List.replicate 309 '0') ++ " + 1".toList⟩]

/-- Values of a run, the second of them missing. -/
def mixedValues : Nat → RunTimeValue
  | 0 => ⟨false, Text.codes "7".toList⟩
  | 1 => ⟨true, []⟩
  | _ => ⟨false, Text.codes "\"<1>\"".toList⟩

/-- The order in which the last element of a set is listed first. -/
def lastFirst : SetOrder :=
  ⟨fun items => (List.range items.length).reverse, fun _ => List.reverse_perm _⟩

/-- A hexadecimal literal whose value has more than 4300 decimal digits. -/
def longLiteral : Text := '0' :: 'x' :: List.replicate 3600 'f'

/-- A literal with too many digits is refused. Attributes of all kinds are read back with the values
of a run, in an order of sets of its own, and a sum of two real numbers is left to the run, however
large they are. -/
theorem serialise_readBack_mixed :
    serialise {} none [] [⟨['a'], longLiteral⟩] = .error .tooManyDigits ∧
      ∃ fragments, serialise { format := .xhtml, setOrder := lastFirst } (some "main".toList)
          ["box".toList] mixedAttributes = .ok fragments ∧
        fragments.filter Fragment.isCode =
          [.escaped "item.id".toList, .escaped "kind".toList, .escaped "count".toList,
            .escaped (('1' :: List.replicate 309 '0') ++ " + 1".toList)] ∧
        ∃ items : List Item, Fragment.output mixedValues fragments = items.flatMap Item.text ∧
          items.map Item.unescaped =
            [⟨"id".toList, some (Text.codes "main_7".toList)⟩,
              ⟨"class".toList, some (Text.codes "box a b ".toList)⟩,
              ⟨"href".toList, some (Text.codes "?a&b=\"1\"".toList)⟩,
              ⟨"checked".toList, some (Text.codes "checked".toList)⟩,
              ⟨"data-n".toList, some (Text.codes "\"<1>\"".toList)⟩,
              ⟨"data-s".toList, some (Text.codes "\x7b2, 1, 3\x7d".toList)⟩,
              ⟨"data-m".toList, some (Text.codes "\"<1>\"".toList)⟩] := by
  have hnames {attributes : List Attribute} (h : attributes.all (fun given =>
      !given.name.isEmpty && given.name.all isHtmlNameChar) = true) :
      ∀ given ∈ attributes, given.name ≠ [] ∧ ∀ c ∈ given.name, isHtmlNameChar c = true := by
    intro given hgiven
    have hname := List.all_eq_true.mp h given hgiven
    rw [Bool.and_eq_true, List.all_eq_true] at hname
    exact ⟨by simpa using hname.1, hname.2⟩
  have hread {attributes : List Attribute} (h : attributes.all (fun given =>
      (errorOf? (Literal.read given.value)).isNone) = true) :
      ∀ given ∈ attributes, ∃ read, Literal.read given.value = .ok read := fun given hgiven =>
    errorOf?_eq_none_iff.mp (Option.isNone_iff_eq_none.mp (List.all_eq_true.mp h given hgiven))
  have hwritable : mixedAttributes.all (fun given => decide given.IsWritable) = true := by
    decide +kernel
  refine ⟨(serialise_readBack {} none [] (hnames (by decide)) (hread (by decide +kernel))).1
    ⟨_, List.mem_singleton_self _, by decide +kernel⟩, ?_⟩
  obtain ⟨fragments, hok, hcode, hall⟩ := (serialise_readBack
    { format := .xhtml, setOrder := lastFirst } (some "main".toList) ["box".toList]
    (hnames (by decide)) (hread (by decide +kernel))).2.1
    fun given hgiven => of_decide_eq_true (List.all_eq_true.mp hwritable given hgiven)
  obtain ⟨items, htext, -, -, hitems⟩ := hall mixedValues
  exact ⟨fragments, hok, hcode.trans (by decide +kernel), items, htext,
    hitems.trans (by decide +kernel)⟩

end Attribute

end Haml
