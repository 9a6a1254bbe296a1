import Haml.Proofs.ElementLine
import Mathlib.Data.List.TakeWhile

/-!
# Values in the html form

In the html form a value is a string or a run of characters without blanks and quotes. A value of
another shape, such as a subscript with a quoted key or a call with blanks between its arguments, is
cut at its first blank or quote, and what follows the cut is read as further attributes. The hash
form keeps all these values whole.
-/

namespace Haml.Attribute

open Haml.Bracket

variable {mark : Char} {t value tail : Text} {given : Attribute} {all : List Attribute}

/-- The inside of a string: a backslash takes the next character along, which is no line feed. -/
inductive QuotedBody (mark : Char) : Text → Prop where
  | nil : QuotedBody mark []
  | char {c : Char} {rest : Text} (hmark : c ≠ mark) (hescape : c ≠ '\\')
      (hrest : QuotedBody mark rest) : QuotedBody mark (c :: rest)
  | escape {c : Char} {rest : Text} (hbreak : c ≠ '\n') (hrest : QuotedBody mark rest) :
      QuotedBody mark ('\\' :: c :: rest)

/-- A quoted value is the body of a string and its closing mark. -/
theorem exists_of_quotedValue? {cut : Cut} (h : quotedValue? mark t = some cut) :
    ∃ body, QuotedBody mark body ∧ cut.group = body ++ [mark] := by
  fun_induction quotedValue? mark t generalizing cut with
  | case1 => cases h
  | case2 => cases h
  | case3 c rest hbreak ih =>
    obtain ⟨inner, hinner, rfl⟩ := Option.map_eq_some_iff.mp h
    obtain ⟨body, hbody, hgroup⟩ := ih hinner
    exact ⟨'\\' :: c :: body, .escape (by simpa using hbreak) hbody, by simp [hgroup]⟩
  | case4 c rest hescape hmark =>
    obtain rfl := Option.some.inj h
    exact ⟨[], .nil, by simpa using hmark⟩
  | case5 => cases h
  | case6 c rest _ hmark hescape ih =>
    obtain ⟨inner, hinner, rfl⟩ := Option.map_eq_some_iff.mp h
    obtain ⟨body, hbody, hgroup⟩ := ih hinner
    exact ⟨c :: body, .char (by simpa using hmark) (by simpa using hescape) hbody, by simp [hgroup]⟩

/-- A quoted value ends with the first mark that is not escaped. -/
theorem quotedValue?_append_mark (hmark : mark ≠ '\\') {body : Text} (h : QuotedBody mark body)
    (rest : Text) : quotedValue? mark (body ++ mark :: rest) = some ⟨body ++ [mark], rest⟩ := by
  induction h with
  | nil =>
    rw [List.nil_append, quotedValue?]
    · simp
    · rintro _ _ rfl
      exact absurd rfl hmark
  | @char c more hne hescape _ ih =>
    rw [List.cons_append, quotedValue?]
    · simp [hne, hescape, ih]
    · rintro _ _ rfl
      exact absurd rfl hescape
  | escape hbreak _ ih =>
    rw [List.cons_append, List.cons_append, quotedValue?]
    simp [hbreak, ih]

/-- Within the inside of a string the scan does not leave the string. -/
theorem quoting_of_quotedBody {body p : Text} (h : QuotedBody mark body) (hp : p <+: body)
    (depth : Int) : (Scan.run ⟨depth, .inside mark⟩ p).quoting ≠ .outside := by
  induction h generalizing p with
  | nil =>
    rw [List.prefix_nil.mp hp]
    exact Quoting.noConfusion
  | @char c more hne hescape _ ih =>
    cases p with
    | nil => exact Quoting.noConfusion
    | cons d p =>
      obtain ⟨rfl, hmore⟩ := List.cons_prefix_cons.mp hp
      have hstep : Scan.step ⟨depth, .inside mark⟩ d = ⟨depth, .inside mark⟩ := by
        simp [Scan.step, hne, hescape]
      rw [Scan.run_cons, hstep]
      exact ih hmore
  | escape hbreak _ ih =>
    cases p with
    | nil => exact Quoting.noConfusion
    | cons d p =>
      obtain ⟨rfl, hmore⟩ := List.cons_prefix_cons.mp hp
      cases p with
      | nil => exact Quoting.noConfusion
      | cons e p => exact ih (p := p) (List.cons_prefix_cons.mp hmore).2

/-- A value that the html form can express: a run of characters that are neither blanks nor quotes,
or one string. -/
def IsHtmlValue (value : Text) : Prop :=
  (value ≠ [] ∧ ∀ c ∈ value, isHtmlValueChar c = true) ∨
    ∃ mark body, isQuote mark = true ∧ QuotedBody mark body ∧ value = mark :: body ++ [mark]

/-- What is read as a value is one. -/
theorem isHtmlValue_of_htmlValue? {cut : Cut} (h : htmlValue? t = some cut) :
    IsHtmlValue cut.group := by
  unfold htmlValue? at h
  split at h
  · cases h
  · rename_i c rest
    split at h
    · rename_i hquote
      obtain ⟨inner, hinner, rfl⟩ := Option.map_eq_some_iff.mp h
      obtain ⟨body, hbody, hgroup⟩ := exists_of_quotedValue? hinner
      exact .inr ⟨c, body, hquote, hbody, by simp [hgroup]⟩
    · split at h
      · rename_i hchar
        obtain rfl := Option.some.inj h
        refine .inl ⟨?_, fun d hd => List.mem_takeWhile_imp hd⟩
        simp [hchar]
      · cases h

/-- Such a value is read up to its end. -/
theorem htmlValue?_append_tail (h : IsHtmlValue value)
    (htail : ∀ c ∈ tail.head?, isHtmlValueChar c = false) :
    htmlValue? (value ++ tail) = some ⟨value, tail⟩ := by
  obtain ⟨hne, hchars⟩ | ⟨mark, body, hquote, hbody, rfl⟩ := h
  · obtain ⟨htake, hdrop⟩ := Text.span_append hchars htail
    cases value with
    | nil => exact absurd rfl hne
    | cons c value =>
      have hc := hchars c List.mem_cons_self
      have hquote : ¬isQuote c = true := by
        rw [isHtmlValueChar, Bool.and_eq_true] at hc
        simpa using hc.2
      rw [List.cons_append, htmlValue?, if_neg hquote, if_pos hc, ← List.cons_append, htake, hdrop]
  · have hmark : mark ≠ '\\' := by
      rintro rfl
      cases hquote
    rw [List.append_assoc, List.singleton_append, List.cons_append, htmlValue?, if_pos hquote,
      quotedValue?_append_mark hmark hbody]
    rfl

/-- A text is read as a value as a whole exactly if it is one. -/
theorem htmlValue?_eq_self_iff : htmlValue? value = some ⟨value, []⟩ ↔ IsHtmlValue value := by
  refine ⟨isHtmlValue_of_htmlValue?, fun h => ?_⟩
  have hwhole : htmlValue? (value ++ []) = some ⟨value, []⟩ := htmlValue?_append_tail h (by simp)
  rwa [List.append_nil] at hwhole

instance (value : Text) : Decidable (IsHtmlValue value) :=
  decidable_of_iff (htmlValue? value = some ⟨value, []⟩) htmlValue?_eq_self_iff

/-- A value of another shape is cut short, if anything of it is read at all. A reading beyond the
value would be of one shape, and so would be the value. -/
theorem htmlValue?_cut (hvalue : ¬IsHtmlValue value) (hne : value ≠ [])
    (hends : (Scan.start.run value).quoting = .outside) {cut : Cut}
    (h : htmlValue? (value ++ tail) = some cut) : cut.group <+: value ∧ cut.group ≠ value := by
  have hdiffers : cut.group ≠ value := fun heq => hvalue (heq ▸ isHtmlValue_of_htmlValue? h)
  have hwhole : cut.group <+: value ++ tail := ⟨cut.rest, htmlValue?_append h⟩
  refine ⟨?_, hdiffers⟩
  obtain hshort | hlong := List.prefix_or_prefix_of_prefix hwhole (List.prefix_append value tail)
  · exact hshort
  · exfalso
    obtain ⟨-, hchars⟩ | ⟨mark, body, hquote, hbody, hgroup⟩ := isHtmlValue_of_htmlValue? h
    · exact hvalue (.inl ⟨hne, fun c hc => hchars c (hlong.subset hc)⟩)
    · cases value with
      | nil => exact hne rfl
      | cons c value =>
        rw [hgroup, List.cons_append, List.cons_prefix_cons] at hlong
        obtain ⟨rfl, hlong⟩ := hlong
        obtain hinside | heq := List.prefix_concat_iff.mp hlong |>.symm
        · have hopen : Scan.start.step c = ⟨0, .inside c⟩ := by
            simp [Scan.start, Scan.step, hquote]
          rw [Scan.run_cons, hopen] at hends
          exact quoting_of_quotedBody hbody hinside 0 hends
        · exact hvalue (.inr ⟨c, body, hquote, hbody, by rw [heq, List.cons_append]⟩)

/-- An attribute as an item of a list in html form. -/
def writtenItem (given : Attribute) : Text := given.name ++ '=' :: given.value

/-- A list in html form. -/
def writtenHtmlList (all : List Attribute) : Text :=
  '(' :: List.intercalate [' '] (all.map writtenItem) ++ [')']

/-- An attribute with a name of the html form, whose value closes its brackets and strings and has
no blank outside of them. -/
structure IsItem (given : Attribute) : Prop where
  /-- There is a name. -/
  named : given.name ≠ []
  /-- It has only characters of names. -/
  name : ∀ c ∈ given.name, isHtmlNameChar c = true
  /-- There is a value. -/
  valued : given.value ≠ []
  /-- It closes its brackets and strings. -/
  balanced : Balanced given.value
  /-- It has no blank outside of them. -/
  unspaced : ∀ x ∈ shown .start given.value, Text.isBlank x.1 = true → x.2 ≠ 0

instance (given : Attribute) : Decidable given.IsItem :=
  decidable_of_iff
    (given.name ≠ [] ∧ given.name.all isHtmlNameChar = true ∧ given.value ≠ [] ∧
      Balanced given.value ∧
      (shown .start given.value).all (fun x => !Text.isBlank x.1 || x.2 != 0) = true)
    ⟨fun h => ⟨h.1, by simpa using h.2.1, h.2.2.1, h.2.2.2.1, fun x hx hblank => by
        simpa [hblank] using List.all_eq_true.mp h.2.2.2.2 x hx⟩,
      fun h => ⟨h.named, by simpa using h.name, h.valued, h.balanced,
        List.all_eq_true.mpr fun x hx => by
          cases hblank : Text.isBlank x.1 with
          | false => rfl
          | true => simpa using h.unspaced x hx hblank⟩⟩

/-- No blank of the value is outside of brackets and strings. -/
theorem IsItem.not_isBlank (h : given.IsItem) {a b : Text} {c : Char}
    (hvalue : given.value = a ++ c :: b) (houtside : Scan.start.run a = .start) :
    Text.isBlank c = false := by
  rw [← Bool.not_eq_true]
  intro hblank
  obtain ⟨hshows, hstep⟩ := step_blank hblank (s := .start) rfl
  refine h.unspaced (c, 0) ?_ hblank rfl
  rw [hvalue, shown_append, houtside, shown, if_pos hshows, hstep]
  exact List.mem_append_right _ List.mem_cons_self

/-- The value of an item has no blanks around it. -/
theorem IsItem.trimmed (h : given.IsItem) : Text.trim given.value = given.value := by
  refine Text.trim_eq_self (fun c hc => ?_) fun c hc => ?_
  · obtain ⟨rest, hvalue⟩ := List.head?_eq_some_iff.mp hc
    exact h.not_isBlank (a := []) hvalue rfl
  · obtain ⟨a, hvalue⟩ := List.getLast?_eq_some_iff.mp hc
    rw [← Bool.not_eq_true]
    intro hblank
    have hends : (Scan.start.run a).step c = .start := by
      have hrun := h.balanced.ends
      rwa [hvalue, Scan.run_append] at hrun
    have hstep := (step_blank hblank (outside_of_step_blank hblank (by rw [hends]; rfl))).2
    rw [hstep] at hends
    exact absurd hblank (by rw [h.not_isBlank hvalue hends]; exact Bool.false_ne_true)

/-- An item whose value has no comma outside of strings and brackets is plain. -/
theorem IsItem.isPlain (h : given.IsItem) (hcomma : (',', 0) ∉ shown .start given.value) :
    given.IsPlain := by
  refine ⟨h.named, fun c hc => ?_, h.trimmed, h.balanced, hcomma⟩
  have hchar := h.name c hc
  constructor <;> rintro rfl <;> exact absurd hchar (by decide)

/-- A space before an entry does not matter. -/
theorem htmlEntries_blank_cons (t : Text) : htmlEntries (' ' :: t) = htmlEntries t := by
  rw [htmlEntries, if_neg (by decide)]

/-- An item is read as its name with the value that is read after the sign. -/
theorem htmlEntries_item (h : given.IsItem) (tail : Text) :
    htmlEntries (given.writtenItem ++ tail) =
      match htmlValue? (given.value ++ tail) with
      | some cut => ⟨given.name, cut.group⟩ :: htmlEntries cut.rest
      | none => ⟨given.name, "True".toList⟩ :: htmlEntries ('=' :: given.value ++ tail) := by
  obtain ⟨name, value⟩ := given
  have hsign : ∀ c ∈ ('=' :: (value ++ tail)).head?, isHtmlNameChar c = false := by
    intro c hc
    obtain rfl := Option.some.inj hc
    decide
  have htrim : Text.trimLeft (value ++ tail) = value ++ tail := by
    cases value with
    | nil => exact absurd rfl h.valued
    | cons c value =>
      have hc := h.not_isBlank (a := []) rfl rfl
      exact List.dropWhile_cons_of_neg (by rw [hc]; exact Bool.false_ne_true)
  have hassigned : assigned? ('=' :: (value ++ tail)) = htmlValue? (value ++ tail) := by
    change htmlValue? (Text.trimLeft (value ++ tail)) = _
    rw [htrim]
  cases name with
  | nil => exact absurd rfl h.named
  | cons c name =>
    obtain ⟨htake, hdrop⟩ := Text.span_append
      (fun d hd => h.name d (List.mem_cons_of_mem _ hd)) hsign
    rw [writtenItem, List.append_assoc, List.cons_append, List.cons_append, htmlEntries,
      if_pos (h.name c List.mem_cons_self)]
    simp only [htake, hdrop]
    split
    · rename_i cut hcut
      rw [hdrop, hassigned] at hcut
      rw [hcut]
    · rename_i hcut
      rw [hdrop, hassigned] at hcut
      rw [hcut]

/-- An item with a value that can be read is read back before a space. -/
theorem htmlEntries_of_isHtmlValue (h : given.IsItem) (hvalue : IsHtmlValue given.value)
    (htail : ∀ c ∈ tail.head?, c = ' ') :
    htmlEntries (given.writtenItem ++ tail) = given :: htmlEntries tail := by
  have hends : ∀ c ∈ tail.head?, isHtmlValueChar c = false := by
    intro c hc
    rw [htail c hc]
    decide
  rw [htmlEntries_item h, htmlValue?_append_tail hvalue hends]

/-- A value of another shape is replaced by a shorter one, or by that of a flag. -/
theorem htmlEntries_of_not_isHtmlValue (h : given.IsItem) (hvalue : ¬IsHtmlValue given.value)
    (tail : Text) :
    ∃ value more, htmlEntries (given.writtenItem ++ tail) = ⟨given.name, value⟩ :: more ∧
      value ≠ given.value ∧ (value <+: given.value ∨ value = "True".toList) := by
  rw [htmlEntries_item h]
  cases hcut : htmlValue? (given.value ++ tail) with
  | some cut =>
    have hends : (Scan.start.run given.value).quoting = .outside := by rw [h.balanced.ends]; rfl
    obtain ⟨hshort, hdiffers⟩ := htmlValue?_cut hvalue h.valued hends hcut
    exact ⟨cut.group, _, rfl, hdiffers, .inl hshort⟩
  | none =>
    refine ⟨"True".toList, _, rfl, fun heq => hvalue ?_, .inr rfl⟩
    rw [← heq]
    decide

/-- An item of a list is followed by a blank and the items after it, or by nothing. -/
theorem exists_join_cons (first : Text) (more : List Text) :
    ∃ tail, List.intercalate [' '] (first :: more) = first ++ tail ∧ (∀ c ∈ tail.head?, c = ' ') ∧
      htmlEntries tail = htmlEntries (List.intercalate [' '] more) := by
  cases more with
  | nil => exact ⟨[], by simp, by simp, by rw [List.intercalate_nil]⟩
  | cons next rest =>
    refine ⟨' ' :: List.intercalate [' '] (next :: rest), by simp, fun c hc => ?_,
      htmlEntries_blank_cons _⟩
    exact (Option.some.inj hc).symm

/-- Items that the html form can express are read back, whatever items follow. -/
theorem htmlEntries_join_append {before : List Attribute} (hitems : ∀ given ∈ before, given.IsItem)
    (hvalues : ∀ given ∈ before, IsHtmlValue given.value) (after : List Attribute) :
    htmlEntries (List.intercalate [' '] ((before ++ after).map writtenItem)) =
      before ++ htmlEntries (List.intercalate [' '] (after.map writtenItem)) := by
  induction before with
  | nil => rfl
  | cons given before ih =>
    obtain ⟨hitem, hitems⟩ := List.forall_mem_cons.mp hitems
    obtain ⟨hvalue, hvalues⟩ := List.forall_mem_cons.mp hvalues
    rw [List.cons_append, List.map_cons]
    obtain ⟨tail, hjoin, hblank, htail⟩ := exists_join_cons given.writtenItem
      ((before ++ after).map writtenItem)
    rw [hjoin, htmlEntries_of_isHtmlValue hitem hvalue hblank, htail, ih hitems hvalues]
    rfl

/-- A written list is read as the entries in its brackets. -/
theorem ofHtml_writtenHtmlList (all : List Attribute) :
    ofHtml (writtenHtmlList all) = htmlEntries (List.intercalate [' '] (all.map writtenItem)) := by
  have htrim : Text.trim (writtenHtmlList all) = writtenHtmlList all := by
    refine Text.trim_eq_self (fun c hc => ?_) fun c hc => ?_
    · obtain rfl := Option.some.inj hc
      decide
    · rw [writtenHtmlList, List.getLast?_concat] at hc
      obtain rfl := Option.some.inj hc
      decide
  rw [ofHtml, inner, htrim, writtenHtmlList]
  simp

/-- The attributes before the first value that the html form cannot express are read back, and this
value is not. -/
theorem ofHtml_of_first {before after : List Attribute}
    (hitems : ∀ x ∈ before ++ given :: after, x.IsItem)
    (hbefore : ∀ x ∈ before, IsHtmlValue x.value) (hvalue : ¬IsHtmlValue given.value) :
    ∃ value more, ofHtml (writtenHtmlList (before ++ given :: after)) =
        before ++ ⟨given.name, value⟩ :: more ∧
      value ≠ given.value ∧ (value <+: given.value ∨ value = "True".toList) := by
  obtain ⟨hitems, hrest⟩ := List.forall_mem_append.mp hitems
  obtain ⟨tail, hjoin, -, -⟩ := exists_join_cons given.writtenItem (after.map writtenItem)
  obtain ⟨value, more, hread, hcut⟩ := htmlEntries_of_not_isHtmlValue
    (hrest given List.mem_cons_self) hvalue tail
  refine ⟨value, more, ?_, hcut⟩
  rw [ofHtml_writtenHtmlList, htmlEntries_join_append hitems hbefore, List.map_cons, hjoin, hread]

/-- A list in html form is read back exactly if every value is a string or has neither blanks nor
quotes. Otherwise the attributes before the first other value are read back, and this value is cut
short or replaced by that of a flag. The hash form gives the same attributes back whatever the shape
of their values, as long as these have no comma outside of brackets and strings. -/
theorem ofHtml_eq_iff {all : List Attribute} (h : ∀ given ∈ all, given.IsItem) :
    (ofHtml (writtenHtmlList all) = all ↔ ∀ given ∈ all, IsHtmlValue given.value) ∧
      (∀ before given after, all = before ++ given :: after →
        (∀ x ∈ before, IsHtmlValue x.value) → ¬IsHtmlValue given.value →
          ∃ value more, ofHtml (writtenHtmlList all) = before ++ ⟨given.name, value⟩ :: more ∧
            value ≠ given.value ∧ (value <+: given.value ∨ value = "True".toList)) ∧
      ((∀ given ∈ all, (',', 0) ∉ shown .start given.value) → ofHash (writtenList all) = all) := by
  refine ⟨⟨fun hread => ?_, fun hvalues => ?_⟩, ?_, fun hcommas => ?_⟩
  · by_contra hsome
    have hfind : (all.find? fun given => !decide (IsHtmlValue given.value)).isSome = true := by
      rw [List.find?_isSome]
      simpa using hsome
    obtain ⟨given, hgiven⟩ := Option.isSome_iff_exists.mp hfind
    obtain ⟨hvalue, before, after, rfl, hbefore⟩ := List.find?_eq_some_iff_append.mp hgiven
    obtain ⟨value, more, hfirst, hdiffers, -⟩ :=
      ofHtml_of_first h (fun x hx => by simpa using hbefore x hx) (by simpa using hvalue)
    rw [hread, List.append_cancel_left_eq, List.cons.injEq] at hfirst
    exact hdiffers (congrArg Attribute.value hfirst.1).symm
  · have hread := htmlEntries_join_append h hvalues []
    rw [List.append_nil] at hread
    rw [ofHtml_writtenHtmlList, hread, List.map_nil, List.intercalate_nil, htmlEntries,
      List.append_nil]
  · rintro before given after rfl hbefore hvalue
    exact ofHtml_of_first h hbefore hvalue
  · exact ofHash_writtenList fun given hgiven => (h given hgiven).isPlain (hcommas given hgiven)

/-- A value in each shape: a string, a subscript with a quoted key, a name. -/
def linkItems : List Attribute :=
  [⟨"title".toList, "\"a \\\" b\"".toList⟩, ⟨"href".toList, "urls['top']".toList⟩,
    ⟨"@id".toList, "n".toList⟩]

/-- A value with an index in it is cut at its string in the list with round brackets, and is read
back from the list with curly ones. -/
theorem ofHtml_eq_iff_link :
    (∀ given ∈ linkItems, given.IsItem) ∧
      writtenHtmlList linkItems = "(title=\"a \\\" b\" href=urls['top'] @id=n)".toList ∧
      ofHtml (writtenHtmlList linkItems) =
        [⟨"title".toList, "\"a \\\" b\"".toList⟩, ⟨"href".toList, "urls[".toList⟩,
          ⟨"top".toList, "True".toList⟩, ⟨"@id".toList, "n".toList⟩] ∧
      ofHtml (writtenHtmlList linkItems) ≠ linkItems ∧
      ofHash (writtenList linkItems) = linkItems := by
  have hall : linkItems.all (fun given =>
      decide (given.IsItem ∧ (',', 0) ∉ shown .start given.value)) = true := by decide +kernel
  have hboth : ∀ given ∈ linkItems, given.IsItem ∧ (',', 0) ∉ shown .start given.value :=
    fun given hgiven => of_decide_eq_true (List.all_eq_true.mp hall given hgiven)
  have hitems : ∀ given ∈ linkItems, given.IsItem := fun given hgiven => (hboth given hgiven).1
  obtain ⟨hiff, -, hhash⟩ := ofHtml_eq_iff hitems
  refine ⟨hitems, by decide +kernel, by decide +kernel, fun hread => ?_,
    hhash fun given hgiven => (hboth given hgiven).2⟩
  exact absurd (hiff.mp hread ⟨"href".toList, "urls['top']".toList⟩ (by decide)) (by decide +kernel)

end Haml.Attribute
