import Haml.Line.Basic
import Haml.Proofs.BracketScan
import Haml.Proofs.Quotation

/-!
# Element lines written and read back

An element line can be written from its parts: the tag, the shorthands, one attribute list in hash
form with quoted names, a slash, and a text or code at the end. Reading the line gives the parts
back. Each reader is described on what is written for it followed by a rest, so the lemmas only have
to know how that rest starts.
-/

namespace Haml

namespace Text

/-- A leading space is trimmed off. -/
theorem trim_blank_cons (t : Text) : trim (' ' :: t) = trim t := rfl

/-- A run of characters of a class ends where another character follows. -/
theorem span_append {α : Type} {p : α → Bool} {name rest : List α} (hname : ∀ c ∈ name, p c = true)
    (hrest : ∀ c ∈ rest.head?, p c = false) :
    (name ++ rest).takeWhile p = name ∧ (name ++ rest).dropWhile p = rest := by
  have hstop : rest.takeWhile p = [] ∧ rest.dropWhile p = rest := by
    cases rest with
    | nil => exact ⟨rfl, rfl⟩
    | cons c rest => simp [hrest c rfl]
  rw [List.takeWhile_append_of_pos hname, List.dropWhile_append_of_pos hname, hstop.1, hstop.2,
    List.append_nil]
  exact ⟨rfl, rfl⟩

/-- A text with a visible character is not all blank. -/
theorem isAllBlank_of_mem {c : Char} {t : Text} (h : c ∈ t) (hc : isBlank c = false) :
    isAllBlank t = false :=
  List.all_eq_false.mpr ⟨c, h, by simp [hc]⟩

/-- One more text is put after a separator, unless it is the first. -/
theorem intercalate_concat {α : Type} (separator : List α) (texts : List (List α))
    (last : List α) :
    List.intercalate separator (texts ++ [last]) =
      List.intercalate separator texts ++ ((if texts.isEmpty then [] else separator) ++ last) := by
  induction texts with
  | nil => simp
  | cons first more ih =>
    cases more with
    | nil => simp
    | cons next more =>
      rw [List.cons_append, List.cons_append, List.intercalate_cons_cons, ← List.cons_append, ih,
        List.intercalate_cons_cons, List.append_assoc (first ++ separator)]
      rfl

end Text

namespace Attribute

open Haml.Bracket

/-- An attribute as an entry of a list in hash form, its name quoted. -/
def written (given : Attribute) : Text :=
  ('\'' :: given.name ++ ['\'']) ++ (": ".toList ++ given.value)

/-- A list in hash form. -/
def writtenList (all : List Attribute) : Text :=
  '\x7b' :: List.intercalate ", ".toList (all.map written) ++ ['\x7d']

/-- An attribute whose name can be quoted as it is, and whose value is one value of a list. -/
structure IsPlain (given : Attribute) : Prop where
  /-- There is a name. -/
  named : given.name ≠ []
  /-- It has neither a quote nor a backslash. -/
  name : ∀ c ∈ given.name, c ≠ '\'' ∧ c ≠ '\\'
  /-- The value has no blanks around it. -/
  trimmed : Text.trim given.value = given.value
  /-- It closes its brackets and strings. -/
  balanced : Balanced given.value
  /-- It has no comma outside of them. -/
  whole : (',', 0) ∉ shown .start given.value

instance (given : Attribute) : Decidable given.IsPlain :=
  decidable_of_iff
    (given.name ≠ [] ∧ given.name.all (fun c => c != '\'' && c != '\\') = true ∧
      Text.trim given.value = given.value ∧ Balanced given.value ∧
      (',', 0) ∉ shown .start given.value)
    ⟨fun h => ⟨h.1, by simpa using h.2.1, h.2.2.1, h.2.2.2.1, h.2.2.2.2⟩,
      fun h => ⟨h.named, by simpa using h.name, h.trimmed, h.balanced, h.whole⟩⟩

variable {given : Attribute} {all : List Attribute}

/-- An entry is balanced and has no comma outside of brackets and strings. -/
theorem IsPlain.scan (h : given.IsPlain) :
    Balanced given.written ∧ (',', 0) ∉ shown .start given.written := by
  obtain ⟨hshown, hrun⟩ := scan_quoted (rfl : isQuote '\'' = true) h.name
  have hname : Balanced ('\'' :: given.name ++ ['\'']) := ⟨hrun, hshown ▸ by simp⟩
  have hsign : Balanced ": ".toList := ⟨by decide, by decide⟩
  refine ⟨hname.append (hsign.append h.balanced), ?_⟩
  rw [written, shown_append, hshown, hrun, shown_append, hsign.ends, List.nil_append,
    List.mem_append, not_or]
  exact ⟨by decide, h.whole⟩

/-- The name ends at its quote, since a colon follows. -/
theorem quotedEnd?_written {name : Text} (h : ∀ c ∈ name, c ≠ '\'') (value : Text) :
    quotedEnd? '\'' (name ++ '\'' :: ':' :: value) = some ⟨name, value⟩ := by
  induction name with
  | nil => rfl
  | cons c rest ih =>
    rw [List.cons_append, quotedEnd?, ih fun d hd => h d (List.mem_cons_of_mem _ hd)]
    simp [h c List.mem_cons_self]

/-- A plain attribute is read back from what is written for it. -/
theorem ofHashItem?_written (h : given.IsPlain) : ofHashItem? given.written = some given := by
  obtain ⟨name, value⟩ := given
  cases name with
  | nil => exact absurd rfl h.named
  | cons c rest =>
    have hentry : Text.trimLeft (written ⟨c :: rest, value⟩) =
        '\'' :: c :: (rest ++ '\'' :: ':' :: ' ' :: value) := by
      simp only [written, List.cons_append, List.append_assoc, List.nil_append]
      exact List.dropWhile_cons_of_neg (by decide)
    rw [ofHashItem?, hentry]
    simp only [quotedKey?]
    rw [quotedEnd?_written fun d hd => (h.name d (List.mem_cons_of_mem _ hd)).1]
    simp [Text.trim_blank_cons, h.trimmed]

/-- A space before an entry does not matter. -/
theorem ofHashItem?_blank_cons (t : Text) : ofHashItem? (' ' :: t) = ofHashItem? t := rfl

/-- With a blank after each comma, the blanks start the later entries. -/
theorem intercalate_blank (first : Text) (more : List Text) :
    List.intercalate ", ".toList (first :: more) =
      List.intercalate [','] (first :: more.map (' ' :: ·)) := by
  induction more generalizing first with
  | nil => simp
  | cons next rest ih =>
    have hleft : List.intercalate ", ".toList (first :: next :: rest) =
        first ++ ',' :: ' ' :: List.intercalate ", ".toList (next :: rest) := by simp
    rw [hleft, ih, List.map_cons, List.intercalate_cons_cons, List.intercalate_cons_cons_left,
      List.append_assoc, List.singleton_append]

/-- In the brackets of a written list are the written attributes, with commas between them. -/
theorem inner_writtenList (all : List Attribute) :
    inner (writtenList all) = List.intercalate ", ".toList (all.map written) := by
  have htrim : Text.trim (writtenList all) = writtenList all := by
    refine Text.trim_eq_self (fun c hc => ?_) fun c hc => ?_
    · obtain rfl := Option.some.inj hc
      decide
    · rw [writtenList, List.getLast?_concat] at hc
      obtain rfl := Option.some.inj hc
      decide
  rw [inner, htrim, writtenList]
  simp

/-- A written list is read back, entry by entry. -/
theorem ofHash_writtenList (h : ∀ given ∈ all, given.IsPlain) : ofHash (writtenList all) = all := by
  rw [ofHash, inner_writtenList]
  cases all with
  | nil => rfl
  | cons first more =>
    have hscan : ∀ p ∈ first.written :: more.map fun given => ' ' :: given.written,
        Balanced p ∧ (',', 0) ∉ shown .start p := by
      intro p hp
      obtain rfl | hp := List.mem_cons.mp hp
      · exact (h first List.mem_cons_self).scan
      · obtain ⟨given, hgiven, rfl⟩ := List.mem_map.mp hp
        obtain ⟨hbalanced, hwhole⟩ := (h given (List.mem_cons_of_mem _ hgiven)).scan
        refine ⟨Balanced.append (a := [' ']) ⟨by decide, by decide⟩ hbalanced, fun hcomma => ?_⟩
        obtain hblank | hcomma := List.mem_cons.mp hcomma
        · simp at hblank
        · exact hwhole hcomma
    have hvisible : ∀ p ∈ first.written :: more.map fun given => ' ' :: given.written,
        (!Text.isAllBlank p) = true := by
      intro p hp
      have hquote : '\'' ∈ p := by
        obtain rfl | hp := List.mem_cons.mp hp
        · simp [written]
        · obtain ⟨given, -, rfl⟩ := List.mem_map.mp hp
          simp [written]
      rw [Text.isAllBlank_of_mem hquote (by decide), Bool.not_false]
    have hmore : more.filterMap (ofHashItem? ∘ fun given => ' ' :: given.written) = more := by
      refine (List.filterMap_congr fun given hgiven => ?_).trans List.filterMap_some
      exact (ofHashItem?_blank_cons _).trans
        (ofHashItem?_written (h given (List.mem_cons_of_mem _ hgiven)))
    rw [List.map_cons, intercalate_blank, List.map_map, splitTopLevel, Function.comp_def,
      pieces_join ⟨rfl, rfl⟩ fun p hp => ⟨(hscan p hp).1.ends, (hscan p hp).2⟩,
      List.filter_eq_self.mpr hvisible, List.filterMap_cons,
      ofHashItem?_written (h first List.mem_cons_self), List.filterMap_map, hmore]

/-- A written list is the first list of a line, whatever follows it. -/
theorem splitBalanced_writtenList (h : ∀ given ∈ all, given.IsPlain) (rest : Text) :
    splitBalanced (writtenList all ++ rest) = ⟨writtenList all, rest⟩ := by
  have hbalanced : Balanced (List.intercalate ", ".toList (all.map written)) := by
    refine Balanced.join ⟨by decide, by decide⟩ fun p hp => ?_
    obtain ⟨given, hgiven, rfl⟩ := List.mem_map.mp hp
    exact (h given hgiven).scan.1
  rw [writtenList, List.append_assoc, List.singleton_append]
  exact splitBalanced_group hbalanced rest rfl rfl

end Attribute

namespace Element

variable {rest : Text}

/-- The characters that end the head of a line. -/
def headEnds : List Char := ['\x7b', '/', ' ', '=', '!']

/-- A rest of a line that the head before it does not reach into. -/
def EndsHead (rest : Text) : Prop := ∀ c ∈ rest.head?, c ∈ headEnds

/-- A shorthand as it is written. -/
def Shorthand.written : Shorthand → Text
  | .id name => '#' :: name
  | .cls name => '.' :: name

/-- The name of a shorthand. -/
def Shorthand.name : Shorthand → Text
  | .id name | .cls name => name

/-- A name that can be written as a shorthand. -/
def IsName (name : Text) : Prop := name ≠ [] ∧ ∀ c ∈ name, Text.isNameChar c = true

instance (name : Text) : Decidable (IsName name) :=
  decidable_of_iff (name ≠ [] ∧ name.all Text.isNameChar = true) (by simp [IsName])

/-- A shorthand is written as its mark and its name, and read back from them. -/
theorem Shorthand.exists_mark (shorthand : Shorthand) :
    ∃ mark, shorthand.written = mark :: shorthand.name ∧ mark ∈ ['#', '.'] ∧
      Shorthand.of mark shorthand.name = shorthand := by
  cases shorthand with
  | id name => exact ⟨'#', rfl, by decide, rfl⟩
  | cls name => exact ⟨'.', rfl, by decide, rfl⟩

/-- What follows a tag or a name starts with no character of it. -/
theorem head?_shorthands_append (all : List Shorthand) (hrest : EndsHead rest) :
    ∀ c ∈ (all.flatMap Shorthand.written ++ rest).head?,
      Text.isTagChar c = false ∧ Text.isNameChar c = false ∧ c ≠ '%' := by
  have hclasses : ('#' :: '.' :: headEnds).all
      (fun c => !Text.isTagChar c && !Text.isNameChar c && c != '%') = true := by
    decide
  intro c hc
  suffices hmem : c ∈ '#' :: '.' :: headEnds by
    simpa [and_assoc] using List.all_eq_true.mp hclasses c hmem
  cases all with
  | nil => exact List.mem_cons_of_mem _ (List.mem_cons_of_mem _ (hrest c hc))
  | cons shorthand more =>
    cases shorthand <;> obtain rfl := Option.some.inj hc <;> decide

/-- A nonempty run of characters of a class starts with one. -/
theorem any_head?_append {p : Char → Bool} {name : Text} (hne : name ≠ [])
    (hname : ∀ c ∈ name, p c = true) (rest : Text) : (name ++ rest).head?.any p = true := by
  cases name with
  | nil => exact absurd rfl hne
  | cons c name => exact hname c List.mem_cons_self

/-- A tag is read back. -/
theorem tag?_append {tag : Text} (hne : tag ≠ []) (htag : ∀ c ∈ tag, Text.isTagChar c = true)
    (hrest : ∀ c ∈ rest.head?, Text.isTagChar c = false) :
    tag? ('%' :: tag ++ rest) = some tag ∧ afterTag ('%' :: tag ++ rest) = rest := by
  obtain ⟨htake, hdrop⟩ := Text.span_append htag hrest
  have hany := any_head?_append hne htag rest
  rw [List.cons_append, tag?, afterTag, if_pos hany, if_pos hany, htake, hdrop]
  exact ⟨rfl, rfl⟩

/-- A text that does not start with a percent sign has no tag. -/
theorem tag?_of_head? (h : ∀ c ∈ rest.head?, c ≠ '%') :
    tag? rest = none ∧ afterTag rest = rest := by
  rw [tag?.eq_def, afterTag.eq_def]
  split
  · exact absurd rfl (h '%' rfl)
  · exact ⟨rfl, rfl⟩

/-- A written shorthand is read back before a text that cannot continue its name. -/
theorem shorthands_written_append {shorthand : Shorthand} (hname : IsName shorthand.name)
    (hrest : ∀ c ∈ rest.head?, Text.isNameChar c = false) :
    shorthands (shorthand.written ++ rest) = shorthand :: shorthands rest ∧
      afterShorthands (shorthand.written ++ rest) = afterShorthands rest := by
  obtain ⟨htake, hdrop⟩ := Text.span_append hname.2 hrest
  have hany := any_head?_append hname.1 hname.2 rest
  obtain ⟨mark, hwritten, hmark, hof⟩ := shorthand.exists_mark
  have hstarts : isShorthandMark mark = true := by
    obtain rfl | rfl := by simpa using hmark
    · rfl
    · rfl
  have hcond : (isShorthandMark mark &&
      (shorthand.name ++ rest).head?.any Text.isNameChar) = true := by
    rw [hstarts, hany]
    rfl
  rw [hwritten, List.cons_append, shorthands, afterShorthands, if_pos hcond, if_pos hcond, htake,
    hdrop, hof]
  exact ⟨rfl, rfl⟩

/-- Shorthands are read back, up to the end of the head. -/
theorem shorthands_flatMap_append {all : List Shorthand} (hall : ∀ s ∈ all, IsName s.name)
    (hrest : EndsHead rest) :
    shorthands (all.flatMap Shorthand.written ++ rest) = all ∧
      afterShorthands (all.flatMap Shorthand.written ++ rest) = rest := by
  induction all with
  | nil =>
    rw [List.flatMap_nil, List.nil_append]
    cases rest with
    | nil => exact ⟨by rw [shorthands], by rw [afterShorthands]⟩
    | cons c rest =>
      have hends : headEnds.all (fun c => !isShorthandMark c) = true := by decide
      have hmark : isShorthandMark c = false := by
        simpa using List.all_eq_true.mp hends c (hrest c rfl)
      rw [shorthands, afterShorthands]
      simp [hmark]
  | cons shorthand more ih =>
    obtain ⟨hmore, hafter⟩ := ih fun s hs => hall s (List.mem_cons_of_mem _ hs)
    obtain ⟨hfirst, hskip⟩ := shorthands_written_append (hall shorthand List.mem_cons_self)
      fun c hc => (head?_shorthands_append more hrest c hc).2.1
    rw [List.flatMap_cons, List.append_assoc, hfirst, hskip, hmore, hafter]
    exact ⟨rfl, rfl⟩

/-- What an element line ends with. -/
inductive Tail where
  | nothing
  | text (content : Text)
  | code (marker : ContentMarker) (content : Text)
deriving DecidableEq, Repr

namespace Tail

/-- The end of a line as it is written. -/
def written : Tail → Text
  | nothing => []
  | text content => ' ' :: content
  | code .escaped content => "= ".toList ++ content
  | code .unescaped content => "!= ".toList ++ content

/-- The text or the code. -/
def content : Tail → Text
  | nothing => []
  | text content | code _ content => content

/-- The marker of code. -/
def marker : Tail → Option ContentMarker
  | code marker _ => some marker
  | _ => none

/-- Marker and content are read back from what is written for them. -/
theorem splitContent_written {tail : Tail} (h : Text.trim tail.content = tail.content) :
    splitContent tail.written = (tail.marker, tail.content) := by
  match tail with
  | nothing => rfl
  | text t => exact Prod.ext rfl h
  | code .escaped t => exact Prod.ext rfl h
  | code .unescaped t => exact Prod.ext rfl h

/-- A written tail starts with a space or a marker, if it is not empty. -/
theorem head?_written (tail : Tail) : ∀ c ∈ tail.written.head?, c ∈ [' ', '=', '!'] := by
  match tail with
  | nothing => simp [written]
  | text _ | code .escaped _ | code .unescaped _ => simp [written]

end Tail

/-- The parts that an element line is written from. An empty list of attributes may be written or
left out. -/
structure Parts where
  /-- The tag name, unless it is left out. -/
  tag : Option Text
  /-- The id. -/
  id : Option Text
  /-- The classes. -/
  classes : List Text
  /-- The attributes of the list, if there is one. -/
  attributes : Option (List Attribute)
  /-- Whether a slash is written. -/
  slash : Bool
  /-- The text or code at the end. -/
  tail : Tail
deriving DecidableEq, Repr

namespace Parts

/-- The shorthands: the id before the classes. -/
def shorthands (parts : Parts) : List Shorthand :=
  parts.id.toList.map .id ++ parts.classes.map .cls

/-- The line after the attributes. -/
def ending (parts : Parts) : Text := (if parts.slash then ['/'] else []) ++ parts.tail.written

/-- The line after tag and shorthands. -/
def body (parts : Parts) : Text := parts.attributes.elim [] Attribute.writtenList ++ parts.ending

/-- The line: tag, shorthands, attributes, slash, and text or code. -/
def line (parts : Parts) : Text :=
  parts.tag.elim [] ('%' :: ·) ++ (parts.shorthands.flatMap Shorthand.written ++ parts.body)

/-- Parts that can be told apart in the line. -/
structure Valid (parts : Parts) : Prop where
  /-- Without a tag there is a shorthand. -/
  headed : parts.tag = none → parts.shorthands ≠ []
  /-- A tag has only characters of tags. -/
  tag : ∀ tag ∈ parts.tag, tag ≠ [] ∧ ∀ c ∈ tag, Text.isTagChar c = true
  /-- The names of shorthands are names. -/
  names : ∀ shorthand ∈ parts.shorthands, IsName shorthand.name
  /-- The attributes are plain. -/
  attributes : ∀ all ∈ parts.attributes, ∀ given ∈ all, given.IsPlain
  /-- The content has no blanks around it. -/
  tail : Text.trim parts.tail.content = parts.tail.content

instance (parts : Parts) : Decidable parts.Valid :=
  decidable_of_iff
    ((parts.tag = none → parts.shorthands ≠ []) ∧
      parts.tag.all (fun tag => !tag.isEmpty && tag.all Text.isTagChar) = true ∧
      parts.shorthands.all (fun shorthand => decide (IsName shorthand.name)) = true ∧
      parts.attributes.all (fun all => all.all fun given => decide given.IsPlain) = true ∧
      Text.trim parts.tail.content = parts.tail.content)
    ⟨fun h => ⟨h.1, by simpa [Option.all_eq_true] using h.2.1, by simpa using h.2.2.1,
        by simpa [Option.all_eq_true] using h.2.2.2.1, h.2.2.2.2⟩,
      fun h => ⟨h.headed, by simpa [Option.all_eq_true] using h.tag, by simpa using h.names,
        by simpa [Option.all_eq_true] using h.attributes, h.tail⟩⟩

variable {parts : Parts}

/-- What is written after the lists starts with a slash, a space or a marker, if it is not empty. -/
theorem head?_ending (parts : Parts) : ∀ c ∈ parts.ending.head?, c ∈ ['/', ' ', '=', '!'] := by
  intro c hc
  rw [ending] at hc
  cases hslash : parts.slash with
  | true =>
    rw [hslash] at hc
    obtain rfl := Option.some.inj hc
    exact List.mem_cons_self
  | false =>
    rw [hslash] at hc
    exact List.mem_cons_of_mem _ (parts.tail.head?_written c hc)

/-- What is written after tag and shorthands ends them. -/
theorem endsHead_body (parts : Parts) : EndsHead parts.body := by
  intro c hc
  rw [body] at hc
  cases hall : parts.attributes with
  | none =>
    rw [hall] at hc
    exact List.mem_cons_of_mem _ (parts.head?_ending c hc)
  | some all =>
    rw [hall] at hc
    obtain rfl := Option.some.inj hc
    exact List.mem_cons_self

/-- The attribute list is the only list of the line. -/
theorem lists_body (h : parts.Valid) :
    lists parts.body = parts.attributes.toList.map Attribute.writtenList ∧
      afterLists parts.body = parts.ending := by
  have hnone : lists parts.ending = [] ∧ afterLists parts.ending = parts.ending := by
    have hopens : opensList parts.ending = false := by
      cases hend : parts.ending with
      | nil => rfl
      | cons c rest =>
        have hno : ['/', ' ', '=', '!'].all (fun c => !(c == '\x7b' || c == '(')) = true := by
          decide
        have hmem : c ∈ ['/', ' ', '=', '!'] := parts.head?_ending c (by rw [hend]; rfl)
        have hc : (c == '\x7b' || c == '(') = false := by
          simpa using List.all_eq_true.mp hno c hmem
        exact hc
    rw [lists, afterLists, hopens]
    exact ⟨rfl, rfl⟩
  rw [body]
  cases hall : parts.attributes with
  | none => exact hnone
  | some all =>
    have hsplit := Attribute.splitBalanced_writtenList (h.attributes all hall) parts.ending
    have hopens : (opensList (Attribute.writtenList all ++ parts.ending) &&
        !(Bracket.splitBalanced (Attribute.writtenList all ++ parts.ending)).group.isEmpty) =
          true := by
      rw [hsplit]
      rfl
    rw [Option.elim_some, lists, afterLists, if_pos hopens, if_pos hopens, hsplit, hnone.1, hnone.2]
    exact ⟨rfl, rfl⟩

/-- The id of the parts is that of their shorthands. -/
theorem lastId_shorthands (parts : Parts) : lastId parts.shorthands = parts.id := by
  rw [lastId, shorthands, List.foldl_append, List.foldl_map]
  cases parts.id <;> simp

/-- The classes of the parts are those of their shorthands. -/
theorem classNames_shorthands (parts : Parts) : classNames parts.shorthands = parts.classes := by
  rw [classNames, shorthands, List.filterMap_append, List.filterMap_map, List.filterMap_map]
  cases parts.id <;> simp

/-- The slash is told apart from what can follow it. -/
theorem slash_ending (parts : Parts) :
    (parts.ending.head? == some '/') = parts.slash ∧
      (if parts.slash then parts.ending.drop 1 else parts.ending) = parts.tail.written := by
  rw [ending]
  cases parts.slash with
  | true => exact ⟨rfl, rfl⟩
  | false =>
    refine ⟨?_, rfl⟩
    rw [if_neg Bool.false_ne_true, List.nil_append, beq_eq_false_iff_ne]
    intro hslash
    have := parts.tail.head?_written '/' hslash
    simp at this

/-- The head of the line is read back, and what follows it is the body. -/
theorem head_line (h : parts.Valid) :
    tag? parts.line = parts.tag ∧ Element.shorthands (afterTag parts.line) = parts.shorthands ∧
      afterHead parts.line = parts.body := by
  have hstart := head?_shorthands_append parts.shorthands parts.endsHead_body
  obtain ⟨hshorthands, hafter⟩ := shorthands_flatMap_append h.names parts.endsHead_body
  obtain ⟨htag, hrest⟩ : tag? parts.line = parts.tag ∧
      afterTag parts.line = parts.shorthands.flatMap Shorthand.written ++ parts.body := by
    rw [line]
    cases htag : parts.tag with
    | none => exact tag?_of_head? fun c hc => (hstart c hc).2.2
    | some tag =>
      obtain ⟨hne, hchars⟩ := h.tag tag htag
      exact tag?_append hne hchars fun c hc => (hstart c hc).1
  rw [afterHead, hrest]
  exact ⟨htag, hshorthands, hafter⟩

/-- The line starts with a tag or a shorthand, so it is an element. -/
theorem ofLine_eq_element (h : parts.Valid) :
    Markup.ofLine parts.line = .element (Element.ofLine parts.line) := by
  obtain ⟨c, rest, hline, hc⟩ : ∃ c rest, parts.line = c :: rest ∧ c ∈ ['%', '#', '.'] := by
    rw [line]
    cases htag : parts.tag with
    | some tag => exact ⟨'%', _, rfl, by decide⟩
    | none =>
      cases hall : parts.shorthands with
      | nil => exact absurd hall (h.headed htag)
      | cons shorthand more =>
        cases shorthand with
        | id name => exact ⟨'#', _, rfl, by decide⟩
        | cls name => exact ⟨'.', _, rfl, by decide⟩
  rw [hline]
  simp only [List.mem_cons, List.not_mem_nil, or_false] at hc
  obtain rfl | rfl | rfl := hc <;> rfl

end Parts

/-- A line that is written from parts which can be told apart is read as the element of these parts:
the tag, a division if it is left out; the id, the classes and the attributes, in order; the content
with its marker. The element has no end tag exactly if a slash was written or its tag is that of a
void element, whatever the case of its letters. -/
theorem ofLine_written {parts : Parts} (h : parts.Valid) :
    Markup.ofLine parts.line = .element
      { tag := parts.tag.getD "div".toList
        id := parts.id
        classes := parts.classes
        attributes := parts.attributes.getD []
        selfClosing := parts.slash ||
          Format.voidElements.contains (Text.fold (parts.tag.getD "div".toList))
        content := parts.tail.content
        marker := parts.tail.marker } := by
  obtain ⟨htag, hshorthands, hbody⟩ := parts.head_line h
  obtain ⟨hlists, hending⟩ := parts.lists_body h
  have hattributes : (parts.attributes.toList.map Attribute.writtenList).flatMap Attribute.ofList =
      parts.attributes.getD [] := by
    cases hall : parts.attributes with
    | none => rfl
    | some all =>
      have hread : Attribute.ofList (Attribute.writtenList all) = all :=
        Attribute.ofHash_writtenList (h.attributes all hall)
      simp [hread]
  obtain ⟨hslash, htail⟩ := parts.slash_ending
  rw [Parts.ofLine_eq_element h, Element.ofLine, htag, hshorthands, hbody, hlists, hending,
    hattributes, hslash, htail, Tail.splitContent_written h.tail, parts.lastId_shorthands,
    parts.classNames_shorthands]

/-- Parts with brackets, quotes, commas and signs where they do not count: in names, in strings and
in brackets. -/
def linkParts : Parts :=
  { tag := some "Link".toList
    id := some "top".toList
    classes := ["a".toList, "-b".toList]
    attributes := some
      [⟨"x\", \x7b".toList, "f(\x7b'k': [1, 2]\x7d, ')')".toList⟩,
        ⟨"on:k".toList, "y or \"it's, \\\" => \x7d\"".toList⟩, ⟨"e".toList, []⟩]
    slash := false
    tail := .code .unescaped "g(\x7bz\x7d, '/')".toList }

/-- A line with a tag, an id, two classes, a list whose values have brackets and quotes in them, and
unescaped code is read back. -/
theorem ofLine_written_link :
    linkParts.Valid ∧
      linkParts.line = ("%Link#top.a.-b\x7b'x\", \x7b': f(\x7b'k': [1, 2]\x7d, ')'), ".toList ++
        "'on:k': y or \"it's, \\\" => \x7d\", 'e': \x7d!= g(\x7bz\x7d, '/')".toList) ∧
      Markup.ofLine linkParts.line = .element
        { tag := "Link".toList
          id := some "top".toList
          classes := ["a".toList, "-b".toList]
          attributes := linkParts.attributes.getD []
          selfClosing := true
          content := "g(\x7bz\x7d, '/')".toList
          marker := some .unescaped } :=
  ⟨by decide +kernel, by decide +kernel,
    (ofLine_written (by decide +kernel)).trans (by decide +kernel)⟩

end Element

end Haml
