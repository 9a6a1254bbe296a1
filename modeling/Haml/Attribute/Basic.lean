import Haml.Bracket
import Haml.Text.Word

/-!
# Attribute lists

An element has attributes in two notations: the hash form with entries such as `key: value`,
`'key': value` and `:key => value`, and the html form `(key=value key)`. Both give names with value
expressions of the target language.
-/

namespace Haml

/-- An attribute: its name and the expression of its value. -/
structure Attribute where
  /-- The attribute's name. -/
  name : Text
  /-- The source of its value. -/
  value : Text
deriving DecidableEq, Repr

namespace Attribute

/-- What follows the sign between key and value of a hash entry: a colon or an arrow, blanks before
it aside. -/
def afterSign? (t : Text) : Option Text :=
  match Text.trimLeft t with
  | ':' :: rest => some rest
  | '=' :: '>' :: rest => some rest
  | _ => none

/-- The key and the source after the sign. -/
structure Entry where
  /-- The key. -/
  key : Text
  /-- All that follows the sign. -/
  rest : Text

/-- The entry cut at the first `mark` that a sign follows. -/
def quotedEnd? (mark : Char) : Text → Option Entry
  | [] => none
  | c :: rest =>
    match if c == mark then afterSign? rest else none with
    | some value => some ⟨[], value⟩
    | none => (quotedEnd? mark rest).map fun entry => ⟨c :: entry.key, entry.rest⟩

/-- An entry whose key is quoted, read after the opening quote. The key has at least one
character. -/
def quotedKey? (mark : Char) : Text → Option Entry
  | [] => none
  | c :: rest => (quotedEnd? mark rest).map fun entry => ⟨c :: entry.key, entry.rest⟩

/-- A run cut at its last colon, the colon left out. -/
def lastColon? : Text → Option Entry
  | [] => none
  | c :: rest =>
    match lastColon? rest with
    | some entry => some ⟨c :: entry.key, entry.rest⟩
    | none => if c == ':' then some ⟨[], rest⟩ else none

/-- An entry with a bare key: a run of tag characters before a sign, or else as much of the run as
stands before one of its own colons. The key has at least one character. -/
def bareKey? (t : Text) : Option Entry :=
  let run := t.takeWhile Text.isTagChar
  let after := t.dropWhile Text.isTagChar
  match run with
  | [] => none
  | first :: more =>
    match afterSign? after with
    | some value => some ⟨run, value⟩
    | none => (lastColon? more).map fun entry => ⟨first :: entry.key, entry.rest ++ after⟩

/-- The attribute of one hash entry. A bare key may have a colon before it. -/
def ofHashItem? (entry : Text) : Option Attribute :=
  let parsed :=
    match Text.trimLeft entry with
    | '"' :: rest => quotedKey? '"' rest
    | '\'' :: rest => quotedKey? '\'' rest
    | ':' :: rest =>
      match bareKey? rest with
      | some entry => some entry
      | none => bareKey? (':' :: rest)
    | rest => bareKey? rest
  parsed.map fun entry => ⟨entry.key, Text.trim entry.rest⟩

/-- The inside of a bracketed list. -/
def inner (source : Text) : Text := ((Text.trim source).drop 1).dropLast

/-- The attributes of a list in hash form. Entries without a key and a sign are left out. -/
def ofHash (source : Text) : List Attribute :=
  (Bracket.splitTopLevel [','] (inner source)).filterMap ofHashItem?

/-- Characters of a name in the html form. -/
def isHtmlNameChar (c : Char) : Bool := c == '@' || c == '.' || Text.isTagChar c

/-- A quoted value up to and with its closing quote, read after the opening one. A backslash takes
the next character along, a line feed excepted. -/
def quotedValue? (mark : Char) : Text → Option Bracket.Cut
  | [] => none
  | '\\' :: c :: rest =>
    if c == '\n' then none
    else (quotedValue? mark rest).map fun cut => ⟨'\\' :: c :: cut.group, cut.rest⟩
  | c :: rest =>
    if c == mark then some ⟨[c], rest⟩
    else if c == '\\' then none
    else (quotedValue? mark rest).map fun cut => ⟨c :: cut.group, cut.rest⟩

/-- Nothing is lost at the closing quote. -/
theorem quotedValue?_append {mark : Char} {t : Text} {cut : Bracket.Cut}
    (h : quotedValue? mark t = some cut) : cut.group ++ cut.rest = t := by
  fun_induction quotedValue? mark t generalizing cut with
  | case1 => simp at h
  | case2 => simp at h
  | case3 c rest hc ih =>
    obtain ⟨inner, hi, rfl⟩ := Option.map_eq_some_iff.mp h
    simp [ih hi]
  | case4 c rest hm => cases h; rfl
  | case5 => simp at h
  | case6 c rest hm hs hb ih =>
    obtain ⟨inner, hi, rfl⟩ := Option.map_eq_some_iff.mp h
    simp [ih hi]

/-- Characters of an unquoted value in the html form. -/
def isHtmlValueChar (c : Char) : Bool := !Text.isBlank c && !Bracket.isQuote c

/-- A value in the html form: quoted, or a run of characters that are neither blanks nor quotes. -/
def htmlValue? (t : Text) : Option Bracket.Cut :=
  match t with
  | [] => none
  | c :: rest =>
    if Bracket.isQuote c then
      (quotedValue? c rest).map fun cut => ⟨c :: cut.group, cut.rest⟩
    else if isHtmlValueChar c then
      some ⟨t.takeWhile isHtmlValueChar, t.dropWhile isHtmlValueChar⟩
    else none

/-- Nothing is lost after a value. -/
theorem htmlValue?_append {t : Text} {cut : Bracket.Cut} (h : htmlValue? t = some cut) :
    cut.group ++ cut.rest = t := by
  unfold htmlValue? at h
  split at h
  · simp at h
  · split at h
    · obtain ⟨inner, hi, rfl⟩ := Option.map_eq_some_iff.mp h
      simp [quotedValue?_append hi]
    · split at h
      · cases h; exact List.takeWhile_append_dropWhile
      · simp at h

/-- The value that an equals sign gives to the name before it, and what follows. -/
def assigned? (t : Text) : Option Bracket.Cut :=
  match Text.trimLeft t with
  | '=' :: rest => htmlValue? (Text.trimLeft rest)
  | _ => none

/-- What follows an assigned value is shorter than the text with the assignment. -/
theorem length_rest_of_assigned? {t : Text} {cut : Bracket.Cut} (h : assigned? t = some cut) :
    cut.rest.length < t.length := by
  unfold assigned? at h
  have ht := Text.length_dropWhile_le Text.isBlank t
  split at h
  · rename_i rest he
    have hr := Text.length_dropWhile_le Text.isBlank rest
    have hc := congrArg List.length (htmlValue?_append h)
    simp only [Text.trimLeft] at he hc
    rw [he] at ht
    simp only [List.length_cons, List.length_append] at ht hc
    omega
  · simp at h

/-- The attributes of the inside of a list in html form. A name without a value is a flag, whose
value is true; characters that belong to neither are passed over. -/
def htmlEntries (t : Text) : List Attribute :=
  match t with
  | [] => []
  | c :: rest =>
    if isHtmlNameChar c then
      let name := c :: rest.takeWhile isHtmlNameChar
      match _h : assigned? (rest.dropWhile isHtmlNameChar) with
      | some cut => ⟨name, cut.group⟩ :: htmlEntries cut.rest
      | none => ⟨name, "True".toList⟩ :: htmlEntries (rest.dropWhile isHtmlNameChar)
    else htmlEntries rest
termination_by t.length
decreasing_by
  · have h1 := length_rest_of_assigned? _h
    have h2 := Text.length_dropWhile_le isHtmlNameChar rest
    simp only [List.length_cons]; omega
  · have h2 := Text.length_dropWhile_le isHtmlNameChar rest
    simp only [List.length_cons]; omega
  · simp only [List.length_cons]; omega

/-- The attributes of a list in html form. -/
def ofHtml (source : Text) : List Attribute := htmlEntries (inner source)

/-- The attributes of a bracketed list, by its opening bracket. -/
def ofList (source : Text) : List Attribute :=
  match source with
  | '\x7b' :: _ => ofHash source
  | '(' :: _ => ofHtml source
  | _ => []

end Attribute

end Haml
