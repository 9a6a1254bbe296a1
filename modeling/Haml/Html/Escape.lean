import Haml.Text.CodePoint

/-!
# HTML escaping

The four characters that can start markup or end an attribute value are written as entities. The
escape function is the chain of four replacements that generated code performs at run time;
`escape_eq_flatMap` says that it is a map of characters.
-/

namespace Haml.Html

/-- Every occurrence of a character replaced by a text. -/
def replaceChar (c : Char) (replacement : Text) (t : Text) : Text :=
  t.flatMap fun d => if d == c then replacement else [d]

/-- The entity of a character that has one, any other character as it is. -/
def entity (c : Char) : Text :=
  if c == '&' then "&amp;".toList
  else if c == '<' then "&lt;".toList
  else if c == '>' then "&gt;".toList
  else if c == '"' then "&quot;".toList
  else [c]

/-- Text made safe for element content and attribute values: the ampersand first, so that no
entity is escaped again. -/
def escape (t : Text) : Text :=
  replaceChar '"' "&quot;".toList
    (replaceChar '>' "&gt;".toList
      (replaceChar '<' "&lt;".toList (replaceChar '&' "&amp;".toList t)))

/-- Replacement works piece by piece. -/
theorem replaceChar_append (c : Char) (r s t : Text) :
    replaceChar c r (s ++ t) = replaceChar c r s ++ replaceChar c r t := by
  simp only [replaceChar, List.flatMap_append]

/-- Escaping works piece by piece. -/
theorem escape_append (s t : Text) : escape (s ++ t) = escape s ++ escape t := by
  simp only [escape, replaceChar_append]

/-- One character is escaped to its entity. -/
theorem escape_singleton (c : Char) : escape [c] = entity c := by
  by_cases h1 : c = '&'
  · subst h1; decide
  by_cases h2 : c = '<'
  · subst h2; decide
  by_cases h3 : c = '>'
  · subst h3; decide
  by_cases h4 : c = '"'
  · subst h4; decide
  simp only [escape, replaceChar, entity, List.flatMap_singleton, beq_iff_eq, h1, h2, h3, h4,
    if_false]

/-- Escaping maps each character to its entity. -/
theorem escape_eq_flatMap (t : Text) : escape t = t.flatMap entity := by
  induction t with
  | nil => simp only [escape, replaceChar, List.flatMap_nil]
  | cons c t ih =>
    have h : c :: t = [c] ++ t := rfl
    rw [h, escape_append, ih, escape_singleton, List.flatMap_append, List.flatMap_singleton]

/-- The entity of a code point: a surrogate has none. -/
def codeEntity : CodePoint → CodeText
  | .char c => Text.codes (entity c)
  | .surrogate offset => [.surrogate offset]

/-- The text of a value made safe for element content and attribute values. -/
def escapeCodes (t : CodeText) : CodeText := t.flatMap codeEntity

/-- The code points of a text are escaped in the same way as the text. -/
theorem escapeCodes_codes (t : Text) : escapeCodes (Text.codes t) = Text.codes (escape t) := by
  simp only [escapeCodes, escape_eq_flatMap, Text.codes, List.flatMap_map, List.map_flatMap]
  rfl

end Haml.Html
