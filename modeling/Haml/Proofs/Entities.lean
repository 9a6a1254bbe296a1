import Haml.Proofs.AttributeItem

/-!
# Escaping as a map of characters

Escaping replaces four characters one after the other, and each replacement runs over the entities
that the ones before have put in. As the ampersand comes first, no entity is changed again, and the
four together send each character to its own text. So escaping goes piece by piece, and a single
pass from left to right undoes it. The texts that it can give are those without a delimiter in which
every ampersand starts an entity: on them the pass is undone by escaping in turn.
-/

namespace Haml.Html

variable {t u v : CodeText}

/-- Every occurrence of a character replaced by a text, in the text of a value. -/
def replaceCode (c : Char) (replacement : Text) (t : CodeText) : CodeText :=
  t.flatMap fun d => if d == .char c then Text.codes replacement else [d]

/-- The four replacements one after the other, in the text of a value. -/
def escapeInTurn (t : CodeText) : CodeText :=
  replaceCode '"' "&quot;".toList
    (replaceCode '>' "&gt;".toList
      (replaceCode '<' "&lt;".toList (replaceCode '&' "&amp;".toList t)))

/-- A text is escaped code point by code point. -/
theorem escapeCodes_cons (point : CodePoint) (t : CodeText) :
    escapeCodes (point :: t) = codeEntity point ++ escapeCodes t := List.flatMap_cons

/-- A character is replaced part by part. -/
theorem replaceCode_append (c : Char) (r : Text) (s t : CodeText) :
    replaceCode c r (s ++ t) = replaceCode c r s ++ replaceCode c r t := List.flatMap_append

/-- Among characters, code points are replaced as the characters are. -/
theorem replaceCode_codes (c : Char) (r t : Text) :
    replaceCode c r (Text.codes t) = Text.codes (replaceChar c r t) := by
  simp only [replaceCode, replaceChar, Text.codes, List.flatMap_map, List.map_flatMap]
  congr 1
  funext d
  by_cases h : d = c <;> simp [h]

/-- Texts are escaped part by part when the characters are replaced in turn. -/
theorem escapeInTurn_append (s t : CodeText) :
    escapeInTurn (s ++ t) = escapeInTurn s ++ escapeInTurn t := by
  simp only [escapeInTurn, replaceCode_append]

/-- The code points of a text are escaped in turn as its characters are. -/
theorem escapeInTurn_codes (t : Text) : escapeInTurn (Text.codes t) = Text.codes (escape t) := by
  simp only [escapeInTurn, replaceCode_codes, escape]

/-- A single code point is escaped in turn to its entity: what an earlier replacement wrote is not
replaced again. -/
theorem escapeInTurn_singleton (point : CodePoint) : escapeInTurn [point] = codeEntity point := by
  cases point with
  | char c => exact (escapeInTurn_codes [c]).trans (congrArg Text.codes (escape_singleton c))
  | surrogate offset => rfl

/-- No replacement touches what another one has put in. -/
theorem escapeInTurn_eq_escapeCodes (t : CodeText) : escapeInTurn t = escapeCodes t := by
  induction t with
  | nil => rfl
  | cons point t ih =>
    rw [← List.singleton_append, escapeInTurn_append, escapeInTurn_singleton, ih]
    exact (escapeCodes_cons point t).symm

/-- The entities of the four characters. -/
def entities : List Text := ["&amp;".toList, "&lt;".toList, "&gt;".toList, "&quot;".toList]

/-- There is no delimiter in the text, and every ampersand starts an entity. -/
structure IsEscaped (u : CodeText) : Prop where
  /-- Delimiters are written as entities. -/
  delimiters : ∀ c ∈ u, isDelimiter c = false
  /-- An ampersand is the first character of an entity. -/
  ampersands : ∀ before rest, u = before ++ .char '&' :: rest →
    ∃ e ∈ entities, Text.codes e <+: .char '&' :: rest

/-- An entity starts with its only ampersand, and the pass that undoes escaping reads it as one
character. -/
theorem of_mem_entities {e : Text} (h : e ∈ entities) :
    ∃ c name, e = '&' :: name ∧ '&' ∉ name ∧ entity c = e ∧
      ∀ rest, unescape (Text.codes e ++ rest) = .char c :: unescape rest := by
  simp only [entities, List.mem_cons, List.not_mem_nil, or_false] at h
  obtain rfl | rfl | rfl | rfl := h
  · exact ⟨'&', "amp;".toList, rfl, by decide, rfl, fun _ => rfl⟩
  · exact ⟨'<', "lt;".toList, rfl, by decide, rfl, fun _ => rfl⟩
  · exact ⟨'>', "gt;".toList, rfl, by decide, rfl, fun _ => rfl⟩
  · exact ⟨'"', "quot;".toList, rfl, by decide, rfl, fun _ => rfl⟩

/-- A code point is written as an entity, or as itself if it is none of the four characters. -/
theorem codeEntity_cases (point : CodePoint) :
    (∃ e ∈ entities, codeEntity point = Text.codes e) ∧
        (point = .char '&' ∨ isDelimiter point = true) ∨
      codeEntity point = [point] ∧ point ≠ .char '&' := by
  cases point with
  | surrogate offset => exact .inr ⟨rfl, by simp⟩
  | char c =>
    rw [codeEntity, entity]
    split_ifs with hamp hless hgreater hquote
    · exact .inl ⟨⟨_, by simp [entities], rfl⟩, .inl (congrArg _ (eq_of_beq hamp))⟩
    · exact .inl ⟨⟨_, by simp [entities], rfl⟩, .inr (by simp_all [isDelimiter])⟩
    · exact .inl ⟨⟨_, by simp [entities], rfl⟩, .inr (by simp_all [isDelimiter])⟩
    · exact .inl ⟨⟨_, by simp [entities], rfl⟩, .inr (by simp_all [isDelimiter])⟩
    · exact .inr ⟨rfl, by simpa using hamp⟩

namespace IsEscaped

/-- The empty text is escaped. -/
theorem nil : IsEscaped [] := ⟨List.forall_mem_nil _, fun before rest h => by simp at h⟩

/-- What follows in an escaped text is escaped. -/
theorem of_append (h : IsEscaped (u ++ v)) : IsEscaped v :=
  ⟨fun c hc => h.delimiters c (List.mem_append_right _ hc), fun before rest hv =>
    h.ampersands (u ++ before) rest (by rw [hv, List.append_assoc])⟩

/-- One more code point is written in front of an escaped text. The only ampersand of an entity is
its first character. -/
theorem codeEntity_append (point : CodePoint) (h : IsEscaped v) :
    IsEscaped (codeEntity point ++ v) := by
  have hdelimiters : ∀ c ∈ codeEntity point, isDelimiter c = false := by
    intro c hc
    have hnone := filter_escapeCodes [point]
    rw [escapeCodes, List.flatMap_singleton, List.filter_eq_nil_iff] at hnone
    simpa using hnone c hc
  refine ⟨fun c hc => (List.mem_append.mp hc).elim (hdelimiters c) (h.delimiters c), ?_⟩
  intro before rest heq
  obtain ⟨⟨e, he, hcode⟩, -⟩ | ⟨hcode, hamp⟩ := codeEntity_cases point
  · obtain ⟨c, name, rfl, hname, -⟩ := of_mem_entities he
    rw [hcode] at heq
    cases before with
    | nil =>
      refine ⟨_, he, ?_⟩
      rw [← List.nil_append (CodePoint.char '&' :: rest), ← heq]
      exact List.prefix_append _ _
    | cons first before =>
      have htail : Text.codes name ++ v = before ++ .char '&' :: rest := (List.cons.inj heq).2
      obtain ⟨more, rfl, hv⟩ | ⟨more, hmore, hrest⟩ := List.append_eq_append_iff.mp htail
      · exact h.ampersands more rest hv
      · cases more with
        | nil => exact h.ampersands [] rest hrest.symm
        | cons d more =>
          obtain ⟨rfl, -⟩ := List.cons.inj hrest
          have hmem : CodePoint.char '&' ∈ Text.codes name := by rw [hmore]; simp
          obtain ⟨d, hd, hamp⟩ := List.mem_map.mp hmem
          obtain rfl := CodePoint.char.inj hamp
          exact absurd hd hname
  · rw [hcode] at heq
    cases before with
    | nil => exact absurd (List.cons.inj heq).1 hamp
    | cons first before => exact h.ampersands before rest (List.cons.inj heq).2

end IsEscaped

/-- What escaping gives is escaped. -/
theorem isEscaped_escapeCodes (t : CodeText) : IsEscaped (escapeCodes t) := by
  induction t with
  | nil => exact .nil
  | cons point t ih =>
    rw [escapeCodes_cons]
    exact ih.codeEntity_append point

/-- In an escaped text, undoing the entities is undone by escaping. The text is read from the left,
an entity or a single code point at a time. -/
theorem escapeCodes_unescape (h : IsEscaped u) : escapeCodes (unescape u) = u := by
  induction hn : u.length using Nat.strongRecOn generalizing u with
  | ind n ih =>
    cases u with
    | nil => rfl
    | cons point rest =>
      by_cases hamp : point = .char '&'
      · subst hamp
        obtain ⟨e, he, v, hv⟩ := h.ampersands [] rest rfl
        obtain ⟨c, name, rfl, -, hentity, hread⟩ := of_mem_entities he
        rw [← hv] at h hn ⊢
        have hlength : v.length < n := by
          rw [← hn, List.length_append]
          simp [Text.codes]
        rw [hread, escapeCodes_cons, ih _ hlength h.of_append rfl, codeEntity, hentity]
      · have hrest : IsEscaped rest := IsEscaped.of_append (u := [point]) h
        have hlength : rest.length < n := by simp [← hn]
        have hcode : codeEntity point = [point] := by
          obtain ⟨-, hpoint⟩ | ⟨hcode, -⟩ := codeEntity_cases point
          · have hplain := h.delimiters point List.mem_cons_self
            exact absurd hpoint (by simp [hamp, hplain])
          · exact hcode
        rw [unescape_cons hamp, escapeCodes_cons, ih _ hlength hrest rfl, hcode,
          List.singleton_append]

/-- Escaping is a map of characters that can be undone. The four replacements in turn, in a text and
in the text of a value, are the one map that sends the four characters to their entities and leaves
all others. So escaping goes piece by piece, its result has no delimiter and an ampersand only where
an entity starts, and one pass from left to right gives the text back. Every text of that form is
the escaped form of what the pass makes of it, and no other text is. -/
theorem escape_invertible :
    (∀ s t : Text, escape t = t.flatMap entity ∧ escape (s ++ t) = escape s ++ escape t ∧
      IsEscaped (Text.codes (escape t)) ∧ unescape (Text.codes (escape t)) = Text.codes t) ∧
    (∀ s t : CodeText, escapeInTurn t = t.flatMap codeEntity ∧ escapeCodes t = escapeInTurn t ∧
      escapeCodes (s ++ t) = escapeCodes s ++ escapeCodes t ∧
      IsEscaped (escapeCodes t) ∧ unescape (escapeCodes t) = t) ∧
    ∀ u : CodeText, IsEscaped u ↔ escapeCodes (unescape u) = u := by
  refine ⟨fun s t => ⟨escape_eq_flatMap t, escape_append s t, ?_, ?_⟩, fun s t =>
    ⟨escapeInTurn_eq_escapeCodes t, (escapeInTurn_eq_escapeCodes t).symm, escapeCodes_append s t,
      isEscaped_escapeCodes t, unescape_escapeCodes t⟩,
    fun u => ⟨escapeCodes_unescape, fun h => ?_⟩⟩
  · rw [← escapeCodes_codes]
    exact isEscaped_escapeCodes _
  · rw [← escapeCodes_codes]
    exact unescape_escapeCodes _
  · rw [← h]
    exact isEscaped_escapeCodes _

end Haml.Html
