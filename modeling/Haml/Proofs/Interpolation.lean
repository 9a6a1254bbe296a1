import Haml.Proofs.BracketScan
import Haml.Proofs.Verbatim

/-!
# Interpolated text written and read back

A text with interpolations is written from its segments: literal text, in which every start of an
interpolation is protected, and expressions in braces. Reading the text gives one fragment for each
segment. A literal text is read to its end because no interpolation starts where it meets the next
segment, and an expression because the end of a group does not depend on what follows it.
-/

namespace Haml

/-- A segment of a text with interpolations. -/
inductive Segment where
  | literal (t : Text)
  | value (x : Text)
deriving DecidableEq, Repr

namespace Segment

/-- The segment as it is written. -/
def written : Segment → Text
  | literal t => t.protect
  | value x => '#' :: ('\x7b' :: x ++ ['\x7d'])

/-- The fragment that a segment stands for. -/
def fragment (escape : Bool) : Segment → Fragment
  | literal t => .text t
  | value x => .ofValue escape (Text.trim x)

/-- Whether the segment is an expression, and the text or the source of the expression. -/
def source (escape : Bool) : Segment → Bool × CodeText
  | literal t => (false, Text.codes t)
  | value x =>
    (true, Text.codes ((if escape then "e(".toList else "str(".toList) ++ Text.trim x ++ [')']))

/-- A literal text has a character, and an expression is the whole group when it is put into
braces. -/
def IsValid : Segment → Prop
  | literal t => t ≠ []
  | value x =>
    Bracket.splitBalanced ('\x7b' :: x ++ ['\x7d']) = ⟨'\x7b' :: x ++ ['\x7d'], []⟩

instance : DecidablePred IsValid := fun segment =>
  match segment with
  | literal t => inferInstanceAs (Decidable (t ≠ []))
  | value x => inferInstanceAs (Decidable (Bracket.splitBalanced ('\x7b' :: x ++ ['\x7d']) =
      ⟨'\x7b' :: x ++ ['\x7d'], []⟩))

/-- Two segments that can stand next to each other: two literal texts would be one, and a backslash
before an expression would protect it. -/
def MayPrecede : Segment → Segment → Prop
  | literal _, literal _ => False
  | literal t, value _ => t.getLast? ≠ some '\\'
  | value _, _ => True

instance : DecidableRel MayPrecede := fun first second =>
  match first, second with
  | literal _, literal _ => inferInstanceAs (Decidable False)
  | literal t, value _ => inferInstanceAs (Decidable (t.getLast? ≠ some '\\'))
  | value _, _ => inferInstanceAs (Decidable True)

/-- Segments that can be told apart in the text. -/
structure Legible (segments : List Segment) : Prop where
  /-- Each of them is valid. -/
  valid : ∀ segment ∈ segments, segment.IsValid
  /-- Each can come before the next. -/
  apart : segments.IsChain MayPrecede

/-- The fragment of a segment has its source. -/
theorem source_fragment (escape : Bool) (segment : Segment) :
    ((segment.fragment escape).isCode, (segment.fragment escape).source) =
      segment.source escape := by
  cases segment with
  | literal t => rfl
  | value x => cases escape <;> rfl

end Segment

namespace Fragment

/-- Two texts are put in front of fragments as one. -/
theorem prepend_prepend {a b : Text} {fragments : List Fragment} :
    prepend a (prepend b fragments) = prepend (a ++ b) fragments := by
  have hcodes : Text.codes (a ++ b) = Text.codes a ++ Text.codes b := List.map_append
  cases fragments with
  | nil => simp [prepend, text, hcodes]
  | cons f rest => cases f <;> simp [prepend, text, hcodes]

/-- No interpolation starts where a protected text meets what follows it. -/
theorem protect_append_ne {t rest : Text} (ht : t ≠ []) (hrest : ∀ c ∈ rest.head?, c = '#')
    (more : Text) : t.protect ++ rest ≠ '#' :: '\x7b' :: more := by
  intro h
  cases hp : t.protect with
  | nil =>
    have hlast := Text.getLast?_protect t
    rw [hp] at hlast
    exact ht (List.getLast?_eq_none_iff.mp hlast.symm)
  | cons c p =>
    rw [hp, List.cons_append] at h
    obtain ⟨rfl, hmeet⟩ := List.cons.inj h
    cases p with
    | nil => exact absurd (hrest '\x7b' (by rw [← List.nil_append rest, hmeet]; rfl)) (by decide)
    | cons d p =>
      obtain ⟨rfl, -⟩ := List.cons.inj hmeet
      exact Text.protect_ne t p hp

/-- A protected text is read as literal text up to its end. -/
theorem interpolate_protect_append (escape : Bool) {t rest : Text} (ht : t ≠ [])
    (hrest : ∀ c ∈ rest.head?, c = '#') (hlast : t.getLast? = some '\\' → rest = []) :
    interpolate escape (t.protect ++ rest) = prepend t (interpolate escape rest) := by
  fun_induction Text.protect t with
  | case1 => exact absurd rfl ht
  | case2 more ih =>
    rw [List.cons_append, List.cons_append, List.cons_append, interpolate]
    cases more with
    | nil => rfl
    | cons d more =>
      rw [ih (List.cons_ne_nil _ _) hlast, prepend_prepend]
      rfl
  | case3 c more hstart ih =>
    have hplain : interpolate escape (c :: (Text.protect more ++ rest)) =
        prepend [c] (interpolate escape (Text.protect more ++ rest)) := by
      refine interpolate_cons escape (fun after heq => ?_) fun after heq => ?_
      · obtain ⟨rfl, hmeet⟩ := List.cons.inj heq
        cases more with
        | nil =>
          rw [hlast rfl] at hmeet
          cases hmeet
        | cons d more => exact protect_append_ne (List.cons_ne_nil _ _) hrest after hmeet
      · obtain ⟨rfl, hmeet⟩ := List.cons.inj heq
        cases hp : Text.protect more with
        | nil =>
          rw [hp, List.nil_append] at hmeet
          exact absurd (hrest '\x7b' (by rw [hmeet]; rfl)) (by decide)
        | cons d p =>
          rw [hp] at hmeet
          obtain ⟨rfl, -⟩ := List.cons.inj hmeet
          obtain ⟨after, rfl⟩ := Text.exists_of_protect_eq_brace hp
          exact hstart after rfl rfl
    rw [List.cons_append, hplain]
    cases more with
    | nil => rfl
    | cons d more => rw [ih (List.cons_ne_nil _ _) hlast, prepend_prepend]; rfl

/-- An expression is read up to its closing brace, whatever follows. -/
theorem interpolate_value (escape : Bool) {x : Text} (h : (Segment.value x).IsValid) (rest : Text) :
    interpolate escape ((Segment.value x).written ++ rest) =
      (Segment.value x).fragment escape :: interpolate escape rest := by
  have hgroup : Bracket.IsGroup ('\x7b' :: x ++ ['\x7d']) := by
    have hfound := Bracket.isGroup_splitBalanced (t := '\x7b' :: x ++ ['\x7d'])
    rw [h] at hfound
    exact hfound (List.cons_ne_nil _ _)
  have hsplit := hgroup.splitBalanced_append rest
  rw [List.cons_append, List.cons_append] at hsplit
  rw [Segment.written, List.cons_append, List.cons_append, List.cons_append, interpolate, hsplit]
  simp [Segment.fragment]

/-- A text that is written from segments is read as one fragment for each of them, in order: literal
text for a literal segment, and the escaped or plain value of the expression without the blanks
around it. -/
theorem interpolate_written (escape : Bool) {segments : List Segment}
    (h : Segment.Legible segments) :
    interpolate escape (segments.flatMap Segment.written) =
        segments.map (Segment.fragment escape) ∧
      (interpolate escape (segments.flatMap Segment.written)).map
          (fun f => (f.isCode, f.source)) = segments.map (Segment.source escape) := by
  suffices hread : interpolate escape (segments.flatMap Segment.written) =
      segments.map (Segment.fragment escape) by
    refine ⟨hread, ?_⟩
    rw [hread, List.map_map]
    exact List.map_congr_left fun segment _ => segment.source_fragment escape
  obtain ⟨hvalid, hapart⟩ := h
  induction segments with
  | nil => rw [List.flatMap_nil, interpolate]; rfl
  | cons segment more ih =>
    obtain ⟨hsegment, hmore⟩ := List.forall_mem_cons.mp hvalid
    have hread := ih hmore hapart.tail
    rw [List.flatMap_cons, List.map_cons]
    cases segment with
    | value x => rw [interpolate_value escape hsegment, hread]
    | literal t =>
      cases more with
      | nil =>
        have hne : ¬t.isEmpty = true := by simpa [Segment.IsValid] using hsegment
        rw [List.flatMap_nil, List.append_nil, Segment.written, interpolate_protect, if_neg hne]
        rfl
      | cons next more =>
        have hnext := (List.isChain_cons_cons.mp hapart).1
        cases next with
        | literal u => exact hnext.elim
        | value x =>
          have hstart : ∀ c ∈ ((Segment.value x :: more).flatMap Segment.written).head?,
              c = '#' := by
            intro c hc
            exact (Option.some.inj hc).symm
          rw [Segment.written, interpolate_protect_append escape hsegment hstart
            fun hlast => absurd hlast hnext, hread, List.map_cons]
          cases escape <;> rfl

/-- Segments with marks, braces, quotes and backslashes where they do not count. -/
def markedSegments : List Segment :=
  [.literal "\\\\#\x7b a#".toList, .value " f(\x7b'\x7d': x\x7d) ".toList, .value [],
    .literal "\x7b\"#\x7b\\".toList]

/-- Segments with marks, backslashes and brackets of all kinds are read back. -/
theorem interpolate_written_marked :
    Segment.Legible markedSegments ∧
      markedSegments.flatMap Segment.written =
        "\\\\\\#\x7b a##\x7b f(\x7b'\x7d': x\x7d) \x7d#\x7b\x7d\x7b\"\\#\x7b\\".toList ∧
      interpolate true (markedSegments.flatMap Segment.written) =
        [.text "\\\\#\x7b a#".toList, .escaped "f(\x7b'\x7d': x\x7d)".toList, .escaped [],
          .text "\x7b\"#\x7b\\".toList] := by
  have hlegible : Segment.Legible markedSegments := by
    have hvalid : markedSegments.all (fun segment => decide segment.IsValid) = true := by
      decide +kernel
    exact ⟨fun segment hs => of_decide_eq_true (List.all_eq_true.mp hvalid segment hs),
      by decide +kernel⟩
  exact ⟨hlegible, by decide +kernel,
    (interpolate_written true hlegible).1.trans (by decide +kernel)⟩

end Fragment

end Haml
