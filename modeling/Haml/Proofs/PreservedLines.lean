import Haml.Proofs.AttributeItem
import Haml.Proofs.Interpolation

/-!
# Content lines in one output line

A filter that preserves its content joins the lines and then reads the interpolations of the joined
text, while the other filters read line by line. Most often this is the same: a line that closes
what it opens is read as if it stood alone. But an interpolation that a line leaves open can be
closed by a later line. It then takes in the separators and the lines in between, and the output
is no longer that of the lines.
-/

namespace Haml

open Haml.Bracket (splitBalanced isGroup_splitBalanced)

namespace Fragment

variable {escape : Bool} {t rest : Text}

/-- The fragment with literal text cut into characters. -/
def spell : Fragment → List Fragment
  | literal t => t.map fun c => literal [c]
  | f => [f]

/-- The fragments with literal text cut into characters. -/
def spelled (fragments : List Fragment) : List Fragment := fragments.flatMap spell

/-- Literal text as characters. -/
def letters (t : Text) : List Fragment := t.map fun c => text [c]

/-- Fragments are cut into characters part by part. -/
theorem spelled_append (a b : List Fragment) : spelled (a ++ b) = spelled a ++ spelled b :=
  List.flatMap_append

/-- Fixed text is cut into its characters. -/
theorem spelled_text_cons (t : Text) (fragments : List Fragment) :
    spelled (text t :: fragments) = letters t ++ spelled fragments := by
  rw [spelled, List.flatMap_cons]
  congr 1
  exact List.map_map

/-- Text in front of fragments is cut into its characters, whether or not it joins the first. -/
theorem spelled_prepend (t : Text) (fragments : List Fragment) :
    spelled (prepend t fragments) = letters t ++ spelled fragments := by
  unfold prepend
  split
  · rename_i u rest
    rw [spelled, spelled, List.flatMap_cons, List.flatMap_cons, ← List.append_assoc]
    congr 1
    simp [spell, letters, Text.codes, text]
  · exact spelled_text_cons t _

/-- Literals of one character are output as their text. -/
theorem output_map_literal (values : Nat → RunTimeValue) (t : CodeText) (rest : List Fragment) :
    output values (t.map (fun c => literal [c]) ++ rest) = t ++ output values rest := by
  induction t with
  | nil => rfl
  | cons c t ih => rw [List.map_cons, List.cons_append, output_literal_cons, ih]; rfl

/-- Spelling a line out changes nothing in its output. -/
theorem output_spelled (values : Nat → RunTimeValue) (fragments : List Fragment) :
    output values (spelled fragments) = output values fragments := by
  induction fragments generalizing values with
  | nil => rfl
  | cons f rest ih =>
    rw [spelled, List.flatMap_cons]
    cases f with
    | literal t => rw [spell, output_map_literal, output_literal_cons, ← ih]; rfl
    | _ => exact congrArg (_ ++ ·) (ih _)

/-- Spelling a line out keeps its expressions. -/
theorem filter_isCode_spelled (fragments : List Fragment) :
    (spelled fragments).filter isCode = fragments.filter isCode := by
  induction fragments with
  | nil => rfl
  | cons f rest ih =>
    rw [spelled, List.flatMap_cons, List.filter_append]
    rw [spelled] at ih
    rw [ih]
    cases f with
    | literal t => simp [spell, isCode, List.filter_map]
    | _ => rfl

/-- The starts of interpolations that a text does not close, each as the text from its brace on. -/
def openMarkers (t : Text) : List Text :=
  match t with
  | [] => []
  | '\\' :: '#' :: '\x7b' :: rest => openMarkers rest
  | '#' :: '\x7b' :: rest =>
    if (splitBalanced ('\x7b' :: rest)).group.isEmpty then
      ('\x7b' :: rest) :: openMarkers ('\x7b' :: rest)
    else openMarkers (splitBalanced ('\x7b' :: rest)).rest
  | _ :: rest => openMarkers rest
termination_by t.length
decreasing_by
  all_goals simp only [List.length_cons]
  all_goals have := Bracket.length_rest_le ('\x7b' :: rest)
  all_goals simp only [List.length_cons] at this
  all_goals omega

/-- A text that starts neither with a hash sign nor with a brace, so that it completes no start of
an interpolation. -/
def Apart (rest : Text) : Prop := ∀ c ∈ rest.head?, c ≠ '#' ∧ c ≠ '\x7b'

/-- A text that is apart starts neither with a hash sign nor with a brace. -/
theorem Apart.ne_cons (hrest : Apart rest) {c : Char} (hc : c = '#' ∨ c = '\x7b') (more : Text) :
    rest ≠ c :: more := by
  rintro rfl
  have hapart := hrest c rfl
  exact hc.elim hapart.1 hapart.2

/-- The last case of `interpolate`, with its conditions as the recursion states them. -/
theorem interpolate_cons_of_ne {c : Char}
    (hprotected : ∀ more, c = '\\' → t = '#' :: '\x7b' :: more → False)
    (hstart : ∀ more, c = '#' → t = '\x7b' :: more → False) :
    interpolate escape (c :: t) = prepend [c] (interpolate escape t) :=
  interpolate_cons escape
    (fun more heq => hprotected more (List.cons.inj heq).1 (List.cons.inj heq).2)
    fun more heq => hstart more (List.cons.inj heq).1 (List.cons.inj heq).2

/-- No start of an interpolation arises where a text meets one that is apart. -/
theorem Apart.interpolate_cons (hrest : Apart rest) {c : Char}
    (hprotected : ∀ more, c = '\\' → t = '#' :: '\x7b' :: more → False)
    (hstart : ∀ more, c = '#' → t = '\x7b' :: more → False) :
    interpolate escape (c :: (t ++ rest)) = prepend [c] (interpolate escape (t ++ rest)) := by
  refine interpolate_cons_of_ne (fun more hc hmeet => ?_) fun more hc hmeet => ?_
  · rcases t with _ | ⟨d, _ | ⟨e, t⟩⟩
    · exact hrest.ne_cons (.inl rfl) _ hmeet
    · exact hrest.ne_cons (.inr rfl) _ (List.cons.inj hmeet).2
    · obtain ⟨hd, he⟩ := List.cons.inj hmeet
      exact hprotected t hc (by rw [hd, (List.cons.inj he).1])
  · rcases t with _ | ⟨d, t⟩
    · exact hrest.ne_cons (.inr rfl) _ hmeet
    · exact hstart t hc (by rw [(List.cons.inj hmeet).1])

/-- A closed group stays as it is, whatever follows. -/
theorem splitBalanced_append_of_group (h : (splitBalanced t).group ≠ []) (rest : Text) :
    splitBalanced (t ++ rest) =
      ⟨(splitBalanced t).group, (splitBalanced t).rest ++ rest⟩ := by
  have hgroup := (isGroup_splitBalanced h).splitBalanced_append ((splitBalanced t).rest ++ rest)
  rwa [← List.append_assoc, Bracket.splitBalanced_append] at hgroup

/-- An interpolation that is closed reads as its value and what follows it. -/
theorem interpolate_closed (h : (splitBalanced ('\x7b' :: t)).group ≠ []) :
    interpolate escape ('#' :: '\x7b' :: t) =
      ofValue escape (Text.trim ((splitBalanced ('\x7b' :: t)).group.drop 1).dropLast) ::
        interpolate escape (splitBalanced ('\x7b' :: t)).rest := by
  rw [interpolate, if_neg (by rwa [List.isEmpty_iff])]

/-- One that is not closed reads as a hash sign and the text from the brace on. -/
theorem interpolate_open (h : (splitBalanced ('\x7b' :: t)).group = []) :
    interpolate escape ('#' :: '\x7b' :: t) =
      prepend ['#'] (interpolate escape ('\x7b' :: t)) := by
  rw [interpolate, if_pos (by rw [List.isEmpty_iff, h])]

/-- A value is not cut. -/
theorem spelled_ofValue_cons (escape : Bool) (x : Text) (fragments : List Fragment) :
    spelled (ofValue escape x :: fragments) = ofValue escape x :: spelled fragments := by
  cases escape <;> rfl

/-- A text is read as it stands alone if nothing that it leaves open is closed by what follows. -/
theorem spelled_interpolate_append (hrest : Apart rest)
    (h : ∀ marker ∈ openMarkers t, (splitBalanced (marker ++ rest)).group = []) :
    spelled (interpolate escape (t ++ rest)) =
      spelled (interpolate escape t) ++ spelled (interpolate escape rest) := by
  fun_induction openMarkers t with
  | case1 =>
    rw [interpolate]
    rfl
  | case2 more ih =>
    rw [List.cons_append, List.cons_append, List.cons_append, interpolate, interpolate,
      spelled_prepend, spelled_prepend, ih h, List.append_assoc]
  | case3 more hopen ih =>
    obtain ⟨hmarker, hmore⟩ := List.forall_mem_cons.mp h
    rw [List.cons_append] at hmarker ih
    rw [List.cons_append, List.cons_append, interpolate_open hmarker,
      interpolate_open (List.isEmpty_iff.mp hopen), spelled_prepend, spelled_prepend, ih hmore,
      List.append_assoc]
  | case4 more hclosed ih =>
    rw [List.isEmpty_iff] at hclosed
    have hsplit := splitBalanced_append_of_group hclosed rest
    rw [List.cons_append] at hsplit
    rw [List.cons_append, List.cons_append, interpolate_closed (by rwa [hsplit]),
      interpolate_closed hclosed, hsplit, spelled_ofValue_cons, spelled_ofValue_cons, ih h,
      List.cons_append]
  | case5 c more hprotected hstart ih =>
    rw [List.cons_append, hrest.interpolate_cons hprotected hstart,
      interpolate_cons_of_ne hprotected hstart, spelled_prepend, spelled_prepend, ih h,
      List.append_assoc]

/-- Two lines of output are the same up to a point where the first has an expression and the second
a hash sign. -/
def Parts (escape : Bool) (joined alone : List Fragment) : Prop :=
  ∃ before x after more, joined = before ++ ofValue escape x :: after ∧
    alone = before ++ text ['#'] :: more

/-- Two lines that part do so after any common front. -/
theorem Parts.append_left {joined alone : List Fragment} (h : Parts escape joined alone)
    (front : List Fragment) : Parts escape (front ++ joined) (front ++ alone) := by
  obtain ⟨before, x, after, more, rfl, rfl⟩ := h
  exact ⟨front ++ before, x, after, more, (List.append_assoc ..).symm,
    (List.append_assoc ..).symm⟩

/-- Two lines that part do so whatever ends the second. -/
theorem Parts.append_right {joined alone : List Fragment} (h : Parts escape joined alone)
    (back : List Fragment) : Parts escape joined (alone ++ back) := by
  obtain ⟨before, x, after, more, rfl, rfl⟩ := h
  exact ⟨before, x, after, more ++ back, rfl, List.append_assoc ..⟩

/-- A value that shows no hash sign tells such lines apart. -/
theorem Parts.output_ne {joined alone : List Fragment} (h : Parts escape joined alone) :
    ∃ values, output values joined ≠ output values alone := by
  obtain ⟨before, x, after, more, rfl, rfl⟩ := h
  refine ⟨fun _ => ⟨false, Text.codes ['x']⟩, fun heq => ?_⟩
  rw [output_append, output_append, List.append_cancel_left_eq] at heq
  cases escape
  · exact absurd (List.cons.inj heq).1 (by decide)
  · exact absurd (List.cons.inj heq).1 (by decide)

/-- What follows can close what a text leaves open. An expression then stands where the text alone
has a hash sign. The start at hand may be closed as well, and then it is the first to differ. -/
theorem parts_interpolate_append (hrest : Apart rest) {marker : Text}
    (hmem : marker ∈ openMarkers t) (h : (splitBalanced (marker ++ rest)).group ≠ []) :
    Parts escape (spelled (interpolate escape (t ++ rest))) (spelled (interpolate escape t)) := by
  fun_induction openMarkers t with
  | case1 => cases hmem
  | case2 more ih =>
    rw [List.cons_append, List.cons_append, List.cons_append, interpolate, interpolate,
      spelled_prepend, spelled_prepend]
    exact (ih hmem).append_left _
  | case3 more hopen ih =>
    rw [List.isEmpty_iff] at hopen
    rw [List.cons_append] at ih
    rw [List.cons_append, List.cons_append, interpolate_open hopen, spelled_prepend]
    by_cases hhere : (splitBalanced ('\x7b' :: (more ++ rest))).group = []
    · rw [interpolate_open hhere, spelled_prepend]
      obtain rfl | hmem := List.mem_cons.mp hmem
      · exact absurd hhere h
      · exact (ih hmem).append_left _
    · rw [interpolate_closed hhere, spelled_ofValue_cons]
      exact ⟨[], _, _, _, rfl, rfl⟩
  | case4 more hclosed ih =>
    rw [List.isEmpty_iff] at hclosed
    have hsplit := splitBalanced_append_of_group hclosed rest
    rw [List.cons_append] at hsplit
    rw [List.cons_append, List.cons_append, interpolate_closed (by rwa [hsplit]),
      interpolate_closed hclosed, hsplit, spelled_ofValue_cons, spelled_ofValue_cons]
    exact (ih hmem).append_left [_]
  | case5 c more hprotected hstart ih =>
    rw [List.cons_append, hrest.interpolate_cons hprotected hstart,
      interpolate_cons_of_ne hprotected hstart, spelled_prepend, spelled_prepend]
    exact (ih hmem).append_left _

/-- Text without a hash sign or a backslash reads as itself. -/
theorem spelled_interpolate_inert (hprotected : '\\' ∉ t) (hstart : '#' ∉ t) (rest : Text) :
    spelled (interpolate escape (t ++ rest)) = letters t ++ spelled (interpolate escape rest) := by
  induction t with
  | nil => rfl
  | cons c t ih =>
    rw [List.mem_cons, not_or] at hprotected hstart
    rw [List.cons_append, interpolate_cons_of_ne (fun _ hc _ => hprotected.1 hc.symm)
      (fun _ hc _ => hstart.1 hc.symm), spelled_prepend, ih hprotected.2 hstart.2]
    rfl

end Fragment

namespace FilterText

open Fragment (interpolate spelled letters openMarkers Apart Parts output isCode)

/-- A line as it reads on its own. -/
def fragments (line : FilterText) : List Fragment :=
  .text (List.replicate line.indent ' ') :: interpolate false line.text

/-- The lines as they read one by one. -/
def lineByLine (lines : List FilterText) : List Fragment :=
  List.intercalate [.text separator] (lines.map fragments)

/-- Some line leaves an interpolation open that the text after it closes. -/
inductive ClosedLater : List FilterText → Prop
  | here {line next : FilterText} {more : List FilterText} {marker : Text}
      (hmem : marker ∈ openMarkers line.text)
      (hclosed : (splitBalanced (marker ++ (separator ++ preserved (next :: more)))).group ≠ []) :
      ClosedLater (line :: next :: more)
  | later {line : FilterText} {lines : List FilterText} (h : ClosedLater lines) :
      ClosedLater (line :: lines)

variable {line next : FilterText} {more lines : List FilterText}

/-- Preserved lines have a separator between them. -/
theorem preserved_cons_cons (line next : FilterText) (more : List FilterText) :
    preserved (line :: next :: more) =
      line.indented ++ (separator ++ preserved (next :: more)) := by
  rw [preserved, List.map_cons, List.map_cons, List.intercalate_cons_cons, List.append_assoc]
  rfl

/-- A line alone is cut into its indentation and its text. -/
theorem spelled_fragments (line : FilterText) :
    spelled line.fragments =
      letters (List.replicate line.indent ' ') ++ spelled (interpolate false line.text) :=
  Fragment.spelled_text_cons ..

/-- Lines that are read one by one have a separator between them. -/
theorem spelled_lineByLine_cons_cons (line next : FilterText) (more : List FilterText) :
    spelled (lineByLine (line :: next :: more)) =
      spelled line.fragments ++ (letters separator ++ spelled (lineByLine (next :: more))) := by
  have hjoin : lineByLine (line :: next :: more) =
      line.fragments ++ .text separator :: lineByLine (next :: more) := by
    rw [lineByLine, List.map_cons, List.map_cons, List.intercalate_cons_cons, List.append_assoc]
    rfl
  rw [hjoin, Fragment.spelled_append, Fragment.spelled_text_cons]

/-- The indentation of a line is read as it is. -/
theorem spelled_interpolate_indented (line : FilterText) (rest : Text) :
    spelled (interpolate false (line.indented ++ rest)) =
      letters (List.replicate line.indent ' ') ++
        spelled (interpolate false (line.text ++ rest)) := by
  have hspace (c : Char) (hc : c ≠ ' ') : c ∉ List.replicate line.indent ' ' :=
    fun hmem => hc (List.eq_of_mem_replicate hmem)
  rw [indented, List.append_assoc,
    Fragment.spelled_interpolate_inert (hspace _ (by decide)) (hspace _ (by decide))]

/-- So is the separator: its hash sign starts nothing. -/
theorem spelled_interpolate_separator (rest : Text) :
    spelled (interpolate false (separator ++ rest)) =
      letters separator ++ spelled (interpolate false rest) := by
  have hsplit : separator ++ rest = ['&'] ++ '#' :: ("x000A;".toList ++ rest) := rfl
  have hhash : interpolate false ('#' :: ("x000A;".toList ++ rest)) =
      Fragment.prepend ['#'] (interpolate false ("x000A;".toList ++ rest)) :=
    Fragment.interpolate_cons_of_ne (fun _ hc _ => absurd hc (by decide))
      fun _ _ hmore => absurd (List.cons.inj hmore).1 (by decide)
  rw [hsplit, Fragment.spelled_interpolate_inert (by decide) (by decide), hhash,
    Fragment.spelled_prepend, Fragment.spelled_interpolate_inert (by decide) (by decide)]
  rfl

/-- A separator completes no start of an interpolation. -/
theorem apart_separator (rest : Text) : Apart (separator ++ rest) := by
  rintro c ⟨⟩
  decide

/-- A line of which nothing is closed later is read on its own. -/
theorem spelled_preserved_cons_cons
    (hopen : ∀ marker ∈ openMarkers line.text,
      (splitBalanced (marker ++ (separator ++ preserved (next :: more)))).group = []) :
    spelled (interpolate false (preserved (line :: next :: more))) =
      spelled line.fragments ++
        (letters separator ++ spelled (interpolate false (preserved (next :: more)))) := by
  rw [preserved_cons_cons, spelled_interpolate_indented,
    Fragment.spelled_interpolate_append (apart_separator _) hopen, spelled_interpolate_separator,
    spelled_fragments, List.append_assoc]

/-- One of which something is closed later is not. -/
theorem parts_preserved_cons_cons {marker : Text} (hmem : marker ∈ openMarkers line.text)
    (hclosed : (splitBalanced (marker ++ (separator ++ preserved (next :: more)))).group ≠ []) :
    Parts false (spelled (interpolate false (preserved (line :: next :: more))))
      (spelled (lineByLine (line :: next :: more))) := by
  rw [preserved_cons_cons, spelled_interpolate_indented, spelled_lineByLine_cons_cons,
    spelled_fragments, List.append_assoc]
  have hparts : Parts false _ _ :=
    Fragment.parts_interpolate_append (apart_separator _) hmem hclosed
  exact (hparts.append_right _).append_left _

/-- Lines that close what they open are read one by one. -/
theorem spelled_preserved (h : ¬ClosedLater lines) :
    spelled (interpolate false (preserved lines)) = spelled (lineByLine lines) := by
  induction lines with
  | nil =>
    rw [show preserved [] = [] from rfl, interpolate]
    rfl
  | cons line lines ih =>
    cases lines with
    | nil =>
      have hline := spelled_interpolate_indented line []
      rw [List.append_nil, List.append_nil, ← spelled_fragments] at hline
      rwa [preserved, lineByLine, List.map_singleton, List.map_singleton,
        List.intercalate_singleton, List.intercalate_singleton]
    | cons next more =>
      have hopen : ∀ marker ∈ openMarkers line.text,
          (splitBalanced (marker ++ (separator ++ preserved (next :: more)))).group = [] :=
        fun marker hmem => Classical.byContradiction fun hclosed => h (.here hmem hclosed)
      rw [spelled_preserved_cons_cons hopen, ih fun hlater => h (.later hlater),
        spelled_lineByLine_cons_cons]

/-- Lines of which one closes what an earlier one opens are not. -/
theorem ClosedLater.parts (h : ClosedLater lines) :
    Parts false (spelled (interpolate false (preserved lines))) (spelled (lineByLine lines)) := by
  induction h with
  | here hmem hclosed => exact parts_preserved_cons_cons hmem hclosed
  | @later line lines h ih =>
    obtain ⟨next, more, rfl⟩ : ∃ next more, lines = next :: more := by
      cases h <;> exact ⟨_, _, rfl⟩
    by_cases hopen : ∀ marker ∈ openMarkers line.text,
        (splitBalanced (marker ++ (separator ++ preserved (next :: more)))).group = []
    · rw [spelled_preserved_cons_cons hopen, spelled_lineByLine_cons_cons]
      exact (ih.append_left _).append_left _
    · obtain ⟨marker, hmarker⟩ := not_forall.mp hopen
      obtain ⟨hmem, hclosed⟩ := Classical.not_imp.mp hmarker
      exact parts_preserved_cons_cons hmem hclosed

end FilterText

namespace FilterKind

open FilterText (preserved lineByLine ClosedLater spelled_preserved)
open Fragment (spelled Parts output isCode interpolate)

/-- The line of a filter that preserves its content, cut into characters. -/
theorem spelled_margin_preserved (node : Node) {lines : List FilterText}
    (h : ¬ClosedLater lines) :
    spelled (.text (node.margin 0) :: interpolate false (preserved lines)) =
      spelled (.text (node.margin 0) :: lineByLine lines) := by
  rw [Fragment.spelled_text_cons, Fragment.spelled_text_cons, spelled_preserved h]

/-- Lines of which one closes what an earlier one opens part from the lines read one by one, behind
their margin too. -/
theorem parts_margin_preserved (node : Node) {lines : List FilterText} (h : ClosedLater lines) :
    Parts false (spelled (.text (node.margin 0) :: interpolate false (preserved lines)))
      (spelled (.text (node.margin 0) :: lineByLine lines)) := by
  rw [Fragment.spelled_text_cons, Fragment.spelled_text_cons]
  exact h.parts.append_left _

/-- A line that is not blank is put out with its indentation and as it reads on its own. -/
theorem exists_contentStatement (node : Node) (line : FilterText) :
    ∃ shown, contentStatement node 0 false line = node.push shown ∧
      ∀ values, output values shown =
        if line.text = [] then []
        else Text.codes (node.margin 0) ++ output values line.fragments := by
  by_cases hblank : line.text = []
  · refine ⟨[], ?_, fun values => ?_⟩
    · rw [contentStatement, if_pos (List.isEmpty_iff.mpr hblank)]
    · rw [if_pos hblank]
      rfl
  · refine ⟨.text (node.margin 0 ++ List.replicate line.indent ' ') ::
      interpolate false line.text, ?_, fun values => ?_⟩
    · rw [contentStatement, if_neg (fun h => hblank (List.isEmpty_iff.mp h))]
      rfl
    · rw [if_neg hblank, FilterText.fragments, Fragment.output_text_cons,
        Fragment.output_text_cons, Text.codes, List.map_append, List.append_assoc]
      rfl

/-- A filter that preserves its content puts out one line. It is the lines of the content, each as
it reads on its own and as plain content shows it, with separators in between. This holds exactly
if no line closes an interpolation that an earlier one leaves open: else an expression takes in
what stands from the one line to the other, where the lines on their own show a hash sign. -/
theorem statements_preserve (format : Format) (node : Node) (lines : List FilterText) :
    ∃ fragments, statements format node lines .preserve = [node.push fragments] ∧
      ((∀ values, output values fragments =
          Text.codes (node.margin 0) ++ output values (lineByLine lines)) ↔ ¬ClosedLater lines) ∧
      (¬ClosedLater lines → fragments.filter isCode = (lineByLine lines).filter isCode) ∧
      (ClosedLater lines →
        Parts false (spelled fragments) (spelled (.text (node.margin 0) :: lineByLine lines))) ∧
      ∀ line ∈ lines, ∃ shown, statements format node [line] .plain = [node.push shown] ∧
        ∀ values, output values shown =
          if line.text = [] then []
          else Text.codes (node.margin 0) ++ output values line.fragments := by
  refine ⟨.text (node.margin 0) :: interpolate false (preserved lines), rfl,
    ⟨fun hsame hlater => ?_, fun hopen values => ?_⟩, fun hopen => ?_,
    parts_margin_preserved node, fun line _ => ?_⟩
  · obtain ⟨values, hne⟩ := (parts_margin_preserved node hlater).output_ne
    rw [Fragment.output_spelled, Fragment.output_spelled] at hne
    exact hne (hsame values)
  · rw [← Fragment.output_spelled, spelled_margin_preserved node hopen, Fragment.output_spelled]
    rfl
  · rw [← Fragment.filter_isCode_spelled, spelled_margin_preserved node hopen,
      Fragment.filter_isCode_spelled]
    rfl
  · obtain ⟨shown, hshown, houtput⟩ := exists_contentStatement node line
    exact ⟨shown, congrArg ([·]) hshown, houtput⟩

/-- The brace of the second line closes what the first one opens. -/
example : interpolate false (preserved [⟨0, "#\x7ba".toList⟩, ⟨0, "b\x7d".toList⟩]) =
    [.plain "a&#x000A;b".toList] := by
  decide +kernel

end FilterKind

end Haml
