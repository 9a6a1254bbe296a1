import Haml.Text.Blank

/-!
# Bracketed groups

One scan over a text keeps track of quoted strings and of the bracket depth, all three kinds of
brackets counting alike. From it come the two cuts: splitting a leading bracketed group off a line,
and splitting at a separator outside brackets and strings.
-/

namespace Haml.Bracket

/-- Whether the scan is outside of strings, inside one, or after a backslash in one. -/
inductive Quoting where
  | outside
  | inside (mark : Char)
  | escaped (mark : Char)
deriving DecidableEq, Repr

/-- The state of the scan between two characters. -/
structure Scan where
  /-- Opening brackets so far minus closing ones, strings aside. -/
  depth : Int
  /-- Position relative to strings. -/
  quoting : Quoting
deriving DecidableEq, Repr

namespace Scan

/-- The state before the first character. -/
def start : Scan := ⟨0, .outside⟩

end Scan

/-- Whether a character opens a group. -/
def isOpener (c : Char) : Bool := c == '(' || c == '[' || c == '\x7b'

/-- Whether a character closes a group. -/
def isCloser (c : Char) : Bool := c == ')' || c == ']' || c == '\x7d'

/-- Whether a character starts and ends strings. -/
def isQuote (c : Char) : Bool := c == '"' || c == '\''

namespace Scan

/-- The state after one more character. -/
def step (s : Scan) (c : Char) : Scan :=
  match s.quoting with
  | .escaped mark => { s with quoting := .inside mark }
  | .inside mark =>
    if c == '\\' then { s with quoting := .escaped mark }
    else if c == mark then { s with quoting := .outside }
    else s
  | .outside =>
    if isQuote c then { s with quoting := .inside c }
    else if isOpener c then { s with depth := s.depth + 1 }
    else if isCloser c then { s with depth := s.depth - 1 }
    else s

/-- The state after a text. -/
def run (s : Scan) (t : Text) : Scan := t.foldl step s

/-- Whether a character counts: it is outside of strings and no quote. -/
def shows (s : Scan) (c : Char) : Bool := s.quoting == .outside && !isQuote c

end Scan

/-- A text cut in two. -/
structure Cut where
  /-- The part before the cut. -/
  group : Text
  /-- The part after the cut. -/
  rest : Text
deriving DecidableEq, Repr

/-- The cut after the first character at which the depth is zero. -/
def closing? (s : Scan) : Text → Option Cut
  | [] => none
  | c :: rest =>
    let next := s.step c
    if s.shows c && next.depth == 0 then some ⟨[c], rest⟩
    else (closing? next rest).map fun cut => ⟨c :: cut.group, cut.rest⟩

/-- The leading bracketed group of a line, brackets included, and the rest. The group is empty if
the line starts with no bracket or the bracket is never closed. -/
def splitBalanced (line : Text) : Cut :=
  match line with
  | [] => ⟨[], []⟩
  | c :: _ => if isOpener c then (closing? .start line).getD ⟨[], line⟩ else ⟨[], line⟩

/-- Nothing is lost at the closing bracket. -/
theorem group_append_rest_of_closing? {s : Scan} {t : Text} {cut : Cut}
    (h : closing? s t = some cut) : cut.group ++ cut.rest = t := by
  induction t generalizing s cut with
  | nil => simp [closing?] at h
  | cons c rest ih =>
    simp only [closing?] at h
    split at h
    · cases h; rfl
    · obtain ⟨inner, hi, rfl⟩ := Option.map_eq_some_iff.mp h
      simp [ih hi]

/-- The group and the rest make up the line. -/
theorem splitBalanced_append (line : Text) :
    (splitBalanced line).group ++ (splitBalanced line).rest = line := by
  unfold splitBalanced
  split
  · rfl
  · split
    · cases h : closing? Scan.start _ with
      | none => rfl
      | some cut => exact group_append_rest_of_closing? h
    · rfl

/-- The rest is no longer than the line. -/
theorem length_rest_le (line : Text) : (splitBalanced line).rest.length ≤ line.length := by
  have h := congrArg List.length (splitBalanced_append line)
  simp only [List.length_append] at h
  omega

/-- The pieces between separators outside brackets and strings. There is always at least one. -/
def pieces (separator : Text) (s : Scan) : Text → List Text
  | [] => [[]]
  | c :: rest =>
    let next := s.step c
    if s.shows c && separator == [c] && next.depth == 0 then [] :: pieces separator next rest
    else
      match pieces separator next rest with
      | [] => [[c]]
      | piece :: more => (c :: piece) :: more

/-- The pieces between separators that are not blank. A separator of other than one character
occurs nowhere. -/
def splitTopLevel (separator : Text) (t : Text) : List Text :=
  (pieces separator .start t).filter fun piece => !Text.isAllBlank piece

end Haml.Bracket
