import Haml.Text.Basic

/-!
# Name patterns

Patterns for one name: a star stands for any text, a question mark for any character, brackets for
one character of a class. A class lists characters and ranges, and an exclamation mark at its start
makes it stand for all others. A bracket that is never closed stands for itself.
-/

namespace Haml.Glob

/-- A piece of a name pattern. -/
inductive Piece where
  /-- Any text. -/
  | star
  /-- Any character. -/
  | any
  /-- A character in one of the ranges, or in none of them. -/
  | oneOf (negated : Bool) (ranges : List (Char × Char))
  | char (c : Char)
deriving DecidableEq, Repr

namespace Piece

/-- Whether a piece stands for a character. -/
def accepts : Piece → Char → Bool
  | star, _ => false
  | any, _ => true
  | oneOf negated ranges, c =>
    negated != ranges.any fun range => range.1 ≤ c && c ≤ range.2
  | char d, c => c == d

end Piece

/-- Whether pieces stand for a whole name. -/
def fits (pieces : List Piece) (name : Text) : Bool :=
  match pieces, name with
  | [], name => name.isEmpty
  | .star :: rest, [] => fits rest []
  | .star :: rest, c :: name => fits rest (c :: name) || fits (.star :: rest) name
  | _ :: _, [] => false
  | piece :: rest, c :: name => piece.accepts c && fits rest name
termination_by pieces.length + name.length

/-- A class between brackets and what follows it. -/
structure ClassText where
  /-- What stands between the brackets. -/
  body : Text
  /-- What follows the closing bracket. -/
  rest : Text
deriving DecidableEq, Repr

/-- The class after an opening bracket. A closing bracket that comes first is one of its
characters. -/
def ClassText.ofText? (t : Text) : Option ClassText :=
  let mark := if t.head? == some '!' then 1 else 0
  let lead := if (t.drop mark).head? == some ']' then mark + 1 else mark
  match (t.drop lead).dropWhile (· != ']') with
  | [] => none
  | _ :: rest => some ⟨t.take lead ++ (t.drop lead).takeWhile (· != ']'), rest⟩

/-- What follows a class is shorter than what it was read from. -/
theorem ClassText.length_rest_lt {t : Text} {found : ClassText} (h : ofText? t = some found) :
    found.rest.length < t.length := by
  unfold ofText? at h
  simp only at h
  split at h
  · simp at h
  · rename_i c rest heq
    simp only [Option.some.injEq] at h
    subst h
    have hle := Text.length_dropWhile_le (fun c => c != ']') (t.drop
      (if (t.drop (if t.head? == some '!' then 1 else 0)).head? == some ']' then
        (if t.head? == some '!' then 1 else 0) + 1
      else if t.head? == some '!' then 1 else 0))
    rw [heq] at hle
    simp only [List.length_cons, List.length_drop] at hle ⊢
    omega

/-- A class body cut at the hyphens that form ranges; no hyphen among the first `skip` characters
does. -/
def cutAtHyphens (skip : Nat) (body : Text) : List Text :=
  match _h : (body.drop skip).dropWhile (· != '-') with
  | [] => [body]
  | _ :: rest => (body.take skip ++ (body.drop skip).takeWhile (· != '-')) :: cutAtHyphens 2 rest
termination_by body.length
decreasing_by
  have hle := Text.length_dropWhile_le (fun c => c != '-') (body.drop skip)
  rw [_h] at hle
  simp only [List.length_cons, List.length_drop] at hle
  omega

/-- A hyphen at the end of a class forms no range and stands for itself. -/
def keepLastHyphen : List Text → List Text
  | [] => []
  | [chunk, []] => [chunk ++ ['-']]
  | chunk :: chunks => chunk :: keepLastHyphen chunks

/-- The chunks of a class without the ranges whose ends are in the wrong order. -/
def dropEmptyRanges : List Text → List Text
  | [] => []
  | chunk :: chunks =>
    match dropEmptyRanges chunks with
    | [] => [chunk]
    | next :: more =>
      match chunk.getLast?, next with
      | some low, high :: after =>
        if high < low then (chunk.dropLast ++ after) :: more else chunk :: next :: more
      | _, _ => chunk :: next :: more

/-- The ranges of a class: each character by itself, and from the end of each chunk to the start of
the next. -/
def classRanges : List Text → List (Char × Char)
  | [] => []
  | chunk :: chunks =>
    let single := chunk.map fun c => (c, c)
    match chunk.getLast?, chunks with
    | _, [] => single
    | some low, (high :: _) :: _ => single ++ (low, high) :: classRanges chunks
    | _, _ :: _ => single ++ ('-', '-') :: classRanges chunks

/-- The piece of a class. -/
def Piece.ofClass (body : Text) : Piece :=
  let skip := if body.head? == some '!' then 2 else 1
  match dropEmptyRanges (keepLastHyphen (cutAtHyphens skip body)) with
  | ('!' :: chunk) :: chunks => .oneOf true (classRanges (chunk :: chunks))
  | chunks => .oneOf false (classRanges chunks)

/-- The pieces of a pattern. -/
def pieces (pattern : Text) : List Piece :=
  match pattern with
  | [] => []
  | '*' :: rest => .star :: pieces rest
  | '?' :: rest => .any :: pieces rest
  | '[' :: rest =>
    match _h : ClassText.ofText? rest with
    | none => .char '[' :: pieces rest
    | some found => .ofClass found.body :: pieces found.rest
  | c :: rest => .char c :: pieces rest
termination_by pattern.length
decreasing_by
  all_goals simp only [List.length_cons]
  all_goals try have hlt := ClassText.length_rest_lt _h
  all_goals omega

/-- Whether a text is more than a plain name. -/
def isPattern (t : Text) : Bool := t.any fun c => c == '*' || c == '?' || c == '['

end Haml.Glob
