import Haml.Bracket
import Haml.Text.CodePoint

/-!
# Fragments of an output line

An output line of the generated function is a list of fragments: literal text, and expressions of
the target language that produce text at run time. `interpolate` reads the fragments off a text with
`#{…}` in it, and `toExpression` writes a fragment list as one expression.
-/

namespace Haml

/-- A piece of an output line. -/
inductive Fragment where
  /-- Text that is output as it stands. -/
  | literal (text : CodeText)
  /-- An expression whose value is escaped for HTML. -/
  | escaped (code : Text)
  /-- An expression whose value is output unescaped. -/
  | plain (code : Text)
  /-- An expression that produces text by itself. -/
  | code (code : Text)
deriving DecidableEq, Repr

namespace Fragment

/-- Literal text of characters. -/
def text (t : Text) : Fragment := literal (Text.codes t)

/-- Whether the fragment is an expression. -/
def isCode : Fragment → Bool
  | literal _ => false
  | _ => true

/-- The expression that produces the fragment's text. -/
def expression : Fragment → Text
  | literal t => t.quote
  | escaped x => "e(".toList ++ x ++ [')']
  | plain x => "str(".toList ++ x ++ [')']
  | code x => x

/-- The text of a literal, or the source of the expression. -/
def source : Fragment → CodeText
  | literal t => t
  | f => Text.codes f.expression

/-- A run-time value, escaped or not. -/
def ofValue (escape : Bool) (x : Text) : Fragment := if escape then escaped x else plain x

/-- Empty literals dropped and neighbouring literals joined. -/
def merge : List Fragment → List Fragment
  | [] => []
  | literal t :: rest =>
    if t.isEmpty then merge rest
    else
      match merge rest with
      | literal u :: more => literal (t ++ u) :: more
      | more => literal t :: more
  | f :: rest => f :: merge rest

/-- One expression for a fragment list; the empty text for none. -/
def toExpression (fragments : List Fragment) : Text :=
  match merge fragments with
  | [] => "''".toList
  | merged => List.intercalate " + ".toList (merged.map expression)

/-- Literal text put before a fragment list. -/
def prepend (t : Text) : List Fragment → List Fragment
  | literal u :: rest => literal (Text.codes t ++ u) :: rest
  | rest => text t :: rest

/-- The fragments of a text. `#{` with a closing brace after it starts an expression, and a
backslash before it makes it literal. -/
def interpolate (escape : Bool) (t : Text) : List Fragment :=
  match t with
  | [] => []
  | '\\' :: '#' :: '\x7b' :: rest => prepend "#\x7b".toList (interpolate escape rest)
  | '#' :: '\x7b' :: rest =>
    if (Bracket.splitBalanced ('\x7b' :: rest)).group.isEmpty then
      prepend ['#'] (interpolate escape ('\x7b' :: rest))
    else
      let inner := ((Bracket.splitBalanced ('\x7b' :: rest)).group.drop 1).dropLast
      ofValue escape (Text.trim inner) ::
        interpolate escape (Bracket.splitBalanced ('\x7b' :: rest)).rest
  | c :: rest => prepend [c] (interpolate escape rest)
termination_by t.length
decreasing_by
  all_goals simp only [List.length_cons]
  all_goals have := Bracket.length_rest_le ('\x7b' :: rest)
  all_goals simp only [List.length_cons] at this
  all_goals omega

end Fragment

end Haml
