import Haml.Statement

/-!
# Registered template functions

The module text around the statements of a template: it makes sure that the namespace and its escape
function exist, defines the template function and registers it under the last segment of its dotted
name.
-/

namespace Haml.Registration

/-- Characters that separate words inside a name. -/
def isSeparator (c : Char) : Bool := Text.isBlank c || c == '-'

/-- A name with each run of separators written as one underscore. -/
def normalise (name : Text) : Text := Text.replaceRuns isSeparator '_' name

/-- The non-empty segments of a name inside a namespace. -/
def segments (nameSpace name : Text) : List Text :=
  (List.splitOn '.' (normalise (nameSpace ++ '.' :: name))).filter fun segment =>
    !segment.isEmpty

/-- Why no function can be registered. -/
inductive Error where
  /-- Namespace and name have fewer than two segments together. -/
  | noName (name : Text)
deriving DecidableEq, Repr

/-- The text of an error. -/
def Error.message : Error → Text
  | .noName name => "Cannot derive a template name from ".toList ++ Text.quote name ++ ['.']

/-- The escape function that comes with a namespace, defined unless it exists. -/
def defaultEscape (root : Text) : Text :=
  "if not hasattr(".toList ++ root ++ ", 'html_escape'):\n".toList ++
  "    def _html_escape(value):\n".toList ++
  "        if value is None:\n".toList ++
  "            return ''\n".toList ++
  "        return (str(value)\n".toList ++
  "                .replace('&', '&amp;')\n".toList ++
  "                .replace('<', '&lt;')\n".toList ++
  "                .replace('>', '&gt;')\n".toList ++
  "                .replace('\"', '&quot;'))\n".toList ++
  "    ".toList ++ root ++ ".html_escape = _html_escape\n".toList

/-- The expression for a container inside another. -/
def member (container segment : Text) : Text :=
  "getattr(".toList ++ container ++ ", ".toList ++ Text.quote segment ++ [')']

/-- The expression for the innermost of nested containers. -/
def innermost (root : Text) (inner : List Text) : Text := inner.foldl member root

/-- The code that creates each nested container unless it exists. -/
def containers (container : Text) : List Text → Text
  | [] => []
  | segment :: rest =>
    "if not hasattr(".toList ++ container ++ ", ".toList ++ Text.quote segment ++ "):\n".toList ++
      codeIndent ++ "setattr(".toList ++ container ++ ", ".toList ++ Text.quote segment ++
      ", _types.SimpleNamespace())\n".toList ++ containers (member container segment) rest

/-- The code that creates the namespace unless it exists. -/
def scaffold (root : Text) (inner : List Text) : Text :=
  "import types as _types\n\n".toList ++ root ++ " = globals().get(".toList ++ Text.quote root ++
    ") or _types.SimpleNamespace()\n".toList ++ containers root inner

/-- The escape function to call: the one of the options if it has a name, or else the
namespace's. -/
def escapeName (options : Options) (root : Text) : Text :=
  match options.customEscape with
  | some (c :: rest) => c :: rest
  | _ => root ++ ".html_escape".toList

/-- The code that defines the namespace's escape function, if it is the one in use. -/
def escapeDefinition (options : Options) (root : Text) : Text :=
  match options.customEscape with
  | some (_ :: _) => []
  | _ => defaultEscape root

/-- The template function around its statements. -/
def functionText (escape body : Text) : Text :=
  "\n\ndef _template(context):\n".toList ++ codeIndent ++ "o = []\n".toList ++ codeIndent ++
    "e = ".toList ++ escape ++ ['\n'] ++ body ++ codeIndent ++ "return '\\n'.join(o)\n".toList

/-- The code that registers the function in its container. -/
def registration (container name : Text) : Text :=
  "\n\nsetattr(".toList ++ container ++ ", ".toList ++ Text.quote name ++ ", _template)\n".toList

/-- The whole module for the function with segments `root`, `inner` and `name`. -/
def moduleText (options : Options) (root : Text) (inner : List Text) (name body : Text) : Text :=
  scaffold root inner ++ escapeDefinition options root ++
    functionText (escapeName options root) body ++ registration (innermost root inner) name

/-- Where a function is registered. -/
structure Target where
  /-- The outermost container. -/
  root : Text
  /-- The containers inside it. -/
  inner : List Text
  /-- The name in the innermost one. -/
  name : Text
deriving DecidableEq, Repr

/-- The namespace that is used: an empty one stands for that of the options. -/
def spaceOf (options : Options) (nameSpace : Text) : Text :=
  if nameSpace.isEmpty then options.nameSpace else nameSpace

/-- The target for a name in a namespace. -/
def target (options : Options) (name nameSpace : Text) : Except Error Target :=
  match segments (spaceOf options nameSpace) name with
  | root :: more =>
    match more.getLast? with
    | some last => .ok ⟨root, more.dropLast, last⟩
    | none => .error (.noName name)
  | [] => .error (.noName name)

end Haml.Registration
