import Haml.Text.Basic

/-!
# Output formats

The dialect of HTML that templates produce. It decides how empty elements and flags are written,
which document type declarations exist, and how scripts and styles are wrapped.
-/

namespace Haml

/-- A dialect of HTML. -/
inductive Format where
  | html5
  | html4
  | xhtml
deriving DecidableEq, Repr

namespace Format

/-- All formats, in the order in which they are listed to the user. -/
def all : List Format := [html5, html4, xhtml]

/-- The name of a format in options and on the command line. -/
def name : Format → Text
  | html5 => "html5".toList
  | html4 => "html4".toList
  | xhtml => "xhtml".toList

/-- The format of a name. -/
def ofName? (name : Text) : Option Format := all.find? fun format => format.name == name

/-- The elements that never have content. -/
def voidElements : List Text :=
  ["area", "base", "br", "col", "embed", "hr", "img", "input", "link", "meta", "param", "source",
   "track", "wbr"].map String.toList

/-- The document type declaration with a public identifier and the address of the definition. -/
def publicDoctype (identifier address : String) : Text :=
  "<!DOCTYPE html PUBLIC ".toList ++
    ('"' :: identifier.toList ++ "\" \"".toList ++ address.toList ++ "\">".toList)

/-- The document type declaration without an identifier. -/
def plainDoctype : Text := "<!DOCTYPE html>".toList

/-- The document type declarations of a format by their lower case names, the default one without
a name first. -/
def doctypes : Format → List (Text × Text)
  | xhtml => [
      ("".toList, publicDoctype "-//W3C//DTD XHTML 1.0 Transitional//EN"
        "http://www.w3.org/TR/xhtml1/DTD/xhtml1-transitional.dtd"),
      ("strict".toList, publicDoctype "-//W3C//DTD XHTML 1.0 Strict//EN"
        "http://www.w3.org/TR/xhtml1/DTD/xhtml1-strict.dtd"),
      ("frameset".toList, publicDoctype "-//W3C//DTD XHTML 1.0 Frameset//EN"
        "http://www.w3.org/TR/xhtml1/DTD/xhtml1-frameset.dtd"),
      ("5".toList, plainDoctype),
      ("1.1".toList, publicDoctype "-//W3C//DTD XHTML 1.1//EN"
        "http://www.w3.org/TR/xhtml11/DTD/xhtml11.dtd"),
      ("basic".toList, publicDoctype "-//W3C//DTD XHTML Basic 1.1//EN"
        "http://www.w3.org/TR/xhtml-basic/xhtml-basic11.dtd"),
      ("mobile".toList, publicDoctype "-//WAPFORUM//DTD XHTML Mobile 1.2//EN"
        "http://www.openmobilealliance.org/tech/DTD/xhtml-mobile12.dtd")]
  | html4 => [
      ("".toList, publicDoctype "-//W3C//DTD HTML 4.01 Transitional//EN"
        "http://www.w3.org/TR/html4/loose.dtd"),
      ("strict".toList, publicDoctype "-//W3C//DTD HTML 4.01//EN"
        "http://www.w3.org/TR/html4/strict.dtd"),
      ("frameset".toList, publicDoctype "-//W3C//DTD HTML 4.01 Frameset//EN"
        "http://www.w3.org/TR/html4/frameset.dtd")]
  | html5 => [("".toList, plainDoctype)]

/-- The declaration of a named document type; the format's default one for an unknown name. -/
def doctype (format : Format) (name : Text) : Text :=
  match format.doctypes.lookup (Text.fold name) with
  | some declaration => declaration
  | none => (format.doctypes.lookup []).getD []

end Format

end Haml
