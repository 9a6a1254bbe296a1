import Haml.Format
import Haml.Literal.Value

/-!
# Compiler options

What every template compiled in one run shares: the format, whether output is escaped, the name of
the escape function and the namespace that holds the template functions. The order in which the
elements of sets are listed is not anyone's choice, but every run has one.
-/

namespace Haml

/-- Options of a compilation. -/
structure Options where
  /-- Whether the values of `=` lines and interpolations are escaped. -/
  escapeHtml : Bool := true
  /-- The dialect of HTML to produce. -/
  format : Format := .html5
  /-- The escape function to call in place of the one that comes with the namespace. -/
  customEscape : Option Text := none
  /-- The dotted name of the container of all template functions. -/
  nameSpace : Text := "HAML".toList
  /-- The order in which the elements of sets are listed. -/
  setOrder : Literal.SetOrder := .insertion

/-- The options in a run with an order of its own. -/
def Options.inRun (options : Options) (order : Literal.SetOrder) : Options :=
  { options with setOrder := order }

end Haml
