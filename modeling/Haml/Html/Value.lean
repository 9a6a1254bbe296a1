import Haml.Data.Basic
import Haml.Html.Escape

/-!
# Escaped values

What the escape function of a namespace makes of a value at run time: nothing for a missing value,
and the escaped text of any other.
-/

namespace Haml.Html

/-- The escaped text of a value. -/
def escapeValue (value : Data) : Text :=
  match value with
  | .null => []
  | value => escape value.display

end Haml.Html
