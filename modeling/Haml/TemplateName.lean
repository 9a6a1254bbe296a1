import Haml.Path
import Haml.Registration

/-!
# Template names

The dotted name of a template file: the components of its path from the base directory on, without
the suffix of the last, with separators made underscores.
-/

namespace Haml

/-- The name of the template at a path below a base directory. -/
def templateName (path : Path) (base : Option Path) : Except Path.Error Text := do
  let path ←
    match base with
    | some base => path.relativeTo base
    | none => pure path
  return Registration.normalise (List.intercalate ['.'] (← path.bareParts))

end Haml
