import Haml.Text.Basic

/-!
# Scanned text

The result of reading something off the start of a text: what was found, and the text after it.
-/

namespace Haml

/-- What a scanner found at the start of a text, and the text after it. -/
structure Scanned (α : Type) where
  /-- What was found. -/
  found : α
  /-- The text after it. -/
  rest : Text

namespace Scanned

/-- Something else in place of what was found. -/
def map {α β : Type} (f : α → β) (scanned : Scanned α) : Scanned β :=
  ⟨f scanned.found, scanned.rest⟩

/-- Characters before the ones that were found. -/
def prepend (t : Text) (scanned : Scanned Text) : Scanned Text := scanned.map (t ++ ·)

end Scanned

end Haml
