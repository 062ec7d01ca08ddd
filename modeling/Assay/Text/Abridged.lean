/-!
Messages of a limited length.
-/

namespace Assay.Text

/-- The greatest number of characters of a message. -/
def messageLimit : Nat := 1024

/-- A text that is too long for a message loses its end to three points. -/
def abridge (s : String) : String :=
  if s.length ≤ messageLimit then s
  else String.ofList (s.toList.take (messageLimit - 3)) ++ "..."

end Assay.Text
