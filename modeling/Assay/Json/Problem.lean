import Assay.Number.Text
import Assay.Text.Quoted

/-!
Why a text cannot be read as a value of the wanted shape.
-/

namespace Assay.Json

open Number (Binary64)

/-- What stands in the text instead of the wanted value. -/
inductive Found where
  | null
  | bool (b : Bool)
  | integer (n : Int)
  | float (x : Binary64)
  | text (s : String)
  | sequence
  | map
  deriving DecidableEq

def Found.describe : Found → String
  | .null => "null"
  | .bool b => "boolean `" ++ (if b then "true" else "false") ++ "`"
  | .integer n => s!"integer `{n}`"
  | .float x => "floating point `" ++ x.toText .signed ++ "`"
  | .text s => "string " ++ Text.quote s
  | .sequence => "sequence"
  | .map => "map"

/-- A value of the wrong shape in a well-formed text. -/
inductive Mismatch where
  | missingField (name : String)
  | duplicateField (name : String)
  | unknownVariant (name : String) (expected : List String)
  | wrongType (found : Found) (expected : String)
  | wrongValue (n : Int) (expected : String)
  | wrongLength (length : Nat) (expected : String)
  deriving DecidableEq

private def ticked (s : String) : String := "`" ++ s ++ "`"

/-- The names that would have been right. -/
def alternatives : List String → String
  | [] => "there are no variants"
  | [a] => "expected " ++ ticked a
  | [a, b] => "expected " ++ ticked a ++ " or " ++ ticked b
  | names => "expected one of " ++ ", ".intercalate (names.map ticked)

def Mismatch.message : Mismatch → String
  | .missingField name => "missing field " ++ ticked name
  | .duplicateField name => "duplicate field " ++ ticked name
  | .unknownVariant name expected => "unknown variant " ++ ticked name ++ ", " ++ alternatives expected
  | .wrongType found expected => "invalid type: " ++ found.describe ++ ", expected " ++ expected
  | .wrongValue n expected => s!"invalid value: integer `{n}`, expected " ++ expected
  | .wrongLength length expected => s!"invalid length {length}, expected " ++ expected

inductive Problem where
  /-- The text ends too early. -/
  | ended
  /-- The text is not JSON, or goes on after the value. -/
  | malformed
  | unfit (mismatch : Mismatch)
  deriving DecidableEq

/-- The name of the kind of problem. -/
def Problem.category : Problem → String
  | .ended => "eof"
  | .malformed => "syntax"
  | .unfit _ => "data"

/-- A plain account; only mismatches have an exact wording. -/
def Problem.message : Problem → String
  | .ended => "unexpected end of text"
  | .malformed => "malformed text"
  | .unfit mismatch => mismatch.message

end Assay.Json
