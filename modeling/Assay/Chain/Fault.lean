import Assay.Chain.Call
import Assay.Number.Text
import Assay.Text.Quoted

/-!
What can be wrong with a chain, and the message of each fault.
-/

namespace Assay.Chain

open Number (Binary64)

/-- Why a piece of a source is not a call. -/
inductive Defect where
  | emptyExpression
  | notACall
  | nestedCall
  | emptyArgument
  /-- Digits that have no value. -/
  | invalidNumber (text : String)
  deriving DecidableEq

def Defect.message : Defect → String
  | .emptyExpression => "empty expression"
  | .notACall => "expected `name(args)`"
  | .nestedCall => "nested calls are not allowed"
  | .emptyArgument => "empty argument"
  | .invalidNumber text => s!"invalid number `{text}`"

/-- Why a function refuses its arguments. -/
inductive Refusal where
  | notIntegral (low high : Binary64)
  | tooLarge (low high : Binary64)
  | emptyRange (low high : Binary64)
  | nothingOnTheLeft
  | negativeLength
  | tooLong (limit : Nat) (length : Int)
  | notAFlag (value : OptionValue)
  | noWords
  /-- The reason of a function that is not built in. -/
  | other (reason : String)
  deriving DecidableEq

/-- An option value with its kind, as messages show it. -/
def OptionValue.describe : OptionValue → String
  | .flag b => "Bool(" ++ (if b then "true" else "false") ++ ")"
  | .number x => "Number(" ++ x.toText .detailed ++ ")"
  | .text s => "Str(" ++ Text.quote s ++ ")"

private def rangeText (low high : Binary64) : String := low.plain ++ ".." ++ high.plain

def Refusal.message : Refusal → String
  | .notIntegral low high => "range " ++ rangeText low high ++ " must be integral"
  | .tooLarge low high => "range " ++ rangeText low high ++ " is too large"
  | .emptyRange low high => "empty range " ++ rangeText low high
  | .nothingOnTheLeft => "must follow a generator, e.g. `int(1..9).array(3..5)`"
  | .negativeLength => "length must not be negative"
  | .tooLong limit length => s!"length must not exceed {limit}, got {length}"
  | .notAFlag value => "`unique` must be true or false, got " ++ value.describe
  | .noWords => "dictionary is empty"
  | .other reason => reason

/-- A fault of a chain, found while it is read, evaluated or drawn from. -/
inductive Fault where
  | malformed (piece : String) (defect : Defect)
  | unknownFunction (name : String)
  | refused (function : String) (refusal : Refusal)
  /-- A collection of distinct values could not be filled. -/
  | exhausted (wanted found : Nat)
  deriving DecidableEq

def Fault.message : Fault → String
  | .malformed piece defect => "syntax error at `" ++ piece ++ "`: " ++ defect.message
  | .unknownFunction name => "unknown function: " ++ name
  | .refused function refusal => "invalid argument of `" ++ function ++ "`: " ++ refusal.message
  | .exhausted wanted found => s!"cannot draw {wanted} distinct values, only found {found}"

/-- The short name of the kind of fault. -/
def Fault.kind : Fault → String
  | .malformed .. => "syntax_error"
  | .unknownFunction _ => "unknown_function"
  | .refused .. => "invalid_argument"
  | .exhausted .. => "exhausted"

end Assay.Chain
