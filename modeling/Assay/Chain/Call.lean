import Assay.Number.Binary64

/-!
The calls of a chain and their arguments.
-/

namespace Assay.Chain

open Number (Binary64)

/-- A bare argument. -/
inductive Literal where
  | number (x : Binary64)
  | text (s : String)
  deriving DecidableEq

/-- The value of a named option. -/
inductive OptionValue where
  | flag (b : Bool)
  | number (x : Binary64)
  | text (s : String)
  deriving DecidableEq

/-- One argument of a call. -/
inductive Argument where
  | literal (value : Literal)
  /-- Both bounds belong to the range. -/
  | range (low high : Binary64)
  | option (key : String) (value : OptionValue)
  deriving DecidableEq

/-- One call of a chain, such as `int(1..100)`. -/
structure Call where
  name : String
  arguments : List Argument
  deriving DecidableEq

namespace Argument

def range? : Argument → Option (Binary64 × Binary64)
  | .range low high => some (low, high)
  | _ => none

def option? (key : String) : Argument → Option OptionValue
  | .option k value => if k = key then some value else none
  | _ => none

def literal? : Argument → Option Literal
  | .literal value => some value
  | _ => none

end Argument

namespace Call

/-- The first range argument. -/
def range? (c : Call) : Option (Binary64 × Binary64) := c.arguments.findSome? Argument.range?

/-- The value of the option named `key`; the last one counts. -/
def option? (c : Call) (key : String) : Option OptionValue :=
  c.arguments.reverse.findSome? (Argument.option? key)

/-- The bare arguments, in order. -/
def literals (c : Call) : List Literal := c.arguments.filterMap Argument.literal?

end Call

end Assay.Chain
