import Assay.Number.Text

/-!
Drawn values, when two of them count as equal, and how they are written for a program to read.
-/

namespace Assay.Draw

open Number (Binary64)

/-- A drawn value. -/
inductive Value where
  | int (n : Int64)
  | float (x : Binary64)
  | text (s : String)
  | array (items : List Value)

instance : Inhabited Value := ⟨.array []⟩

namespace Value

mutual

/-- Values of one kind with equal contents. Doubles are compared as numbers. -/
def equal : Value → Value → Bool
  | .int a, .int b => a == b
  | .float a, .float b => a.equal b
  | .text a, .text b => a == b
  | .array a, .array b => equalAll a b
  | _, _ => false

def equalAll : List Value → List Value → Bool
  | [], [] => true
  | a :: as, b :: bs => a.equal b && equalAll as bs
  | _, _ => false

end

/-- The decimal digits of an integer, with a minus sign if it is negative. -/
def intText (n : Int64) : String :=
  let n := n.toInt
  String.ofList ((if n < 0 then ['-'] else []) ++ Number.decimalDigitsOf n.natAbs)

/-- A double without a negative zero. -/
def floatText (x : Binary64) : String := (x + 0).plain

mutual

/-- Write a value behind a text. The items of an array stand side by side, one space apart, at
every level. -/
def write (before : String) : Value → String
  | .int n => before ++ intText n
  | .float x => before ++ floatText x
  | .text s => before ++ s
  | .array items => writeItems before items

def writeItems (before : String) : List Value → String
  | [] => before
  | [item] => write before item
  | item :: rest => writeItems (write before item ++ " ") rest

end

/-- The text of a value. -/
def format (v : Value) : String := v.write ""

end Value

end Assay.Draw
