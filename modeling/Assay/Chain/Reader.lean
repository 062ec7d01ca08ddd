import Assay.Chain.Fault
import Assay.Chain.Pieces
import Assay.Text.DecimalDigit
import Assay.Text.WordChar

/-!
Reading a chain. Every piece must be a name and an argument list in parentheses; the arguments
stand between commas and are, in this order, a range, an option, a number or a text.
-/

namespace Assay.Chain

open Number (Binary64)
open Text (isBlank isDecimalDigit isNameStart isWordChar)

/-- The longest name that a text begins with, and the rest. -/
def takeName : List Char → Option (List Char × List Char)
  | [] => none
  | c :: rest =>
    if isNameStart c then some (c :: rest.takeWhile isWordChar, rest.dropWhile isWordChar) else none

/-- The longest run of digits that a text begins with, and the rest. -/
def takeDigits (cs : List Char) : Option (List Char × List Char) :=
  match cs.takeWhile isDecimalDigit with
  | [] => none
  | digits => some (digits, cs.dropWhile isDecimalDigit)

/-- A fraction, if the text begins with a point and a digit. -/
def takeFraction : List Char → List Char × List Char
  | '.' :: rest =>
    match takeDigits rest with
    | some (digits, rest') => ('.' :: digits, rest')
    | none => ([], '.' :: rest)
  | cs => ([], cs)

/-- The longest number without a sign that a text begins with, and the rest. -/
def takeUnsigned (cs : List Char) : Option (List Char × List Char) :=
  match takeDigits cs with
  | none => none
  | some (whole, rest) =>
    let (fraction, rest) := takeFraction rest
    some (whole ++ fraction, rest)

/-- The longest number that a text begins with, and the rest. -/
def takeNumber : List Char → Option (List Char × List Char)
  | '-' :: rest =>
    match takeUnsigned rest with
    | none => none
    | some (number, rest) => some ('-' :: number, rest)
  | cs => takeUnsigned cs

/-- The two numbers of a range. -/
def matchRange? (token : List Char) : Option (List Char × List Char) :=
  match takeNumber token with
  | none => none
  | some (low, rest) =>
    match rest.dropWhile isBlank with
    | '.' :: '.' :: rest =>
      match takeNumber (rest.dropWhile isBlank) with
      | some (high, []) => some (low, high)
      | _ => none
    | _ => none

/-- The key and the trimmed value of an option. -/
def matchOption? (token : List Char) : Option (List Char × List Char) :=
  match takeName token with
  | none => none
  | some (key, rest) =>
    match rest.dropWhile isBlank with
    | '=' :: value => if value.isEmpty then none else some (key, Text.trim value)
    | _ => none

/-- The whole text is a number. -/
def isNumber (token : List Char) : Bool :=
  match takeNumber token with
  | some (_, []) => true
  | _ => false

/-- The value of ASCII digits read from left to right, after `sum`. -/
def valueOfDigits (sum : Nat) : List Char → Option Nat
  | [] => some sum
  | c :: rest => if c.isDigit then valueOfDigits (10 * sum + (c.toNat - '0'.toNat)) rest else none

/-- The double nearest to digits with or without a point among them. -/
def decimalValue? (negative : Bool) (cs : List Char) : Option Binary64 :=
  let whole := cs.takeWhile (· != '.')
  let fraction := (cs.dropWhile (· != '.')).drop 1
  (valueOfDigits 0 (whole ++ fraction)).map fun digits =>
    Binary64.ofDecimal negative digits (-(fraction.length : Int))

/-- The double nearest to a written number. Digits of other scripts have no value. -/
def numberValue? : List Char → Option Binary64
  | '-' :: rest => decimalValue? true rest
  | cs => decimalValue? false cs

/-- The value of a written number, or the fault that names it. -/
def readNumber (cs : List Char) : Except Defect Binary64 :=
  match numberValue? cs with
  | some x => .ok x
  | none => .error (.invalidNumber (String.ofList cs))

/-- The value of an option. -/
def readOptionValue (raw : List Char) : Except Defect OptionValue :=
  if raw = "true".toList then .ok (.flag true)
  else if raw = "false".toList then .ok (.flag false)
  else if isNumber raw then (readNumber raw).map .number
  else .ok (.text (String.ofList raw))

/-- One argument, trimmed. -/
def readArgument (token : List Char) : Except Defect Argument :=
  if token.isEmpty then .error .emptyArgument
  else
    match matchRange? token with
    | some (low, high) => do
      let low ← readNumber low
      let high ← readNumber high
      return .range low high
    | none =>
      match matchOption? token with
      | some (key, raw) => return .option (String.ofList key) (← readOptionValue raw)
      | none =>
        if isNumber token then return .literal (.number (← readNumber token))
        else return .literal (.text (String.ofList token))

/-- Cut at commas; `pending` holds the characters of the open token, the last one first. -/
def commasFrom (pending : List Char) : List Char → List (List Char)
  | [] => [pending.reverse]
  | c :: rest => if c = ',' then pending.reverse :: commasFrom [] rest else commasFrom (c :: pending) rest

/-- The trimmed tokens of a trimmed argument list; none if it is empty. -/
def argumentTokens (body : List Char) : List (List Char) :=
  if body.isEmpty then [] else (commasFrom [] body).map Text.trim

/-- The name and the text between the parentheses, if the piece has the shape of a call. -/
def matchCall? (piece : List Char) : Option (List Char × List Char) :=
  match takeName piece with
  | none => none
  | some (name, rest) =>
    match rest.dropWhile isBlank with
    | '(' :: inner =>
      match inner.reverse with
      | ')' :: body => some (name, body.reverse)
      | _ => none
    | _ => none

/-- One call. -/
def readCall (piece : List Char) : Except Defect Call :=
  match matchCall? piece with
  | none => .error .notACall
  | some (name, inner) =>
    let body := Text.trim inner
    if body.any fun c => c = '(' ∨ c = ')' then .error .nestedCall
    else do
      let arguments ← (argumentTokens body).mapM readArgument
      return ⟨String.ofList name, arguments⟩

/-- One call, or the fault that names its piece. -/
def readPiece (piece : List Char) : Except Fault Call :=
  match readCall piece with
  | .ok call => .ok call
  | .error defect => .error (.malformed (String.ofList piece) defect)

/-- The calls of a source, from left to right; the first faulty piece decides. -/
def read (source : String) : Except Fault (List Call) :=
  match pieces source.toList with
  | [] => .error (.malformed source .emptyExpression)
  | piece :: rest => (piece :: rest).mapM readPiece

end Assay.Chain
