import Assay.Sandbox.Tool.Grep
import Assay.Sandbox.Tool.Text

/-!
`expr`: calculations on words.
-/

namespace Assay.Sandbox.Tool

/-- A calculation fails with a message. -/
abbrev Calculation := Except Octets (Octets × List Octets)

def isNull (cs : Octets) : Bool := cs.isEmpty || Octets.toInt? cs == some 0

def truth (b : Bool) : Octets := if b then ['1'] else ['0']

def integerOperand (cs : Octets) : Except Octets Int :=
  match Octets.toInt? cs with
  | some n => .ok n
  | none => .error (Octets.ofText "non-integer argument")

/-- The operators, each with the level that it binds at. -/
def operatorLevel? (op : Octets) : Option Nat :=
  match String.ofList op with
  | "|" => some 0
  | "&" => some 1
  | "<" => some 2
  | "<=" => some 2
  | "=" => some 2
  | "==" => some 2
  | "!=" => some 2
  | ">=" => some 2
  | ">" => some 2
  | "+" => some 3
  | "-" => some 3
  | "*" => some 4
  | "/" => some 4
  | "%" => some 4
  | ":" => some 5
  | _ => none

def compareOperands (a b : Octets) : Ordering :=
  match Octets.toInt? a, Octets.toInt? b with
  | some x, some y => compare x y
  | _, _ => compareOctets a b

def applyOperator (op a b : Octets) : Except Octets Octets := do
  let order := compareOperands a b
  let numbers (f : Int → Int → Except Octets Int) : Except Octets Octets := do
    return Octets.ofInt (← f (← integerOperand a) (← integerOperand b))
  let divide (f : Int → Int → Int) : Except Octets Octets :=
    numbers fun x y => if y = 0 then .error (Octets.ofText "division by zero") else .ok (f x y)
  match String.ofList op with
  | "|" => return if isNull a then (if b.isEmpty then ['0'] else b) else a
  | "&" => return if isNull a || isNull b then ['0'] else a
  | "<" => return truth (order == .lt)
  | "<=" => return truth (order != .gt)
  | "!=" => return truth (order != .eq)
  | ">=" => return truth (order != .lt)
  | ">" => return truth (order == .gt)
  | "+" => numbers fun x y => .ok (x + y)
  | "-" => numbers fun x y => .ok (x - y)
  | "*" => numbers fun x y => .ok (x * y)
  | "/" => divide Int.tdiv
  | "%" => divide Int.tmod
  | ":" =>
    let r := Regex.ofText ⟨false⟩ b
    match firstGroup? r a, longest false r true a with
    | some text, _ => return text
    | none, some rest => return Octets.ofNat (a.length - rest.length)
    | none, none => return ['0']
  | _ => return truth (order == .eq)

mutual

def calculateOperand : Nat → List Octets → Calculation
  | 0, _ => .error []
  | fuel + 1, words =>
    match words with
    | [] => .error (Octets.ofText "syntax error: missing argument")
    | ['('] :: rest =>
      match calculateFrom fuel 0 rest with
      | .ok (value, [')'] :: rest) => .ok (value, rest)
      | .ok _ => .error (Octets.ofText "syntax error: expecting ')'")
      | .error e => .error e
    | word :: text :: rest =>
      if word = "length".toList then .ok (Octets.ofNat text.length, rest)
      else .ok (word, text :: rest)
    | [word] => .ok (word, [])

/-- Calculate with operators that bind at least at a level. -/
def calculateFrom : Nat → Nat → List Octets → Calculation
  | 0, _, _ => .error []
  | fuel + 1, level, words =>
    match calculateOperand fuel words with
    | .error e => .error e
    | .ok (value, rest) => calculateOn fuel level value rest

/-- Go on with a value on the left. -/
def calculateOn : Nat → Nat → Octets → List Octets → Calculation
  | 0, _, _, _ => .error []
  | fuel + 1, level, value, words =>
    match words with
    | [] => .ok (value, [])
    | op :: rest =>
      match operatorLevel? op with
      | none => .ok (value, words)
      | some l =>
        if l < level then .ok (value, words)
        else
          match calculateFrom fuel (l + 1) rest with
          | .error e => .error e
          | .ok (other, rest) =>
            match applyOperator op value other with
            | .error e => .error e
            | .ok value => calculateOn fuel level value rest

end

def expr : Tool := fun words => do
  match calculateFrom (4 * words.length + 8) 0 words with
  | .ok (value, []) =>
    Exec.write 1 (value ++ ['\n'])
    return if isNull value then 1 else 0
  | .ok (_, word :: _) =>
    complain "expr" (Octets.ofText "syntax error: unexpected argument '" ++ word ++ ['\''])
    return 2
  | .error e =>
    complain "expr" e
    return 2

end Assay.Sandbox.Tool
