import Assay.Number.Rounding
import Assay.Sandbox.Octets

/-!
Arithmetic on 64-bit integers, as `$((…))` does it.
-/

namespace Assay.Sandbox.Shell

/-- An arithmetic expression. -/
inductive Formula where
  | number (n : Int)
  | parameter (name : Octets)
  | unary (op : Char) (a : Formula)
  | binary (op : String) (a b : Formula)
  | both (a b : Formula)
  | either (a b : Formula)
  | choice (test a b : Formula)
  | assign (name : Octets) (op : String) (a : Formula)

inductive ArithmeticToken where
  | number (n : Nat)
  | name (cs : Octets)
  | sign (s : String)
  deriving DecidableEq, Repr

/-- Why an expression has no value. -/
inductive ArithmeticError where
  /-- A message about the expression as a whole. -/
  | expression (message : String)
  /-- A parameter whose value is no number. -/
  | illegalNumber (value : Octets)

namespace Formula

def signs : List String :=
  ["<<=", ">>=", "<<", ">>", "<=", ">=", "==", "!=", "&&", "||", "+=", "-=", "*=", "/=", "%=", "&=",
    "^=", "|=", "+", "-", "*", "/", "%", "<", ">", "=", "!", "~", "&", "|", "^", "(", ")", "?", ":"]

/-- The digits of a number with their base. -/
def numberAt (cs : Octets) : Nat × Octets :=
  match cs with
  | '0' :: x :: rest =>
    if (x == 'x' || x == 'X') && (rest.head?.any Octets.isHexDigit) then
      (Octets.valueOf 16 (rest.takeWhile Octets.isHexDigit), rest.dropWhile Octets.isHexDigit)
    else
      (Octets.valueOf 8 (cs.takeWhile Octets.isOctalDigit), cs.dropWhile Octets.isOctalDigit)
  | cs => (Octets.valueOf 10 (cs.takeWhile Char.isDigit), cs.dropWhile Char.isDigit)

def isNameChar (c : Char) : Bool := c.isAlphanum || c == '_'

/-- The tokens of an expression. -/
def tokens : Nat → Octets → Except ArithmeticError (List ArithmeticToken)
  | 0, _ => .ok []
  | _ + 1, [] => .ok []
  | fuel + 1, c :: rest =>
    if Octets.isSpace c then tokens fuel rest
    else if c.isDigit then
      let (n, rest) := numberAt (c :: rest)
      (tokens fuel rest).map (.number n :: ·)
    else if c.isAlpha || c == '_' then
      let name := (c :: rest).takeWhile isNameChar
      (tokens fuel ((c :: rest).drop name.length)).map (.name name :: ·)
    else
      match signs.find? fun s => s.toList.isPrefixOf (c :: rest) with
      | some s => (tokens fuel ((c :: rest).drop s.length)).map (.sign s :: ·)
      | none => .error (.expression "expecting primary")

/-- The level that a binary operator binds at. -/
def level? (s : String) : Option Nat :=
  match s with
  | "||" => some 1
  | "&&" => some 2
  | "|" => some 3
  | "^" => some 4
  | "&" => some 5
  | "==" => some 6
  | "!=" => some 6
  | "<" => some 7
  | "<=" => some 7
  | ">" => some 7
  | ">=" => some 7
  | "<<" => some 8
  | ">>" => some 8
  | "+" => some 9
  | "-" => some 9
  | "*" => some 10
  | "/" => some 10
  | "%" => some 10
  | _ => none

/-- The operator of an assignment; a plain one has none. -/
def assignment? (s : String) : Option String :=
  if ["=", "+=", "-=", "*=", "/=", "%=", "<<=", ">>=", "&=", "^=", "|="].contains s then
    some (String.ofList s.toList.dropLast)
  else none

def join (op : String) (a b : Formula) : Formula :=
  if op = "&&" then .both a b else if op = "||" then .either a b else .binary op a b

abbrev Parsed := Except ArithmeticError (Formula × List ArithmeticToken)

mutual

/-- An assignment or a choice. -/
def readWhole : Nat → List ArithmeticToken → Parsed
  | 0, _ => .error (.expression "expecting primary")
  | fuel + 1, ts =>
    match ts with
    | .name cs :: .sign s :: rest =>
      match assignment? s with
      | some op => (readWhole fuel rest).map fun (a, rest) => (.assign cs op a, rest)
      | none => readChoice fuel ts
    | ts => readChoice fuel ts

def readChoice : Nat → List ArithmeticToken → Parsed
  | 0, _ => .error (.expression "expecting primary")
  | fuel + 1, ts =>
    match readBinary fuel 1 ts with
    | .error e => .error e
    | .ok (test, .sign "?" :: rest) =>
      match readWhole fuel rest with
      | .error e => .error e
      | .ok (a, .sign ":" :: rest) =>
        (readChoice fuel rest).map fun (b, rest) => (.choice test a b, rest)
      | .ok _ => .error (.expression "expecting ':'")
    | result => result

/-- Operators that bind at least at a level. -/
def readBinary : Nat → Nat → List ArithmeticToken → Parsed
  | 0, _, _ => .error (.expression "expecting primary")
  | fuel + 1, level, ts =>
    match readUnary fuel ts with
    | .error e => .error e
    | .ok (a, rest) => readOn fuel level a rest

def readOn : Nat → Nat → Formula → List ArithmeticToken → Parsed
  | 0, _, _, _ => .error (.expression "expecting primary")
  | fuel + 1, level, a, ts =>
    match ts with
    | .sign s :: rest =>
      match level? s with
      | none => .ok (a, ts)
      | some l =>
        if l < level then .ok (a, ts)
        else
          match readBinary fuel (l + 1) rest with
          | .error e => .error e
          | .ok (b, rest) => readOn fuel level (join s a b) rest
    | ts => .ok (a, ts)

def readUnary : Nat → List ArithmeticToken → Parsed
  | 0, _ => .error (.expression "expecting primary")
  | fuel + 1, ts =>
    match ts with
    | .number n :: rest => .ok (.number n, rest)
    | .name cs :: rest => .ok (.parameter cs, rest)
    | .sign "(" :: rest =>
      match readWhole fuel rest with
      | .error e => .error e
      | .ok (a, .sign ")" :: rest) => .ok (a, rest)
      | .ok _ => .error (.expression "expecting ')'")
    | .sign s :: rest =>
      match s.toList with
      | [c] =>
        if ['+', '-', '!', '~'].contains c then
          (readUnary fuel rest).map fun (a, rest) => (.unary c a, rest)
        else .error (.expression "expecting primary")
      | _ => .error (.expression "expecting primary")
    | [] => .error (.expression "expecting primary")

end

/-- Read an expression. -/
def read (cs : Octets) : Except ArithmeticError Formula :=
  match tokens (cs.length + 1) cs with
  | .error e => .error e
  | .ok ts =>
    match readWhole (8 * ts.length + 8) ts with
    | .error e => .error e
    | .ok (a, []) => .ok a
    | .ok _ => .error (.expression "expecting EOF")

/-- The integer that 64 bits make of a number. -/
def wrap (n : Int) : Int := Int.bmod n (2 ^ 64)

def ofBool (b : Bool) : Int := if b then 1 else 0

/-- The value of a binary operator. -/
def apply (op : String) (a b : Int) : Except ArithmeticError Int :=
  let bits (f : UInt64 → UInt64 → UInt64) : Int :=
    wrap (f (UInt64.ofInt a) (UInt64.ofInt b)).toNat
  match op with
  | "" => .ok b
  | "+" => .ok (wrap (a + b))
  | "-" => .ok (wrap (a - b))
  | "*" => .ok (wrap (a * b))
  | "/" => if b = 0 then .error (.expression "division by zero") else .ok (wrap (a.tdiv b))
  | "%" => if b = 0 then .error (.expression "division by zero") else .ok (wrap (a.tmod b))
  | "<<" => .ok (bits fun x y => x <<< y)
  | ">>" => .ok (a / (2 ^ (b % 64).toNat : Nat))
  | "<" => .ok (ofBool (a < b))
  | "<=" => .ok (ofBool (a ≤ b))
  | ">" => .ok (ofBool (b < a))
  | ">=" => .ok (ofBool (b ≤ a))
  | "==" => .ok (ofBool (a == b))
  | "!=" => .ok (ofBool (a != b))
  | "&" => .ok (bits fun x y => x &&& y)
  | "|" => .ok (bits fun x y => x ||| y)
  | _ => .ok (bits fun x y => x ^^^ y)

/-- Values of parameters that differ from those at the start. -/
abbrev Assigned := List (Octets × Int)

/-- The number that a parameter holds. -/
def numberIn (value : Octets) : Except ArithmeticError Int :=
  let cs := value.dropWhile Octets.isSpace
  let (negative, cs) := match cs with
    | '-' :: rest => (true, rest)
    | '+' :: rest => (false, rest)
    | cs => (false, cs)
  let (n, rest) := numberAt cs
  if rest.any fun c => !Octets.isSpace c then .error (.illegalNumber value)
  else .ok (if negative then -(n : Int) else n)

/-- The value of an expression, with the assignments that it makes. -/
def evaluate (lookup : Octets → Octets) : Formula → Assigned → Except ArithmeticError (Int × Assigned)
  | .number n, s => .ok (wrap n, s)
  | .parameter name, s =>
    match s.lookup name with
    | some n => .ok (n, s)
    | none => (numberIn (lookup name)).map fun n => (n, s)
  | .unary op a, s =>
    (evaluate lookup a s).map fun (n, s) =>
      (match op with
        | '-' => wrap (-n)
        | '!' => ofBool (n == 0)
        | '~' => -n - 1
        | _ => n, s)
  | .binary op a b, s =>
    match evaluate lookup a s with
    | .error e => .error e
    | .ok (x, s) =>
      match evaluate lookup b s with
      | .error e => .error e
      | .ok (y, s) => (apply op x y).map fun n => (n, s)
  | .both a b, s =>
    match evaluate lookup a s with
    | .error e => .error e
    | .ok (x, s) =>
      if x = 0 then .ok (0, s) else (evaluate lookup b s).map fun (y, s) => (ofBool (y != 0), s)
  | .either a b, s =>
    match evaluate lookup a s with
    | .error e => .error e
    | .ok (x, s) =>
      if x ≠ 0 then .ok (1, s) else (evaluate lookup b s).map fun (y, s) => (ofBool (y != 0), s)
  | .choice test a b, s =>
    match evaluate lookup test s with
    | .error e => .error e
    | .ok (x, s) => if x ≠ 0 then evaluate lookup a s else evaluate lookup b s
  | .assign name op a, s =>
    match evaluate lookup a s with
    | .error e => .error e
    | .ok (y, s) =>
      let old : Except ArithmeticError Int :=
        if op = "" then .ok 0
        else
          match s.lookup name with
          | some n => .ok n
          | none => numberIn (lookup name)
      match old with
      | .error e => .error e
      | .ok x => (apply op x y).map fun n => (n, (name, n) :: s)

end Formula

end Assay.Sandbox.Shell
