import Assay.Sandbox.Tool.Arguments

/-!
`test`: conditions on texts, numbers and files.
-/

namespace Assay.Sandbox.Tool

/-- A condition that cannot be decided, with the reason. -/
abbrev Decision := ExceptT Octets Exec

def integerWord (word : Octets) : Decision Int :=
  match Octets.toInt? word with
  | some n => return n
  | none => throw (Octets.ofText "Illegal number: " ++ word)

/-- The conditions on one word. -/
def unaryCondition? (op : String) (word : Octets) : Option (Decision Bool) :=
  let onNode (f : Files.Node → Bool) : Decision Bool := do
    return (← Exec.node? word).any f
  match op with
  | "-n" => some (return !word.isEmpty)
  | "-z" => some (return word.isEmpty)
  | "-e" => some (onNode fun _ => true)
  | "-f" => some (onNode fun n => n != .directory)
  | "-d" => some (onNode fun n => n == .directory)
  | "-r" => some (onNode fun _ => true)
  | "-w" => some (onNode fun _ => true)
  | "-x" => some (onNode fun
      | .directory => true
      | .file _ executable => executable)
  | "-s" => some (onNode fun
      | .directory => true
      | .file content _ => !content.isEmpty)
  | "-h" => some (return false)
  | "-L" => some (return false)
  | "-p" => some (return false)
  | "-t" => some do
      let _ ← integerWord word
      return false
  | _ => none

/-- The conditions on two words. -/
def binaryCondition? (op : String) (a b : Octets) : Option (Decision Bool) :=
  let numbers (f : Int → Int → Bool) : Decision Bool := do
    return f (← integerWord a) (← integerWord b)
  match op with
  | "=" => some (return a == b)
  | "!=" => some (return a != b)
  | "<" => some (return decide (String.ofList a < String.ofList b))
  | ">" => some (return decide (String.ofList b < String.ofList a))
  | "-eq" => some (numbers fun x y => x == y)
  | "-ne" => some (numbers fun x y => x != y)
  | "-lt" => some (numbers fun x y => x < y)
  | "-le" => some (numbers fun x y => x ≤ y)
  | "-gt" => some (numbers fun x y => y < x)
  | "-ge" => some (numbers fun x y => y ≤ x)
  | _ => none

def wordText (word : Octets) : String := String.ofList word

mutual

/-- Conditions joined by `-o`. -/
def orCondition : Nat → List Octets → Decision (Bool × List Octets)
  | 0, words => return (false, words)
  | fuel + 1, words => do
    let (a, rest) ← andCondition fuel words
    match rest with
    | ['-', 'o'] :: rest =>
      let (b, rest) ← orCondition fuel rest
      return (a || b, rest)
    | rest => return (a, rest)

/-- Conditions joined by `-a`. -/
def andCondition : Nat → List Octets → Decision (Bool × List Octets)
  | 0, words => return (false, words)
  | fuel + 1, words => do
    let (a, rest) ← notCondition fuel words
    match rest with
    | ['-', 'a'] :: rest =>
      let (b, rest) ← andCondition fuel rest
      return (a && b, rest)
    | rest => return (a, rest)

def notCondition : Nat → List Octets → Decision (Bool × List Octets)
  | 0, words => return (false, words)
  | fuel + 1, words => do
    match words with
    | ['!'] :: w :: rest =>
      let (a, rest) ← notCondition fuel (w :: rest)
      return (!a, rest)
    | words => primaryCondition fuel words

def primaryCondition : Nat → List Octets → Decision (Bool × List Octets)
  | 0, words => return (false, words)
  | fuel + 1, words => do
    match words with
    | a :: op :: b :: rest =>
      match binaryCondition? (wordText op) a b with
      | some condition => return (← condition, rest)
      | none => unaryOrWord fuel words
    | words => unaryOrWord fuel words

def unaryOrWord : Nat → List Octets → Decision (Bool × List Octets)
  | 0, words => return (false, words)
  | fuel + 1, words => do
    match words with
    | [] => return (false, [])
    | ['('] :: rest =>
      if rest.isEmpty then return (true, [])
      let (a, rest) ← orCondition fuel rest
      match rest with
      | [')'] :: rest => return (a, rest)
      | _ => throw (Octets.ofText "closing paren expected")
    | [word] => return (!word.isEmpty, [])
    | op :: word :: rest =>
      match unaryCondition? (wordText op) word with
      | some condition => return (← condition, rest)
      | none =>
        if rest.isEmpty && (binaryCondition? (wordText word) [] []).isSome then
          throw (word ++ Octets.ofText ": argument expected")
        return (!op.isEmpty, word :: rest)

end

/-- Decide a condition. -/
def decideCondition (words : List Octets) : Decision Bool := do
  let fuel := 5 * words.length + 5
  let (answer, rest) ← match words with
    | [['!'], a, op, b] =>
      match binaryCondition? (wordText op) a b with
      | some condition => pure (!(← condition), [])
      | none => orCondition fuel words
    | words => orCondition fuel words
  match rest with
  | [] => return answer
  | _ =>
    let read := words.take (words.length - rest.length)
    throw (read.getLastD [] ++ Octets.ofText ": unexpected operator")

/-- `test`, or `[` when the last word has to be a bracket. -/
def test (bracket : Bool) (report : Octets → Exec Unit) : Tool := fun words => do
  if bracket && words.getLast? != some [']'] then
    report (Octets.ofText "missing ]")
    return 2
  match ← (decideCondition (if bracket then words.dropLast else words)).run with
  | .ok answer => return if answer then 0 else 1
  | .error reason =>
    report reason
    return 2

end Assay.Sandbox.Tool
