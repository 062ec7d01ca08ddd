import Assay.Sandbox.Machine

/-!
What the tools have in common: their options, their operands and their complaints.
-/

namespace Assay.Sandbox

/-- A tool gets the words after its name and gives its exit status. -/
abbrev Tool := List Octets → Exec Nat

namespace Tool

/-- The words of a tool, sorted into options, each with its value if it takes one, and operands. -/
structure Arguments where
  options : List (Char × Octets)
  operands : List Octets

namespace Arguments

def has (a : Arguments) (c : Char) : Bool := a.options.any fun o => o.1 == c

/-- The value of the last use of an option. -/
def value? (a : Arguments) (c : Char) : Option Octets := a.options.reverse.lookup c

end Arguments

open Files (SystemError)

/-- Complain on standard error. -/
def complain (name : String) (message : Octets) : Exec Unit :=
  Exec.write 2 (Octets.ofText name ++ [':', ' '] ++ message ++ ['\n'])

/-- A name between quotes. -/
def quoted (name : Octets) : Octets := '\'' :: name ++ ['\'']

/-- How a tool reads its words. -/
structure Usage where
  name : String
  /-- The options, with a colon after each one that takes a value. -/
  options : String
  /-- Long names of options. -/
  long : List (String × Char)
  /-- What is said after the complaint about a misuse. -/
  hint : String
  /-- The status of a misuse. -/
  misuse : Nat

namespace Usage

/-- The usage of most tools. -/
def of (name options : String) (long : List (String × Char)) : Usage where
  name := name
  options := options
  long := long
  hint := s!"Try '{name} --help' for more information.\n"
  misuse := 1

/-- Whether an option takes a value; none if there is no such option. -/
def takesValue? (u : Usage) (c : Char) : Option Bool :=
  match u.options.toList.dropWhile (· != c) with
  | [] => none
  | _ :: ':' :: _ => some true
  | _ => some false

/-- The options of one word, and whether the last of them still lacks its value. -/
def readCluster (u : Usage) : List Char → Except Octets (List (Char × Octets) × Option Char)
  | [] => .ok ([], none)
  | c :: rest =>
    match u.takesValue? c with
    | none => .error (Octets.ofText "invalid option -- " ++ quoted [c])
    | some true => .ok (if rest.isEmpty then ([], some c) else ([(c, rest)], none))
    | some false => (u.readCluster rest).map fun (options, lacking) => ((c, []) :: options, lacking)

/-- The option of a long name, with its value if the same word gives it. -/
def readLong (u : Usage) (cs : Octets) : Except Octets (List (Char × Octets) × Option Char) :=
  let name := cs.takeWhile (· != '=')
  let value := (cs.dropWhile (· != '=')).drop 1
  match u.long.lookup (String.ofList name) with
  | none => .error (Octets.ofText "unrecognized option " ++ quoted ('-' :: '-' :: name))
  | some c =>
    if u.takesValue? c == some true && cs.length = name.length then .ok ([], some c)
    else .ok ([(c, value)], none)

/-- Sort the words of a tool. Options may come after operands. -/
def read (u : Usage) : List Octets → Except Octets Arguments
  | [] => .ok ⟨[], []⟩
  | word :: rest =>
    let operand := (u.read rest).map fun a => ⟨a.options, word :: a.operands⟩
    let cluster : Option (Except Octets (List (Char × Octets) × Option Char)) := match word with
      | '-' :: '-' :: cs => some (u.readLong cs)
      | '-' :: c :: cs => some (u.readCluster (c :: cs))
      | _ => none
    if word = ['-', '-'] then .ok ⟨[], rest⟩
    else
      match cluster, rest with
      | none, _ => operand
      | some (.error message), _ => .error message
      | some (.ok (options, none)), rest =>
        (u.read rest).map fun a => ⟨options ++ a.options, a.operands⟩
      | some (.ok (options, some c)), value :: rest =>
        (u.read rest).map fun a => ⟨options ++ (c, value) :: a.options, a.operands⟩
      | some (.ok (_, some c)), [] =>
        .error (Octets.ofText "option requires an argument -- " ++ quoted [c])

/-- Complain about a misuse. -/
def refuse (u : Usage) (message : Octets) : Exec Nat := do
  complain u.name message
  Exec.writeText 2 u.hint
  return u.misuse

/-- A tool that gets its words sorted. -/
def run (u : Usage) (f : Arguments → Exec Nat) : Tool := fun words =>
  match u.read words with
  | .error message => u.refuse message
  | .ok a => f a

end Usage

/-- An operand and what it holds. -/
structure Input where
  name : Octets
  flow : Flow

/-- The content of an operand; a dash is standard input. -/
def readOperand (operand : Octets) : Exec (Except SystemError Flow) := do
  if operand = ['-'] then return .ok (← Exec.takeFlow 0)
  Exec.readFile operand

/-- Read the operands one after another. `subject` begins what is said about one that cannot be
read; the status is then one. -/
def readInputs (name : String) (subject : Octets → Octets) : List Octets → Exec (List Input × Nat)
  | [] => return ([], 0)
  | operand :: rest => do
    match ← readOperand operand with
    | .error e =>
      complain name (subject operand ++ [':', ' '] ++ Octets.ofText e.description)
      let (inputs, _) ← readInputs name subject rest
      return (inputs, 1)
    | .ok flow =>
      let (inputs, status) ← readInputs name subject rest
      return (⟨operand, flow⟩ :: inputs, status)

/-- Read the operands, or standard input if there are none. -/
def inputsOf (name : String) (subject : Octets → Octets) (operands : List Octets) :
    Exec (List Input × Nat) :=
  readInputs name subject (if operands.isEmpty then [['-']] else operands)

/-- All inputs in one text; one without an end never comes to an end. -/
def wholeText (inputs : List Input) : Exec Octets := do
  if inputs.any fun i => !i.flow.cycle.isEmpty then throw .expired
  return inputs.flatMap fun i => i.flow.start

/-- A tool that maps the text of its inputs. -/
def textTool (name : String) (subject : Octets → Octets) (operands : List Octets)
    (f : Octets → Octets) : Exec Nat := do
  let (inputs, status) ← inputsOf name subject operands
  Exec.write 1 (f (← wholeText inputs))
  return status

end Tool

end Assay.Sandbox
