import Assay.Number.Text

/-!
JSON values and their text.
-/

namespace Assay

open Number (Binary64)

/-- A JSON value. Integers that fit a word keep their digits; other numbers are doubles. Members
of an object are in the order of the text. -/
inductive Json where
  | null
  | bool (b : Bool)
  | int (n : Int)
  | float (x : Binary64)
  | text (s : String)
  | array (items : List Json)
  | object (members : List (String × Json))

instance : Inhabited Json := ⟨.null⟩

namespace Json

/-- How one character stands inside a string. -/
def escapeChar (c : Char) : List Char :=
  if c == '"' then ['\\', '"']
  else if c == '\\' then ['\\', '\\']
  else if c == '\n' then ['\\', 'n']
  else if c == '\r' then ['\\', 'r']
  else if c == '\t' then ['\\', 't']
  else if c.toNat == 8 then ['\\', 'b']
  else if c.toNat == 12 then ['\\', 'f']
  else if c.toNat < 32 then ['\\', 'u'] ++ Number.padLeft 4 (Nat.toDigits 16 c.toNat)
  else [c]

def quote (s : String) : String := String.ofList ('"' :: s.toList.flatMap escapeChar ++ ['"'])

def intText (n : Int) : String :=
  String.ofList ((if n < 0 then ['-'] else []) ++ Number.decimalDigitsOf n.natAbs)

/-- The text of a value without children. -/
def scalarText : Json → String
  | .null => "null"
  | .bool b => if b then "true" else "false"
  | .int n => intText n
  | .float x => if x.isFinite then x.toText .signed else "null"
  | .text s => quote s
  | .array _ => "[]"
  | .object _ => "\x7b\x7d"

mutual

/-- Write a value behind a text, on one line and without blanks. -/
def writeCompact (before : String) : Json → String
  | .array items => writeItems (before ++ "[") items ++ "]"
  | .object members => writeMembers (before ++ "\x7b") members ++ "\x7d"
  | v => before ++ v.scalarText

def writeItems (before : String) : List Json → String
  | [] => before
  | [v] => writeCompact before v
  | v :: rest => writeItems (writeCompact before v ++ ",") rest

def writeMembers (before : String) : List (String × Json) → String
  | [] => before
  | [(k, v)] => writeCompact (before ++ quote k ++ ":") v
  | (k, v) :: rest => writeMembers (writeCompact (before ++ quote k ++ ":") v ++ ",") rest

end

/-- The text of a value on one line. -/
def compact (v : Json) : String := writeCompact "" v

/-- A new line, indented by two spaces for each level. -/
def newline (level : Nat) : String := String.ofList ('\n' :: List.replicate (2 * level) ' ')

mutual

/-- Write a value behind a text, every item and member on a line of its own. -/
def writePretty (level : Nat) (before : String) : Json → String
  | .array [] => before ++ "[]"
  | .array items => prettyItems (level + 1) (before ++ "[") items ++ newline level ++ "]"
  | .object [] => before ++ "\x7b\x7d"
  | .object members => prettyMembers (level + 1) (before ++ "\x7b") members ++ newline level ++ "\x7d"
  | v => before ++ v.scalarText

def prettyItems (level : Nat) (before : String) : List Json → String
  | [] => before
  | [v] => writePretty level (before ++ newline level) v
  | v :: rest => prettyItems level (writePretty level (before ++ newline level) v ++ ",") rest

def prettyMembers (level : Nat) (before : String) : List (String × Json) → String
  | [] => before
  | [(k, v)] => writePretty level (before ++ newline level ++ quote k ++ ": ") v
  | (k, v) :: rest =>
    prettyMembers level (writePretty level (before ++ newline level ++ quote k ++ ": ") v ++ ",") rest

end

/-- The text of a value over several lines. -/
def pretty (v : Json) : String := writePretty 0 "" v

mutual

/-- The same value with the members of every object in the order of their names. -/
def sortMembers : Json → Json
  | .array items => .array (sortItems items)
  | .object members => .object ((sortEach members).mergeSort fun a b => !decide (b.1 < a.1))
  | v => v

def sortItems : List Json → List Json
  | [] => []
  | v :: rest => v.sortMembers :: sortItems rest

def sortEach : List (String × Json) → List (String × Json)
  | [] => []
  | (k, v) :: rest => (k, v.sortMembers) :: sortEach rest

end

/-- The last member of a name. -/
def member? (name : String) : Json → Option Json
  | .object members => members.reverse.lookup name
  | _ => none

end Json

end Assay
