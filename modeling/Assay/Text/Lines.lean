/-!
Cutting a text at line ends. `lines` takes a carriage return before the newline as part of the
line end and knows no empty line after the last newline; `rows` cuts at newlines alone, so that
joining the rows with newlines gives the text back.
-/

namespace Assay.Text

/-- The lines of `cs`, where `pending` holds the characters of the open line, the last one first. -/
def linesFrom (pending : List Char) : List Char → List (List Char)
  | [] => if pending.isEmpty then [] else [pending.reverse]
  | '\r' :: '\n' :: rest => pending.reverse :: linesFrom [] rest
  | '\n' :: rest => pending.reverse :: linesFrom [] rest
  | c :: rest => linesFrom (c :: pending) rest

/-- The lines of a text. A carriage return that no newline follows stays in its line. -/
def lines (s : String) : List String := (linesFrom [] s.toList).map String.ofList

/-- The rows of `cs`, where `pending` holds the characters of the open row, the last one first. -/
def rowsFrom (pending : List Char) : List Char → List (List Char)
  | [] => [pending.reverse]
  | c :: rest => if c = '\n' then pending.reverse :: rowsFrom [] rest else rowsFrom (c :: pending) rest

/-- The pieces between newlines; there is always one more than there are newlines. -/
def rows (s : String) : List String := (rowsFrom [] s.toList).map String.ofList

end Assay.Text
