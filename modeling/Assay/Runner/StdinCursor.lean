import Assay.Text.Lines

/-!
The standard input of one run, read line by line.
-/

namespace Assay.Runner

/-- The lines of an input, how many of them have been read, and whether the input ended with a
newline. -/
structure StdinCursor where
  lines : List String
  position : Nat
  endsWithNewline : Bool
  deriving DecidableEq, Repr

namespace StdinCursor

def ofString (stdin : String) : StdinCursor where
  lines := Text.lines stdin
  position := 0
  endsWithNewline := stdin.toList.getLast? == some '\n'

/-- The next line, if one is left. -/
def next (c : StdinCursor) : Option String × StdinCursor :=
  match c.lines[c.position]? with
  | none => (none, c)
  | some line => (some line, { c with position := c.position + 1 })

/-- The number of lines that have not been read. -/
def remaining (c : StdinCursor) : Nat := c.lines.length - c.position

/-- A line that is read is not left any more. -/
theorem remaining_lt_of_next {c c' : StdinCursor} {line : String}
    (h : c.next = (some line, c')) : c'.remaining < c.remaining := by
  unfold next at h
  split at h
  · cases h
  · next hline =>
    cases h
    have hlt := (List.getElem?_eq_some_iff.mp hline).1
    unfold remaining
    dsimp only
    omega

/-- Read all that is left and write it with newlines between the lines, behind the text that is
written already; `none` as long as no line is. -/
def writeLines (c : StdinCursor) (written : Option String) : Option String :=
  match _h : c.next with
  | (none, _) => written
  | (some line, rest) =>
    rest.writeLines <| some <|
      match written with
      | none => line
      | some text => text ++ "\n" ++ line
termination_by c.remaining
decreasing_by exact remaining_lt_of_next _h

/-- Everything that is left, as a program receives it: newlines between the lines, and one more
at the end if the input had it and a line is left to end. -/
def feed (c : StdinCursor) : String :=
  match c.writeLines none with
  | none => ""
  | some text => if c.endsWithNewline then text ++ "\n" else text

end StdinCursor

end Assay.Runner
