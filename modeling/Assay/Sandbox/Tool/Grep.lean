import Assay.Sandbox.Pattern
import Assay.Sandbox.Tool.Arguments

/-!
`grep`: lines in which an expression is found.
-/

namespace Assay.Sandbox.Tool

open Pattern (Span)

/-- A regular expression. -/
inductive Regex where
  | nothing
  | one (negated : Bool) (spans : List Span)
  | both (a b : Regex)
  | either (a b : Regex)
  | many (a : Regex)
  /-- A part in parentheses. -/
  | group (a : Regex)
  | lineStart
  | lineEnd

namespace Regex

def ofChar (c : Char) : Regex := .one false [⟨c, c⟩]

/-- Rests of one text are the same if they are equally long. -/
def distinct (rests : List Octets) : List Octets :=
  rests.foldl (fun kept cs => if kept.any fun k => k.length == cs.length then kept else kept ++ [cs]) []

/-- Everything that can be reached from some rests in any number of steps that take octets. -/
def reached (step : Octets → List Octets) : Nat → List Octets → List Octets → List Octets
  | 0, _, all => all
  | fuel + 1, frontier, all =>
    let next := distinct (frontier.flatMap fun cs => (step cs).filter fun rest => rest.length < cs.length)
    let fresh := next.filter fun cs => !all.any fun k => k.length == cs.length
    if fresh.isEmpty then all else reached step fuel fresh (all ++ fresh)

/-- The rests that may remain after the expression has been found at the front of a text. -/
def rests (fold : Bool) : Regex → Bool → Octets → List Octets
  | .nothing, _, cs => [cs]
  | .one negated spans, _, cs =>
    match cs with
    | [] => []
    | c :: rest =>
      let hit := Pattern.inSpans c spans ||
        (fold && (Pattern.inSpans c.toLower spans || Pattern.inSpans c.toUpper spans))
      if hit != negated then [rest] else []
  | .both a b, atStart, cs =>
    distinct <| (rests fold a atStart cs).flatMap fun rest =>
      rests fold b (atStart && rest.length == cs.length) rest
  | .either a b, atStart, cs => distinct (rests fold a atStart cs ++ rests fold b atStart cs)
  | .many a, atStart, cs =>
    reached (fun rest => rests fold a (atStart && rest.length == cs.length) rest) (cs.length + 1)
      [cs] [cs]
  | .group a, atStart, cs => rests fold a atStart cs
  | .lineStart, atStart, cs => if atStart then [cs] else []
  | .lineEnd, _, cs => if cs.isEmpty then [cs] else []

end Regex

/-- Which characters are operators without a backslash before them. -/
structure Dialect where
  extended : Bool
  deriving DecidableEq, Repr

/-- An operator or an operand of an expression. -/
inductive Lexeme where
  | operand (r : Regex)
  | opening
  | closing
  | bar
  | star
  | plus
  | optional

def readLexeme (d : Dialect) (first : Bool) (cs : Octets) : Option (Lexeme × Octets) :=
  match cs with
  | [] => none
  | '\\' :: c :: rest =>
    if d.extended then some (.operand (.ofChar c), rest)
    else
      match c with
      | '(' => some (.opening, rest)
      | ')' => some (.closing, rest)
      | '|' => some (.bar, rest)
      | '+' => some (.plus, rest)
      | '?' => some (.optional, rest)
      | c => some (.operand (.ofChar c), rest)
  | '.' :: rest => some (.operand (.one true []), rest)
  | '[' :: rest =>
    let (negated, inner) := match rest with
      | '^' :: inner => (true, inner)
      | inner => (false, inner)
    match Pattern.readSet true [] (inner.length + 1) (inner.map fun c => (c, false)) with
    | some (spans, after) => some (.operand (.one negated spans), after.map Prod.fst)
    | none => some (.operand (.ofChar '['), rest)
  | '*' :: rest => some (if first then .operand (.ofChar '*') else .star, rest)
  | '^' :: rest =>
    some (if d.extended || first then .operand .lineStart else .operand (.ofChar '^'), rest)
  | '$' :: rest =>
    some (if d.extended || rest.isEmpty then .operand .lineEnd else .operand (.ofChar '$'), rest)
  | c :: rest =>
    if d.extended then
      match c with
      | '(' => some (.opening, rest)
      | ')' => some (.closing, rest)
      | '|' => some (.bar, rest)
      | '+' => some (.plus, rest)
      | '?' => some (.optional, rest)
      | c => some (.operand (.ofChar c), rest)
    else some (.operand (.ofChar c), rest)

/-- Read alternatives up to a closing parenthesis; `done` holds what has been read of the branch
that is open, and `last` its last operand, which a repetition would be about. -/
def readRegex (d : Dialect) : Nat → Regex → Regex → Bool → Octets → Regex × Octets
  | 0, done, last, _, cs => (.both done last, cs)
  | fuel + 1, done, last, first, cs =>
    match readLexeme d first cs with
    | none => (.both done last, [])
    | some (.closing, rest) => (.both done last, rest)
    | some (.bar, rest) =>
      let (other, rest) := readRegex d fuel .nothing .nothing true rest
      (.either (.both done last) other, rest)
    | some (.opening, rest) =>
      let (inner, rest) := readRegex d fuel .nothing .nothing true rest
      readRegex d fuel (.both done last) (.group inner) false rest
    | some (.star, rest) => readRegex d fuel done (.many last) false rest
    | some (.plus, rest) => readRegex d fuel done (.both last (.many last)) false rest
    | some (.optional, rest) => readRegex d fuel done (.either last .nothing) false rest
    | some (.operand r, rest) => readRegex d fuel (.both done last) r false rest

def Regex.ofText (d : Dialect) (cs : Octets) : Regex :=
  (readRegex d (cs.length + 1) .nothing .nothing true cs).1

/-- A text taken as it is. -/
def Regex.ofLiteral (cs : Octets) : Regex := cs.foldr (fun c r => .both (.ofChar c) r) .nothing

/-- The longest place of an expression at the front of a text. -/
def longest (fold : Bool) (r : Regex) (atStart : Bool) (cs : Octets) : Option Octets :=
  (r.rests fold atStart cs).foldl (fun best rest =>
    match best with
    | none => some rest
    | some other => some (if rest.length < other.length then rest else other)) none

/-- The parts of an expression that stand in a row. -/
def Regex.inRow : Regex → List Regex
  | .both a b => a.inRow ++ b.inRow
  | r => [r]

/-- What the first group of an expression stands for when it is found at the front of a text; none
if it has no group. -/
def firstGroup? (r : Regex) (cs : Octets) : Option Octets :=
  let parts := r.inRow
  let isGroup : Regex → Bool
    | .group _ => true
    | _ => false
  let before := parts.takeWhile fun p => !isGroup p
  match parts.drop before.length with
  | group :: after =>
    let row (rs : List Regex) : Regex := rs.foldr .both .nothing
    let isShorter (a b : Octets) : Bool := a.length ≤ b.length
    let starts := ((row before).rests false true cs).mergeSort isShorter
    let places := starts.flatMap fun start =>
      ((group.rests false false start).mergeSort isShorter).filterMap fun rest =>
        match longest false (row after) false rest with
        | some last => some (start.take (start.length - rest.length), last)
        | none => none
    some <| match places.mergeSort fun a b => isShorter a.2 b.2 with
      | (text, _) :: _ => text
      | [] => []
  | [] => none

/-- The places of an expression in a line, one after another. -/
def placesIn (fold : Bool) (r : Regex) : Nat → Bool → Octets → List Octets
  | 0, _, _ => []
  | fuel + 1, atStart, cs =>
    match longest fold r atStart cs, cs with
    | some rest, _ :: tail =>
      if rest.length = cs.length then placesIn fold r fuel false tail
      else cs.take (cs.length - rest.length) :: placesIn fold r fuel false rest
    | none, _ :: tail => placesIn fold r fuel false tail
    | some _, [] => [[]]
    | none, [] => []

/-- How much of a line an expression has to stand for. -/
inductive Extent where
  | anything
  /-- Whole words. -/
  | words
  | line
  deriving DecidableEq

def isWordOctet (c : Char) : Bool := c.isAlphanum || c == '_'

/-- Whether an expression is found in a line. -/
def isFound (fold : Bool) (extent : Extent) (r : Regex) (line : Octets) : Bool :=
  let places (f : Option Char → Octets → Bool) : Bool :=
    ((none :: line.map some).zip (Octets.suffixes line)).any fun (before, rest) =>
      (r.rests fold before.isNone rest).any (f before)
  match extent with
  | .line => (r.rests fold true line).contains []
  | .anything => places fun _ _ => true
  | .words => places fun before rest => !before.any isWordOctet && !rest.head?.any isWordOctet

def grepUsage : Usage where
  name := "grep"
  options := "e:m:f:EFGivnclqoxwhHsa"
  long := [("regexp", 'e'), ("max-count", 'm'), ("extended-regexp", 'E'), ("fixed-strings", 'F'),
    ("ignore-case", 'i'), ("invert-match", 'v'), ("line-number", 'n'), ("count", 'c'),
    ("files-with-matches", 'l'), ("quiet", 'q'), ("silent", 'q'), ("only-matching", 'o'),
    ("line-regexp", 'x'), ("word-regexp", 'w'), ("no-filename", 'h')]
  hint := "Usage: grep [OPTION]... PATTERNS [FILE]...\nTry 'grep --help' for more information.\n"
  misuse := 2

def grep : Tool := grepUsage.run fun a => do
  let (patterns, operands) : List Octets × List Octets := match a.value? 'e', a.operands with
    | some _, operands =>
      (a.options.filterMap fun o => if o.1 == 'e' then some o.2 else none, operands)
    | none, pattern :: operands => ([pattern], operands)
    | none, [] => ([], [])
  if patterns.isEmpty then
    Exec.writeText 2 grepUsage.hint
    return 2
  let compile (p : Octets) : Regex :=
    if a.has 'F' then .ofLiteral p else .ofText ⟨a.has 'E'⟩ p
  let regexes := (patterns.flatMap Octets.lines).map compile
  let regexes := if regexes.isEmpty then [.nothing] else regexes
  let fold := a.has 'i'
  let extent := if a.has 'x' then .line else if a.has 'w' then .words else Extent.anything
  let (inputs, status) ← inputsOf "grep" id operands
  if inputs.any fun i => !i.flow.cycle.isEmpty then throw .expired
  let limit := ((a.value? 'm').bind Octets.toNat?)
  let mut found := false
  for input in inputs do
    let hits := ((Octets.lines input.flow.start).zipIdx 1).filter fun (line, _) =>
      (regexes.any fun r => isFound fold extent r line) != a.has 'v'
    let hits := match limit with
      | some n => hits.take n
      | none => hits
    let title := if (1 < operands.length || a.has 'H') && !a.has 'h' then input.name ++ [':'] else []
    if !hits.isEmpty then found := true
    if a.has 'q' then pure ()
    else if a.has 'l' then
      if !hits.isEmpty then Exec.write 1 (input.name ++ ['\n'])
    else if a.has 'c' then Exec.write 1 (title ++ Octets.ofNat hits.length ++ ['\n'])
    else
      for (line, n) in hits do
        let before := title ++ (if a.has 'n' then Octets.ofNat n ++ [':'] else [])
        if a.has 'o' then
          let places := regexes.flatMap fun r => placesIn fold r (line.length + 1) true line
          for place in places.filter fun cs => !cs.isEmpty do
            Exec.write 1 (before ++ place ++ ['\n'])
        else Exec.write 1 (before ++ line ++ ['\n'])
  return if status != 0 then 2 else if found then 0 else 1

end Assay.Sandbox.Tool
