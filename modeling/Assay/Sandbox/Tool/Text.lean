import Assay.Number.Rounding
import Assay.Sandbox.Pattern
import Assay.Sandbox.Tool.Arguments

/-!
Tools that read text and write text.
-/

namespace Assay.Sandbox.Tool

/-- Write a text on the right of a field. -/
def padLeft (width : Nat) (cs : Octets) : Octets := List.replicate (width - cs.length) ' ' ++ cs

/-! ### Copying -/

/-- The lines of a text, each with its number before it. -/
def numbered (cs : Octets) : Octets :=
  ((Octets.lines cs).zipIdx 1).flatMap fun (line, n) =>
    padLeft 6 (Octets.ofNat n) ++ '\t' :: line ++ ['\n']

def cat : Tool := (Usage.of "cat" "nuv" [("number", 'n')]).run fun a => do
  let (inputs, status) ← inputsOf "cat" id a.operands
  if a.has 'n' then Exec.write 1 (numbered (← wholeText inputs))
  else
    for input in inputs do
      let _ ← Exec.writeFlow 1 input.flow
  return status

def tee : Tool := (Usage.of "tee" "aip" [("append", 'a')]).run fun a => do
  let cs ← Exec.takeAll 0
  Exec.write 1 cs
  let mut status := 0
  for file in a.operands do
    match ← Exec.openOutput file (a.has 'a') false with
    | .error e =>
      complain "tee" (file ++ [':', ' '] ++ Octets.ofText e.description)
      status := 1
    | .ok n =>
      Exec.apart do
        Exec.setDescriptor 3 (some n)
        Exec.write 3 cs
  return status

def yes : Tool := fun words => do
  let line := if words.isEmpty then ['y'] else Octets.join [' '] words
  let _ ← Exec.writeFlow 1 ⟨[], line ++ ['\n']⟩
  return 141

/-! ### Beginnings and ends -/

/-- The first lines of a text, with their newlines. -/
def firstLines : Nat → Octets → Octets
  | 0, _ => []
  | count + 1, cs =>
    match cs.dropWhile (· != '\n') with
    | [] => cs
    | _ :: rest => cs.takeWhile (· != '\n') ++ '\n' :: firstLines count rest

/-- The text after its first lines. -/
def afterLines : Nat → Octets → Octets
  | 0, cs => cs
  | count + 1, cs => afterLines count ((cs.dropWhile (· != '\n')).drop 1)

/-- An old option that is a number, such as `-5`, in its full form. -/
def numericOption : List Octets → List Octets
  | ('-' :: c :: cs) :: rest =>
    if (c :: cs).all Char.isDigit then ['-', 'n'] :: (c :: cs) :: rest
    else ('-' :: c :: cs) :: rest
  | words => words

/-- A title before the content of each of several files. -/
def titled (inputs : List Input) (contents : List Octets) : Octets :=
  if inputs.length ≤ 1 then contents.flatten
  else
    Octets.join ['\n'] ((inputs.zip contents).map fun (input, content) =>
      Octets.ofText "==> " ++ input.name ++ Octets.ofText " <==\n" ++ content)

/-- Subjects of complaints about what cannot be opened. -/
def unopened (name : Octets) : Octets := Octets.ofText "cannot open " ++ quoted name ++ " for reading".toList

/-- A count with the sign before it, and the letter of its unit: `n` for lines, `c` for octets. -/
structure Count where
  unit : Char
  sign : Option Char
  number : Nat

/-- The count that `head` or `tail` is asked for. -/
def readCount (a : Arguments) : Except Octets Count :=
  let asked := (a.options.filter fun o => o.1 == 'n' || o.1 == 'c').getLast?
  match asked with
  | none => .ok ⟨'n', none, 10⟩
  | some (unit, value) =>
    let (sign, digits) := match value with
      | '-' :: digits => (some '-', digits)
      | '+' :: digits => (some '+', digits)
      | digits => (none, digits)
    match Octets.toNat? digits with
    | some n => .ok ⟨unit, sign, n⟩
    | none =>
      .error (Octets.ofText (if unit = 'n' then "invalid number of lines: " else "invalid number of bytes: ") ++
        quoted value)

def countOptions : List (String × Char) :=
  [("lines", 'n'), ("bytes", 'c'), ("quiet", 'q'), ("silent", 'q'), ("verbose", 'v')]

def head : Tool := fun words =>
  (Usage.of "head" "n:c:qvz" countOptions).run (fun a => do
    match readCount a with
    | .error message =>
      complain "head" message
      return 1
    | .ok count =>
      let (inputs, status) ← inputsOf "head" unopened a.operands
      let contents ← inputs.mapM fun input => do
        let flow := input.flow
        if count.sign = some '-' then
          if !flow.cycle.isEmpty then throw .expired
          let cs := flow.start
          return if count.unit = 'c' then cs.take (cs.length - count.number)
            else firstLines ((Octets.lines cs).length - count.number) cs
        else if count.unit = 'c' then return Exec.firstOf count.number flow
        else if flow.cycle.isEmpty then return firstLines count.number flow.start
        else
          if !flow.cycle.contains '\n' && (flow.start.filter (· == '\n')).length < count.number then
            throw .expired
          return firstLines count.number
            (flow.start ++ (List.replicate count.number flow.cycle).flatten)
      Exec.write 1 (titled inputs contents)
      return status) (numericOption words)

def tail : Tool := fun words =>
  let words := match words with
    | ('+' :: digits) :: rest => ['-', 'n'] :: ('+' :: digits) :: rest
    | words => numericOption words
  (Usage.of "tail" "n:c:qvz" countOptions).run (fun a => do
    match readCount a with
    | .error message =>
      complain "tail" message
      return 1
    | .ok count =>
      let (inputs, status) ← inputsOf "tail" unopened a.operands
      if inputs.any fun i => !i.flow.cycle.isEmpty then throw .expired
      let contents := inputs.map fun input =>
        let cs := input.flow.start
        let total := if count.unit = 'c' then cs.length else (Octets.lines cs).length
        let before := if count.sign = some '+' then count.number - 1 else total - count.number
        if count.unit = 'c' then cs.drop before else afterLines before cs
      Exec.write 1 (titled inputs contents)
      return status) words

/-! ### Single octets -/

/-- Resolve the escapes of a set of octets. -/
def unescape : Nat → Octets → Octets
  | 0, cs => cs
  | _ + 1, [] => []
  | fuel + 1, '\\' :: c :: rest =>
    if Octets.isOctalDigit c then
      let digits := (c :: rest).take 3 |>.takeWhile Octets.isOctalDigit
      Char.ofNat (Octets.valueOf 8 digits % 256) :: unescape fuel ((c :: rest).drop digits.length)
    else
      let d := match c with
        | 'n' => '\n'
        | 't' => '\t'
        | 'r' => '\r'
        | 'a' => '\x07'
        | 'b' => '\x08'
        | 'f' => '\x0c'
        | 'v' => '\x0b'
        | c => c
      d :: unescape fuel rest
  | fuel + 1, c :: rest => c :: unescape fuel rest

/-- The octets from one to another. -/
def octetRange (low high : Char) : Octets :=
  (List.range (high.toNat + 1 - low.toNat)).map fun i => Char.ofNat (low.toNat + i)

/-- The octets that a set lists. -/
def listed : Nat → Octets → Octets
  | 0, _ => []
  | _ + 1, [] => []
  | fuel + 1, '[' :: ':' :: rest =>
    let name := rest.takeWhile (· != ':')
    match rest.dropWhile (· != ':') with
    | ':' :: ']' :: rest =>
      ((Pattern.classSpans name).flatMap fun s => octetRange s.low s.high) ++ listed fuel rest
    | _ => '[' :: listed fuel (':' :: rest)
  | fuel + 1, low :: '-' :: high :: rest =>
    if low ≤ high then octetRange low high ++ listed fuel rest
    else low :: listed fuel ('-' :: high :: rest)
  | fuel + 1, c :: rest => c :: listed fuel rest

def octetSet (cs : Octets) : Octets :=
  let cs := unescape (cs.length + 1) cs
  listed (cs.length + 1) cs

/-- Keep one of several equal octets in a row. -/
def squeeze (set : Octets) (cs : Octets) : Octets :=
  (cs.foldl (fun (kept : Octets) c =>
    if kept.head? == some c && set.contains c then kept else c :: kept) []).reverse

def trUsage : Usage :=
  .of "tr" "dsctC" [("delete", 'd'), ("squeeze-repeats", 's'), ("complement", 'c'), ("truncate-set1", 't')]

def tr : Tool := trUsage.run fun a => do
  let listOne := octetSet (a.operands.headD [])
  let all := octetRange '\x00' '\u00ff'
  let one := if a.has 'c' || a.has 'C' then all.filter fun c => !listOne.contains c else listOne
  let two := a.operands[1]?.map octetSet
  let translate (cs : Octets) : Octets :=
    if a.has 'd' then
      let kept := cs.filter fun c => !one.contains c
      if a.has 's' then squeeze (two.getD []) kept else kept
    else
      match two with
      | none => if a.has 's' then squeeze one cs else cs
      | some two =>
        let last := two.getLast?.getD ' '
        let table := one.zip (two ++ List.replicate (one.length - two.length) last)
        let mapped := cs.map fun c => ((table.reverse).lookup c).getD c
        if a.has 's' then squeeze two mapped else mapped
  match a.operands with
  | [] => return ← trUsage.refuse (Octets.ofText "missing operand")
  | [one] =>
    if !a.has 'd' && !a.has 's' then
      return ← trUsage.refuse (Octets.ofText "missing operand after " ++ quoted one ++
        Octets.ofText "\nTwo strings must be given when translating.")
  | _ :: _ :: extra :: _ => return ← trUsage.refuse (Octets.ofText "extra operand " ++ quoted extra)
  | _ => pure ()
  let flow ← Exec.takeFlow 0
  let cycle := translate flow.cycle
  if !flow.cycle.isEmpty && cycle.isEmpty then throw .expired
  let _ ← Exec.writeFlow 1 ⟨translate flow.start, cycle⟩
  return 0

/-- The lines of a text with their newlines; a last line need not have one. -/
def wholeLines (cs : Octets) : List Octets :=
  let ls := Octets.lines cs
  if cs.isEmpty || cs.getLast? == some '\n' then ls.map fun l => l ++ ['\n']
  else (ls.dropLast.map fun l => l ++ ['\n']) ++ [ls.getLastD []]

def rev : Tool := (Usage.of "rev" "" []).run fun a =>
  textTool "rev" (fun o => Octets.ofText "cannot open " ++ o) a.operands fun cs =>
    (wholeLines cs).flatMap fun line =>
      if line.getLast? = some '\n' then line.dropLast.reverse ++ ['\n'] else line.reverse

def tac : Tool := (Usage.of "tac" "" []).run fun a =>
  textTool "tac" (fun o => Octets.ofText "failed to open " ++ quoted o ++ " for reading".toList) a.operands
    fun cs => (wholeLines cs).reverse.flatten

/-! ### Lines -/

/-- A decimal at the start of a line, as a whole number of units and the size of the unit. -/
def leadingNumber (cs : Octets) : Int × Nat :=
  let cs := cs.dropWhile Octets.isBlank
  let (negative, cs) := match cs with
    | '-' :: rest => (true, rest)
    | cs => (false, cs)
  let whole := cs.takeWhile Char.isDigit
  let fraction := match cs.dropWhile Char.isDigit with
    | '.' :: rest => rest.takeWhile Char.isDigit
    | _ => []
  let n : Int := Octets.valueOf 10 (whole ++ fraction)
  (if negative then -n else n, 10 ^ fraction.length)

def compareNumbers (a b : Octets) : Ordering :=
  let (n, p) := leadingNumber a
  let (m, q) := leadingNumber b
  compare (n * q) (m * p)

def compareOctets : Octets → Octets → Ordering
  | [], [] => .eq
  | [], _ => .lt
  | _, [] => .gt
  | a :: as, b :: bs => if a = b then compareOctets as bs else compare a.toNat b.toNat

/-- A key of a sorted line: its first and last field, counted from one, and how keys compare. -/
structure Key where
  first : Nat
  last : Option Nat
  numeric : Bool
  backward : Bool

def readKey (numeric backward : Bool) (spec : Octets) : Key :=
  let number (cs : Octets) : Nat := (Octets.toNat? (cs.takeWhile Char.isDigit)).getD 1
  let tail := spec.dropWhile (· != ',')
  { first := number spec
    last := if tail.isEmpty then none else some (number (tail.drop 1))
    numeric := numeric || spec.contains 'n'
    backward := backward || spec.contains 'r' }

/-- Fields with the blanks before them, or between separators. -/
def fieldsOf (separator : Option Char) (line : Octets) : List Octets :=
  match separator with
  | some c => Octets.splitAt c line
  | none =>
    let step (fields : List Octets) (c : Char) : List Octets :=
      match fields with
      | [] => [[c]]
      | field :: rest =>
        if Octets.isBlank c && !(field.all Octets.isBlank) then [c] :: field :: rest
        else (field ++ [c]) :: rest
    (line.foldl step []).reverse

def keyText (separator : Option Char) (key : Key) (line : Octets) : Octets :=
  let fields := (fieldsOf separator line).drop (key.first - 1)
  let fields := match key.last with
    | some last => fields.take (last + 1 - key.first)
    | none => fields
  Octets.join (separator.toList) fields

def compareLines (separator : Option Char) (keys : List Key) (a b : Octets) : Ordering :=
  keys.foldl (fun order key =>
    if order != .eq then order
    else
      let x := keyText separator key a
      let y := keyText separator key b
      let order := if key.numeric then compareNumbers x y else compareOctets x y
      if key.backward then order.swap else order) .eq

/-- Drop lines that compare equal to the one before them. -/
def dropEqual (equal : Octets → Octets → Bool) (ls : List Octets) : List Octets :=
  (ls.foldl (fun (kept : List Octets) line =>
    if kept.head?.any fun other => equal other line then kept else line :: kept) []).reverse

def sortUsage : Usage :=
  { Usage.of "sort" "k:t:o:nrusbdfigcChMRV" [("key", 'k'), ("field-separator", 't'), ("output", 'o'),
      ("numeric-sort", 'n'), ("reverse", 'r'), ("unique", 'u'), ("stable", 's')] with misuse := 2 }

def sort : Tool := sortUsage.run fun a => do
  let numeric := a.has 'n'
  let backward := a.has 'r'
  let separator := (a.value? 't').bind List.head?
  let specs := a.options.filterMap fun o => if o.1 == 'k' then some o.2 else none
  let keys : List Key :=
    if specs.isEmpty then [⟨1, none, numeric, backward⟩] else specs.map (readKey numeric backward)
  let order (x y : Octets) : Ordering :=
    let byKeys := compareLines separator keys x y
    if byKeys != .eq || a.has 'u' || a.has 's' then byKeys
    else if backward then (compareOctets x y).swap
    else compareOctets x y
  let (inputs, status) ← inputsOf "sort" (fun o => Octets.ofText "cannot read: " ++ o) a.operands
  if status != 0 then return 2
  let sorted := (Octets.lines (← wholeText inputs)).mergeSort fun x y => order x y != .gt
  let kept := if a.has 'u' then dropEqual (fun x y => order x y == .eq) sorted else sorted
  match a.value? 'o' with
  | none => Exec.write 1 (Octets.unlines kept)
  | some file =>
    match ← Exec.openOutput file false false with
    | .error e =>
      complain "sort" (Octets.ofText "open failed: " ++ file ++ [':', ' '] ++ Octets.ofText e.description)
      return 2
    | .ok n =>
      Exec.apart do
        Exec.setDescriptor 3 (some n)
        Exec.write 3 (Octets.unlines kept)
  return status

/-- Equal lines in a row, with their number. -/
def runs (ls : List Octets) : List (Nat × Octets) :=
  (ls.foldl (fun (counted : List (Nat × Octets)) line =>
    match counted with
    | (count, other) :: rest =>
      if other = line then (count + 1, line) :: rest else (1, line) :: counted
    | [] => [(1, line)]) []).reverse

def uniq : Tool := (Usage.of "uniq" "cdui" [("count", 'c'), ("repeated", 'd'), ("unique", 'u')]).run fun a =>
  textTool "uniq" id (a.operands.take 1) fun cs =>
    let kept := (runs (Octets.lines cs)).filter fun r =>
      (!a.has 'd' || 1 < r.1) && (!a.has 'u' || r.1 == 1)
    Octets.unlines (kept.map fun (count, line) =>
      if a.has 'c' then padLeft 7 (Octets.ofNat count) ++ ' ' :: line else line)

/-- Positions of a list such as `1,3-5`. -/
def inList (spec : Octets) (n : Nat) : Bool :=
  (Octets.splitAt ',' spec).any fun part =>
    match Octets.splitAt '-' part with
    | [one] => Octets.toNat? one == some n
    | [low, high] =>
      (Octets.toNat? low).getD 1 ≤ n && (high.isEmpty || n ≤ (Octets.toNat? high).getD 0)
    | _ => false

def cutUsage : Usage :=
  .of "cut" "d:f:c:b:sn" [("delimiter", 'd'), ("fields", 'f'), ("characters", 'c'), ("bytes", 'b'),
    ("only-delimited", 's')]

def cut : Tool := cutUsage.run fun a => do
  let choose {α : Type} (spec : Octets) (items : List α) : List α :=
    ((items.zipIdx 1).filter fun (_, n) => inList spec n).map Prod.fst
  if !a.has 'f' && !a.has 'c' && !a.has 'b' then
    return ← cutUsage.refuse (Octets.ofText "you must specify a list of bytes, characters, or fields")
  if (a.value? 'd').any fun d => 1 < d.length then
    return ← cutUsage.refuse (Octets.ofText "the delimiter must be a single character")
  textTool "cut" id a.operands fun cs =>
    let ls := Octets.lines cs
    Octets.unlines <|
      match a.value? 'f', (a.value? 'c').or (a.value? 'b') with
      | some spec, _ =>
        let d := ((a.value? 'd').bind List.head?).getD '\t'
        ls.filterMap fun line =>
          if line.contains d then some (Octets.join [d] (choose spec (Octets.splitAt d line)))
          else if a.has 's' then none
          else some line
      | none, some spec => ls.map (choose spec)
      | none, none => ls

def fold : Tool := (Usage.of "fold" "w:bs" [("width", 'w')]).run fun a =>
  let width := max 1 ((((a.value? 'w').bind Octets.toNat?)).getD 80)
  let step (state : Nat × Octets) (c : Char) : Nat × Octets :=
    if c = '\n' then (0, c :: state.2)
    else if state.1 = width then (1, c :: '\n' :: state.2)
    else (state.1 + 1, c :: state.2)
  textTool "fold" id a.operands fun cs => (cs.foldl step (0, [])).2.reverse

/-- The rows of columns side by side. Columns that are all read from standard input take its lines
in turn. -/
def sideBySide (columns : List (Bool × List Octets)) : List (List Octets) :=
  let shared := (columns.filter Prod.fst).length
  let position (i : Nat) : Nat := ((columns.take i).filter Prod.fst).length
  let height := columns.foldl (fun n (fromInput, ls) =>
    max n (if fromInput then (ls.length + shared - 1) / shared else ls.length)) 0
  (List.range height).map fun row =>
    (columns.zipIdx).map fun ((fromInput, ls), i) =>
      (if fromInput then ls[row * shared + position i]? else ls[row]?).getD []

def paste : Tool := (Usage.of "paste" "d:sz" [("delimiters", 'd'), ("serial", 's')]).run fun a => do
  let separators := octetSet ((a.value? 'd').getD ['\t'])
  let separator (i : Nat) : Octets := (separators[i % max 1 separators.length]?).toList
  let glue (pieces : List Octets) : Octets :=
    (pieces.zipIdx).flatMap fun (piece, i) => if i = 0 then piece else separator (i - 1) ++ piece
  let (inputs, status) ← inputsOf "paste" id a.operands
  let input := ((inputs.filter fun i => i.name == ['-']).flatMap fun i => i.flow.start)
  if inputs.any fun i => !i.flow.cycle.isEmpty then throw .expired
  let columns := inputs.map fun i =>
    if i.name == ['-'] && !a.has 's' then (true, Octets.lines input) else (false, Octets.lines i.flow.start)
  let rows := if a.has 's' then columns.map Prod.snd else sideBySide columns
  Exec.write 1 (Octets.unlines (rows.map glue))
  return status

/-! ### Counting -/

/-- The number of words between blanks. -/
def countWords (cs : Octets) : Nat :=
  (cs.foldl (fun (inside, n) c =>
    if Octets.isSpace c then (false, n) else (true, if inside then n else n + 1)) (false, 0)).2

def wc : Tool := (Usage.of "wc" "lwcmL" [("lines", 'l'), ("words", 'w'), ("bytes", 'c'), ("chars", 'm')]).run
    fun a => do
  let (inputs, status) ← inputsOf "wc" id a.operands
  if inputs.any fun i => !i.flow.cycle.isEmpty then throw .expired
  let none? := !(a.has 'l' || a.has 'w' || a.has 'c' || a.has 'm')
  let counts (cs : Octets) : List Nat :=
    (if none? || a.has 'l' then [(cs.filter (· == '\n')).length] else []) ++
      (if none? || a.has 'w' then [countWords cs] else []) ++
      (if a.has 'm' then [cs.length] else []) ++
      (if none? || a.has 'c' then [cs.length] else [])
  let rows := inputs.map fun i => (counts i.flow.start, if a.operands.isEmpty then [] else i.name)
  let total := inputs.foldl (fun n i => n + i.flow.start.length) 0
  let fromInput := a.operands.isEmpty || a.operands.contains ['-']
  let single := (rows.all fun r => r.1.length ≤ 1) && rows.length ≤ 1
  let width := if single then 1
    else if fromInput then 7
    else (Octets.ofNat total).length
  let sums := rows.foldl (fun sums r => if sums.isEmpty then r.1 else List.zipWith (· + ·) sums r.1) []
  let rows := if 1 < rows.length then rows ++ [(sums, Octets.ofText "total")] else rows
  Exec.write 1 (Octets.unlines (rows.map fun (ns, name) =>
    Octets.join [' '] (ns.map fun n => padLeft width (Octets.ofNat n)) ++
      (if name.isEmpty then [] else ' ' :: name)))
  return status

/-- A decimal as a number of units, and the number of its fraction digits. -/
def decimal? (cs : Octets) : Option (Int × Nat) :=
  let (negative, cs) := match cs with
    | '-' :: rest => (true, rest)
    | '+' :: rest => (false, rest)
    | cs => (false, cs)
  let whole := cs.takeWhile Char.isDigit
  let rest := cs.dropWhile Char.isDigit
  let fraction := match rest with
    | '.' :: digits => digits
    | _ => []
  if (whole ++ fraction).isEmpty || !fraction.all Char.isDigit || (rest.head?.any (· != '.')) then none
  else
    let n : Int := Octets.valueOf 10 (whole ++ fraction)
    some (if negative then -n else n, fraction.length)

/-- A number of units with a point before the last `places` digits. -/
def decimalText (units : Int) (places : Nat) : Octets :=
  let digits := Octets.ofNat units.natAbs
  let digits := List.replicate (places + 1 - digits.length) '0' ++ digits
  let whole := digits.take (digits.length - places)
  (if units < 0 then ['-'] else []) ++ whole ++
    (if places = 0 then [] else '.' :: digits.drop (digits.length - places))

def seqUsage : Usage := .of "seq" "s:f:w" [("separator", 's'), ("equal-width", 'w'), ("format", 'f')]

/-- The words of `seq` with a mark before the first operand, for operands may be negative numbers. -/
def markOperands : List Octets → List Octets
  | [] => []
  | word :: rest =>
    if (decimal? word).isSome then ['-', '-'] :: word :: rest
    else
      match word, rest with
      | ['-', 's'], separator :: rest => word :: separator :: markOperands rest
      | _, rest => word :: markOperands rest

def sequence (a : Arguments) : Exec Nat := do
  let numbers := a.operands.filterMap decimal?
  let places := numbers.foldl (fun n d => max n d.2) 0
  let scaled := numbers.map fun (n, p) => n * (10 ^ (places - p) : Nat)
  let unit : Int := (10 ^ places : Nat)
  let triple : Except Octets (Int × Int × Int) := match a.operands.find? fun w => (decimal? w).isNone with
    | some word => .error (Octets.ofText "invalid floating point argument: " ++ quoted word)
    | none =>
      match scaled with
      | [] => .error (Octets.ofText "missing operand")
      | [last] => .ok (unit, unit, last)
      | [first, last] => .ok (first, unit, last)
      | [first, step, last] =>
        if step = 0 then
          .error (Octets.ofText "invalid Zero increment value: " ++ quoted (a.operands[1]?.getD []))
        else .ok (first, step, last)
      | _ => .error (Octets.ofText "extra operand " ++ quoted (a.operands[3]?.getD []))
  match triple with
  | .error message => seqUsage.refuse message
  | .ok (first, step, last) =>
    let count := if 0 < step then (last - first) / step else (first - last) / (-step)
    let values := if (if 0 < step then last < first else first < last) then []
      else (List.range (count.toNat + 1)).map fun (i : Nat) => first + step * i
    let shown := values.map fun n => decimalText n places
    let width := shown.foldl (fun n cs => max n cs.length) 0
    let shown := if a.has 'w' then shown.map fun cs =>
        match cs with
        | '-' :: digits => '-' :: (List.replicate (width - cs.length) '0' ++ digits)
        | digits => List.replicate (width - cs.length) '0' ++ digits
      else shown
    let separator := (a.value? 's').getD ['\n']
    if !shown.isEmpty then Exec.write 1 (Octets.join separator shown ++ ['\n'])
    return 0

def seq : Tool := fun words => seqUsage.run sequence (markOperands words)

end Assay.Sandbox.Tool
