import Assay.Sandbox.Tool.Text

/-!
`echo` and `printf`.
-/

namespace Assay.Sandbox.Tool

/-- What an escape stands for, after its backslash, and the rest of the text. An unknown escape
stands for its backslash alone. -/
def readEscape (cs : Octets) : Char × Octets :=
  match cs with
  | [] => ('\\', [])
  | c :: rest =>
    if Octets.isOctalDigit c then
      let digits := cs.take 3 |>.takeWhile Octets.isOctalDigit
      (Char.ofNat (Octets.valueOf 8 digits % 256), cs.drop digits.length)
    else
      match c with
      | '\\' => ('\\', rest)
      | 'a' => ('\x07', rest)
      | 'b' => ('\x08', rest)
      | 'f' => ('\x0c', rest)
      | 'n' => ('\n', rest)
      | 'r' => ('\r', rest)
      | 't' => ('\t', rest)
      | 'v' => ('\x0b', rest)
      | _ => ('\\', cs)

/-- Resolve escapes as `echo` does: octal digits follow a zero, and `\c` ends all output. -/
def resolveEscapes : Nat → Octets → Octets × Bool
  | 0, cs => (cs, false)
  | _ + 1, [] => ([], false)
  | fuel + 1, '\\' :: cs =>
    match cs with
    | 'c' :: _ => ([], true)
    | _ =>
      let cs := match cs with
        | '0' :: d :: rest => if Octets.isOctalDigit d then d :: rest else '0' :: d :: rest
        | cs => cs
      let (c, rest) := readEscape cs
      let (text, ended) := resolveEscapes fuel rest
      (c :: text, ended)
  | fuel + 1, c :: rest =>
    let (text, ended) := resolveEscapes fuel rest
    (c :: text, ended)

/-- The text that `echo` writes; `\c` ends it at once. -/
def echoText (words : List Octets) : Octets :=
  let (newline, words) := match words with
    | ['-', 'n'] :: rest => (false, rest)
    | words => (true, words)
  let line := Octets.join [' '] words
  let (text, ended) := resolveEscapes (line.length + 1) line
  if newline && !ended then text ++ ['\n'] else text

def echo : Tool := fun words => do
  Exec.write 1 (echoText words)
  return 0

/-- The options at the front of the words of `echo`: whether there is a newline, and whether escapes
are resolved. -/
def echoOptions : List Octets → Bool × Bool → (Bool × Bool) × List Octets
  | [], on => (on, [])
  | word :: rest, on =>
    match word with
    | '-' :: c :: cs =>
      if (c :: cs).all fun d => d == 'n' || d == 'e' || d == 'E' then
        echoOptions rest ((c :: cs).foldl (fun (newline, escapes) d =>
          if d = 'n' then (false, escapes) else (newline, d == 'e')) on)
      else (on, word :: rest)
    | _ => (on, word :: rest)

/-- The `echo` that is a program: it leaves escapes alone unless it is asked to resolve them. -/
def plainEcho : Tool := fun words => do
  let ((newline, escapes), words) := echoOptions words (true, false)
  let line := Octets.join [' '] words
  let (text, ended) := if escapes then resolveEscapes (line.length + 1) line else (line, false)
  Exec.write 1 (if newline && !ended then text ++ ['\n'] else text)
  return 0

/-! ### Formats -/

/-- A conversion of a format. -/
structure Conversion where
  flags : List Char
  width : Nat
  precision : Option Nat
  kind : Char

/-- What a run over a format has done so far. -/
structure Printed where
  /-- The text, the last octet first. -/
  text : Octets
  words : List Octets
  /-- Whether any conversion took a word. -/
  used : Bool
  complaints : List Octets
  ended : Bool
  /-- The format itself is wrong. -/
  broken : Bool

namespace Printed

def put (p : Printed) (cs : Octets) : Printed := { p with text := cs.reverse ++ p.text }

def next (p : Printed) : Option Octets × Printed :=
  match p.words with
  | [] => (none, { p with used := true })
  | word :: rest => (some word, { p with words := rest, used := true })

end Printed

/-- A number as C reads it, and what is left after it. -/
def readInteger (cs : Octets) : Int × Octets :=
  let cs := cs.dropWhile Octets.isSpace
  let (negative, cs) := match cs with
    | '-' :: rest => (true, rest)
    | '+' :: rest => (false, rest)
    | cs => (false, cs)
  let (base, digits, rest) := match cs with
    | '0' :: x :: rest =>
      if (x == 'x' || x == 'X') && (rest.head?.any Octets.isHexDigit) then
        (16, rest.takeWhile Octets.isHexDigit, rest.dropWhile Octets.isHexDigit)
      else (8, ('0' :: x :: rest).takeWhile Octets.isOctalDigit,
        ('0' :: x :: rest).dropWhile Octets.isOctalDigit)
    | cs => (10, cs.takeWhile Char.isDigit, cs.dropWhile Char.isDigit)
  let n : Int := Octets.valueOf base digits
  (if negative then -n else n, if digits.isEmpty then cs else rest)

/-- The number of a word: a quote and an octet, or digits. A complaint says what is wrong. -/
def numberOf (word : Octets) : Int × Option Octets :=
  match word with
  | '"' :: c :: _ => (c.toNat, none)
  | '\'' :: c :: _ => (c.toNat, none)
  | word =>
    let (n, rest) := readInteger word
    if rest.isEmpty then (n, none)
    else if rest.length = word.length then
      (0, some (word ++ Octets.ofText ": expected numeric value"))
    else (n, some (word ++ Octets.ofText ": not completely converted"))

/-- A converted text in its field. -/
def inField (c : Conversion) (cs : Octets) : Octets :=
  let missing := List.replicate (c.width - cs.length) ' '
  if c.flags.contains '-' then cs ++ missing else missing ++ cs

/-- Digits with their sign in a field. -/
def numberInField (c : Conversion) (sign digits : Octets) : Octets :=
  let digits := match c.precision with
    | some p => List.replicate (p - digits.length) '0' ++ digits
    | none =>
      if c.flags.contains '0' && !c.flags.contains '-' then
        List.replicate (c.width - sign.length - digits.length) '0' ++ digits
      else digits
  inField c (sign ++ digits)

def signOf (c : Conversion) (negative : Bool) : Octets :=
  if negative then ['-']
  else if c.flags.contains '+' then ['+']
  else if c.flags.contains ' ' then [' ']
  else []

/-- Round a decimal to a number of places, a half going to the even neighbour. -/
def roundPlaces (units : Nat) (given want : Nat) : Nat :=
  if given ≤ want then units * 10 ^ (want - given)
  else
    let unit := 10 ^ (given - want)
    let q := units / unit
    let r := units % unit
    if unit < 2 * r || (2 * r = unit && q % 2 = 1) then q + 1 else q

/-- Convert a word. -/
def convert (c : Conversion) (p : Printed) : Printed :=
  match c.kind with
  | '%' => p.put ['%']
  | 's' =>
    let (word, p) := p.next
    let word := word.getD []
    p.put (inField c (match c.precision with
      | some n => word.take n
      | none => word))
  | 'b' =>
    let (word, p) := p.next
    let word := word.getD []
    let (text, ended) := resolveEscapes (word.length + 1) word
    { p.put (inField c text) with ended }
  | 'c' =>
    let (word, p) := p.next
    p.put (inField c ((word.getD []).take 1))
  | 'f' =>
    let (word, p) := p.next
    let (units, places) := ((word.bind decimal?).getD (0, 0))
    let want := c.precision.getD 6
    let rounded : Int := roundPlaces units.natAbs places want
    p.put (numberInField { c with precision := none } (signOf c (units < 0)) (decimalText rounded want))
  | kind =>
    let (word, p) := p.next
    let (n, complaint) := (word.map numberOf).getD (0, none)
    let p := { p with complaints := p.complaints ++ complaint.toList }
    let unsigned := (n % (2 ^ 64)).toNat
    let mark (base : Octets) : Octets := if c.flags.contains '#' && unsigned != 0 then base else []
    match kind with
    | 'o' => p.put (numberInField c (mark ['0']) (Nat.toDigits 8 unsigned))
    | 'x' => p.put (numberInField c (mark ['0', 'x']) (Nat.toDigits 16 unsigned))
    | 'X' => p.put (numberInField c (mark ['0', 'X']) ((Nat.toDigits 16 unsigned).map Char.toUpper))
    | 'u' => p.put (numberInField c [] (Nat.toDigits 10 unsigned))
    | _ => p.put (numberInField c (signOf c (n < 0)) (Octets.ofNat n.natAbs))

/-- A width or a precision: digits, or a star that takes a word. -/
def readSize (cs : Octets) (p : Printed) : Int × Octets × Printed :=
  match cs with
  | '*' :: rest =>
    let (word, p) := p.next
    (((word.map numberOf).getD (0, none)).1, rest, p)
  | cs =>
    let digits := cs.takeWhile Char.isDigit
    ((Octets.toNat? digits).getD 0, cs.drop digits.length, p)

/-- Run once over a format. -/
def formatOnce : Nat → Octets → Printed → Printed
  | 0, _, p => p
  | _ + 1, [], p => p
  | fuel + 1, '\\' :: cs, p =>
    let (c, rest) := readEscape cs
    formatOnce fuel rest (p.put [c])
  | fuel + 1, '%' :: cs, p =>
    let flags := cs.takeWhile fun c => ['-', '0', '+', ' ', '#'].contains c
    let (width, cs, p) := readSize (cs.drop flags.length) p
    let flags := if width < 0 then '-' :: flags else flags
    let (precision, cs, p) := match cs with
      | '.' :: cs =>
        let (n, cs, p) := readSize cs p
        (some n.toNat, cs, p)
      | cs => (none, cs, p)
    match cs with
    | [] =>
      { p with
        ended := true
        broken := true
        complaints := p.complaints ++ [Octets.ofText "missing format character"] }
    | kind :: rest =>
      if ['%', 's', 'b', 'c', 'd', 'i', 'o', 'u', 'x', 'X', 'f'].contains kind then
        let p := convert ⟨flags, width.natAbs, precision, kind⟩ p
        if p.ended then p else formatOnce fuel rest p
      else
        { p with
          ended := true
          broken := true
          complaints := p.complaints ++
            ['%' :: flags ++ [kind] ++ Octets.ofText ": invalid directive"] }
  | fuel + 1, c :: rest, p => formatOnce fuel rest (p.put [c])

/-- Run over a format until all words are used. -/
def formatAll (format : Octets) : Nat → Printed → Printed
  | 0, p => p
  | fuel + 1, p =>
    let p := formatOnce (format.length + 1) format { p with used := false }
    if p.ended || p.words.isEmpty || !p.used then p else formatAll format fuel p

/-- What a format makes of words. -/
def formatted (format : Octets) (words : List Octets) : Printed :=
  formatAll format (words.length + 1) ⟨[], words, false, [], false, false⟩

/-- `printf`, which complains through `report`. -/
def printf (report : Octets → Exec Unit) : Tool := fun words => do
  let words := match words with
    | ['-', '-'] :: rest => rest
    | words => words
  match words with
  | [] =>
    report (Octets.ofText "usage: printf format [arg ...]")
    return 2
  | format :: words =>
    let p := formatted format words
    p.complaints.forM report
    Exec.write 1 p.text.reverse
    return if p.broken then 2 else if p.complaints.isEmpty then 0 else 1

end Assay.Sandbox.Tool
