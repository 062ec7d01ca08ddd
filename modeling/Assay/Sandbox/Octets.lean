import Assay.Text.Utf8

/-!
What programs read and write: octets, each one written as the character of its number.
-/

namespace Assay.Sandbox

/-- A sequence of octets. No character in it is above U+00FF. -/
abbrev Octets := List Char

namespace Octets

def ofBytes (bytes : List UInt8) : Octets := bytes.map fun b => Char.ofNat b.toNat

def toBytes (cs : Octets) : List UInt8 := cs.map fun c => UInt8.ofNat c.toNat

def ofText (s : String) : Octets := ofBytes (Text.Utf8.encode s)

def toText (cs : Octets) : String := Text.Utf8.decode cs.toBytes

def isBlank (c : Char) : Bool := c == ' ' || c == '\t'

/-- Blanks of the standard locale. -/
def isSpace (c : Char) : Bool :=
  c == ' ' || c == '\t' || c == '\n' || c == '\r' || c == '\x0b' || c == '\x0c'

def ofNat (n : Nat) : Octets := Nat.toDigits 10 n

def ofInt (n : Int) : Octets := if n < 0 then '-' :: ofNat n.natAbs else ofNat n.natAbs

/-- The value of digits of a base. -/
def valueOf (base : Nat) (digits : List Char) : Nat :=
  digits.foldl (fun n c =>
    let d := if c.isDigit then c.toNat - '0'.toNat
      else if 'a' ≤ c ∧ c ≤ 'z' then c.toNat - 'a'.toNat + 10
      else c.toNat - 'A'.toNat + 10
    n * base + d) 0

def isOctalDigit (c : Char) : Bool := '0' ≤ c && c ≤ '7'

def isHexDigit (c : Char) : Bool :=
  c.isDigit || ('a' ≤ c && c ≤ 'f') || ('A' ≤ c && c ≤ 'F')

/-- A natural number in decimal. -/
def toNat? (cs : Octets) : Option Nat :=
  if cs.isEmpty || !cs.all Char.isDigit then none else some (valueOf 10 cs)

/-- An integer in decimal with an optional sign, blanks around it. -/
def toInt? (cs : Octets) : Option Int :=
  let cs := (cs.dropWhile isSpace).reverse.dropWhile isSpace |>.reverse
  match cs with
  | '-' :: digits => (toNat? digits).map fun n => -(n : Int)
  | '+' :: digits => (toNat? digits).map fun n => (n : Int)
  | digits => (toNat? digits).map fun n => (n : Int)

/-- Cut at a separator; `pending` holds the open piece, the last octet first, and `pieces` those
before it, the last piece first. -/
def splitFrom (separator : Char) (pieces : List Octets) (pending : Octets) : Octets → List Octets
  | [] => (pending.reverse :: pieces).reverse
  | c :: rest =>
    if c = separator then splitFrom separator (pending.reverse :: pieces) [] rest
    else splitFrom separator pieces (c :: pending) rest

/-- Cut at a separator; there is one piece more than there are separators. -/
def splitAt (separator : Char) (cs : Octets) : List Octets := splitFrom separator [] [] cs

/-- The lines of a text, without their newlines; a last line need not have one. -/
def lines (cs : Octets) : List Octets :=
  let rows := splitAt '\n' cs
  if cs.isEmpty || cs.getLast? == some '\n' then rows.dropLast else rows

def unlines (ls : List Octets) : Octets := ls.flatMap fun l => l ++ ['\n']

/-- Pieces with a separator between them. -/
def join (separator : Octets) (pieces : List Octets) : Octets :=
  match pieces with
  | [] => []
  | piece :: rest => piece ++ rest.flatMap fun p => separator ++ p

/-- All the ends of a text, the whole of it first. -/
def suffixes : Octets → List Octets
  | [] => [[]]
  | c :: rest => (c :: rest) :: suffixes rest

end Octets

end Assay.Sandbox
