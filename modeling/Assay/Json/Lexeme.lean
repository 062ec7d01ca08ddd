import Assay.Json.Problem

/-!
The pieces of a JSON text: blanks, words, strings and numbers. Every function returns what it has
read and the rest of the text.
-/

namespace Assay.Json

open Number (Binary64)

/-- Reading from the front of a text. -/
abbrev Step (α : Type) := Except Problem (α × List Char)

def isBlank (c : Char) : Bool := c == ' ' || c == '\n' || c == '\t' || c == '\r'

def skipBlanks (cs : List Char) : List Char := cs.dropWhile isBlank

/-- The rest of a word whose first letter has been read. -/
def readWord : List Char → List Char → Step Unit
  | [], cs => .ok ((), cs)
  | _ :: _, [] => .error .ended
  | w :: ws, c :: cs => if w = c then readWord ws cs else .error .malformed

/-- The value of a hexadecimal digit. -/
def hexValue? (c : Char) : Option Nat :=
  if '0' ≤ c ∧ c ≤ '9' then some (c.toNat - '0'.toNat)
  else if 'a' ≤ c ∧ c ≤ 'f' then some (c.toNat - 'a'.toNat + 10)
  else if 'A' ≤ c ∧ c ≤ 'F' then some (c.toNat - 'A'.toNat + 10)
  else none

/-- Four hexadecimal digits. The text ends too early if fewer than four bytes are left of it. -/
def readHexWord (cs : List Char) : Step Nat :=
  if (cs.take 4).foldl (fun n c => n + c.utf8Size) 0 < 4 then .error .ended
  else
    match cs with
    | a :: b :: c :: d :: rest =>
      match hexValue? a, hexValue? b, hexValue? c, hexValue? d with
      | some a, some b, some c, some d => .ok (((a * 16 + b) * 16 + c) * 16 + d, rest)
      | _, _, _, _ => .error .malformed
    | _ => .error .malformed

/-- The second half of a surrogate pair, as an escape. -/
def readLowSurrogate : List Char → Step Nat
  | [] => .error .ended
  | '\\' :: cs =>
    match cs with
    | [] => .error .ended
    | 'u' :: cs =>
      match readHexWord cs with
      | .error e => .error e
      | .ok (n, rest) => if 0xDC00 ≤ n ∧ n ≤ 0xDFFF then .ok (n, rest) else .error .malformed
    | _ => .error .malformed
  | _ => .error .malformed

/-- The character of a `\u` escape; surrogates have to come in pairs. -/
def readUnicodeEscape (cs : List Char) : Step Char :=
  match readHexWord cs with
  | .error e => .error e
  | .ok (n, rest) =>
    if 0xDC00 ≤ n ∧ n ≤ 0xDFFF then .error .malformed
    else if 0xD800 ≤ n ∧ n ≤ 0xDBFF then
      match readLowSurrogate rest with
      | .error e => .error e
      | .ok (m, rest) => .ok (Char.ofNat (0x10000 + (n - 0xD800) * 0x400 + (m - 0xDC00)), rest)
    else .ok (Char.ofNat n, rest)

/-- The character of an escape whose backslash has been read. -/
def readEscape : List Char → Step Char
  | [] => .error .ended
  | c :: rest =>
    match c with
    | '"' => .ok ('"', rest)
    | '\\' => .ok ('\\', rest)
    | '/' => .ok ('/', rest)
    | 'b' => .ok ('\x08', rest)
    | 'f' => .ok ('\x0c', rest)
    | 'n' => .ok ('\n', rest)
    | 'r' => .ok ('\r', rest)
    | 't' => .ok ('\t', rest)
    | 'u' => readUnicodeEscape rest
    | _ => .error .malformed

/-- A string whose opening quote has been read. Every round reads a character at least, so the
length of the text is enough fuel. -/
def readStringFrom (read : List Char) : Nat → List Char → Step String
  | 0, _ => .error .ended
  | _ + 1, [] => .error .ended
  | fuel + 1, c :: rest =>
    if c == '"' then .ok (String.ofList read.reverse, rest)
    else if c == '\\' then
      match readEscape rest with
      | .error e => .error e
      | .ok (c, rest) => readStringFrom (c :: read) fuel rest
    else if c.toNat < 32 then .error .malformed
    else readStringFrom (c :: read) fuel rest

def readString (cs : List Char) : Step String := readStringFrom [] (cs.length + 1) cs

/-- Pass over a string whose opening quote has been read; surrogates need no partner here. -/
def skipStringFrom : Nat → List Char → Step Unit
  | 0, _ => .error .ended
  | _ + 1, [] => .error .ended
  | fuel + 1, c :: rest =>
    if c == '"' then .ok ((), rest)
    else if c == '\\' then
      match rest with
      | [] => .error .ended
      | 'u' :: rest =>
        match readHexWord rest with
        | .error e => .error e
        | .ok (_, rest) => skipStringFrom fuel rest
      | c :: rest =>
        if ['"', '\\', '/', 'b', 'f', 'n', 'r', 't'].contains c then skipStringFrom fuel rest
        else .error .malformed
    else if c.toNat < 32 then .error .malformed
    else skipStringFrom fuel rest

def skipString (cs : List Char) : Step Unit := skipStringFrom (cs.length + 1) cs

/-- A number of a text: an integer that fits a word, or a double. -/
inductive Numeral where
  | natural (n : Nat)
  | negative (n : Int)
  | float (x : Binary64)

/-- The powers of ten up to `1e308`. -/
def powerOfTen (e : Nat) : Binary64 := .ofDecimal false 1 e

/-- Scale a significand by a power of ten: one multiplication or division for an exponent up to
308, and one division by `1e308` for every 308 more. None if the value is too large. -/
def scaleDown : Nat → Binary64 → Nat → Binary64
  | 0, x, _ => x
  | fuel + 1, x, e =>
    if e ≤ 308 then x / powerOfTen e
    else if x.equal 0 then x
    else scaleDown fuel (x / powerOfTen 308) (e - 308)

/-- The value of `significand * 10 ^ exponent`. -/
def scaled? (significand : Nat) (exponent : Int) : Option Binary64 :=
  let x := Binary64.ofNat significand
  match exponent with
  | .negSucc e => some (scaleDown 10 x (e + 1))
  | .ofNat e =>
    if e ≤ 308 then
      let y := x * powerOfTen e
      if y.isFinite then some y else none
    else if significand = 0 then some x
    else none

/-- The greatest natural number of a 64-bit word. -/
def maxWord : Nat := 2 ^ 64 - 1

/-- Read digits into a significand while it fits a word. The result says how many digits were
read, and whether one was left because the significand was full. -/
def takeSignificand (significand count : Nat) : List Char → Nat × Nat × Bool × List Char
  | [] => (significand, count, false, [])
  | c :: rest =>
    if c.isDigit then
      let next := significand * 10 + (c.toNat - '0'.toNat)
      if maxWord < next then (significand, count, true, c :: rest)
      else takeSignificand next (count + 1) rest
    else (significand, count, false, c :: rest)

def floatNumeral (positive : Bool) (significand : Nat) (exponent : Int) (rest : List Char) :
    Step Numeral :=
  match scaled? significand exponent with
  | none => .error .malformed
  | some x => .ok (.float (if positive then x else -x), rest)

/-- The exponent part, whose `e` has been read. -/
def readExponent (positive : Bool) (significand : Nat) (exponent : Int) (cs : List Char) :
    Step Numeral :=
  let (up, cs) := match cs with
    | '+' :: rest => (true, rest)
    | '-' :: rest => (false, rest)
    | _ => (true, cs)
  match cs with
  | [] => .error .ended
  | c :: rest =>
    if !c.isDigit then .error .malformed
    else
      let digits := c :: rest.takeWhile Char.isDigit
      let rest := rest.dropWhile Char.isDigit
      let e : Nat := digits.foldl (fun n d => min (n * 10 + (d.toNat - '0'.toNat)) (2 ^ 31)) 0
      if 2 ^ 31 ≤ e then
        if up ∧ significand ≠ 0 then .error .malformed
        else .ok (.float (if positive then 0 else -0), rest)
      else floatNumeral positive significand (exponent + if up then (e : Int) else -(e : Int)) rest

/-- What may follow the digits: an exponent or nothing. -/
def readAfterDigits (positive : Bool) (significand : Nat) (exponent : Int) (cs : List Char) :
    Step Numeral :=
  match cs with
  | 'e' :: rest => readExponent positive significand exponent rest
  | 'E' :: rest => readExponent positive significand exponent rest
  | _ => floatNumeral positive significand exponent cs

/-- The fraction, whose point has been read. Digits that do not fit the significand are dropped. -/
def readFraction (positive : Bool) (significand : Nat) (exponent : Int) (cs : List Char) :
    Step Numeral :=
  let (significand, count, full, rest) := takeSignificand significand 0 cs
  if full then readAfterDigits positive significand (exponent - count) (rest.dropWhile Char.isDigit)
  else if count = 0 then
    match rest with
    | [] => .error .ended
    | _ => .error .malformed
  else readAfterDigits positive significand (exponent - count) rest

/-- A number whose sign has been read. -/
def readNumeral (positive : Bool) (cs : List Char) : Step Numeral :=
  match cs with
  | [] => .error .ended
  | c :: rest =>
    if !c.isDigit then .error .malformed
    else if c = '0' ∧ (rest.head?.any Char.isDigit) then .error .malformed
    else
      let (significand, _, full, rest) := takeSignificand 0 0 (c :: rest)
      let dropped := if full then (rest.takeWhile Char.isDigit).length else 0
      let rest := if full then rest.dropWhile Char.isDigit else rest
      match rest with
      | '.' :: rest => readFraction positive significand dropped rest
      | 'e' :: rest => readExponent positive significand dropped rest
      | 'E' :: rest => readExponent positive significand dropped rest
      | _ =>
        if full then floatNumeral positive significand dropped rest
        else if positive then .ok (.natural significand, rest)
        else if significand = 0 ∨ 2 ^ 63 < significand then
          .ok (.float (-(Binary64.ofNat significand)), rest)
        else .ok (.negative (-(significand : Int)), rest)

/-- Pass over a number whose sign has been read. A number that is cut short counts as malformed. -/
def skipNumeral (cs : List Char) : Step Unit :=
  match cs with
  | [] => .error .malformed
  | c :: rest =>
    if !c.isDigit then .error .malformed
    else if c = '0' ∧ (rest.head?.any Char.isDigit) then .error .malformed
    else
      let rest := if c = '0' then rest else rest.dropWhile Char.isDigit
      let afterFraction : Option (List Char) := match rest with
        | '.' :: d :: rest => if d.isDigit then some (rest.dropWhile Char.isDigit) else none
        | ['.'] => none
        | _ => some rest
      match afterFraction with
      | none => .error .malformed
      | some (e :: rest) =>
        if e = 'e' ∨ e = 'E' then
          let rest := match rest with
            | '+' :: rest => rest
            | '-' :: rest => rest
            | _ => rest
          match rest with
          | d :: rest => if d.isDigit then .ok ((), rest.dropWhile Char.isDigit) else .error .malformed
          | [] => .error .malformed
        else .ok ((), e :: rest)
      | some [] => .ok ((), [])

def Numeral.found : Numeral → Found
  | .natural n => .integer n
  | .negative n => .integer n
  | .float x => .float x

end Assay.Json
