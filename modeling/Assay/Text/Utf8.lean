/-!
UTF-8: the bytes of a text, and the text of any bytes. Decoding never fails: every maximal
ill-formed subsequence becomes one replacement character, which is the practice the Unicode
Standard recommends.
-/

namespace Assay.Text.Utf8

/-- The bytes of a text. -/
def encode (s : String) : List UInt8 := s.toList.flatMap String.utf8EncodeChar

/-- What the decoder has read of the character it is in. -/
inductive State where
  /-- Between two characters. -/
  | ready
  /-- `missing` bytes are still to come, the next of them between `low` and `high`; the bits read
  so far are `value`. -/
  | inside (missing value : Nat) (low high : UInt8)
  deriving DecidableEq, Repr

/-- The character that stands for an ill-formed subsequence. -/
def replacement : Char := '\ufffd'

/-- Read a byte where a character begins. The first bytes that would allow an overlong form, a
surrogate or a code point above U+10FFFF narrow the range of the second byte. -/
def start (b : UInt8) : State × List Char :=
  if b < 0x80 then (.ready, [Char.ofNat b.toNat])
  else if b < 0xC2 then (.ready, [replacement])
  else if b < 0xE0 then (.inside 1 (b.toNat - 0xC0) 0x80 0xBF, [])
  else if b < 0xF0 then
    (.inside 2 (b.toNat - 0xE0) (if b = 0xE0 then 0xA0 else 0x80) (if b = 0xED then 0x9F else 0xBF), [])
  else if b < 0xF5 then
    (.inside 3 (b.toNat - 0xF0) (if b = 0xF0 then 0x90 else 0x80) (if b = 0xF4 then 0x8F else 0xBF), [])
  else (.ready, [replacement])

/-- Read one byte. A byte that cannot continue the open character ends it as ill-formed and is
then read as the first byte of the next one. -/
def step : State → UInt8 → State × List Char
  | .ready, b => start b
  | .inside missing value low high, b =>
    if low ≤ b ∧ b ≤ high then
      let value := value * 64 + (b.toNat - 0x80)
      if missing ≤ 1 then (.ready, [Char.ofNat value])
      else (.inside (missing - 1) value 0x80 0xBF, [])
    else
      let (next, out) := start b
      (next, replacement :: out)

/-- Decode the rest of the bytes; `out` holds the characters decoded so far, the last one first. -/
def decodeFrom (out : List Char) : State → List UInt8 → List Char
  | .ready, [] => out.reverse
  | .inside .., [] => (replacement :: out).reverse
  | state, b :: rest =>
    let (next, chars) := step state b
    decodeFrom (chars.reverse ++ out) next rest

/-- The text of the bytes. -/
def decode (bytes : List UInt8) : String := String.ofList (decodeFrom [] .ready bytes)

end Assay.Text.Utf8
