import Assay.Sandbox.Octets

/-!
File name patterns: `*` stands for any text, `?` for any octet and `[…]` for one of a set.
-/

namespace Assay.Sandbox.Pattern

/-- One range of a set, both ends included. -/
structure Span where
  low : Char
  high : Char
  deriving DecidableEq, Repr

inductive Token where
  | octet (c : Char)
  | any
  | many
  | oneOf (negated : Bool) (spans : List Span)
  deriving DecidableEq, Repr

/-- An octet of a word, and whether it was quoted; quoted octets stand for themselves. -/
abbrev Marked := Char × Bool

/-- The spans of a named class of octets. -/
def classSpans (name : List Char) : List Span :=
  match String.ofList name with
  | "digit" => [⟨'0', '9'⟩]
  | "lower" => [⟨'a', 'z'⟩]
  | "upper" => [⟨'A', 'Z'⟩]
  | "alpha" => [⟨'a', 'z'⟩, ⟨'A', 'Z'⟩]
  | "alnum" => [⟨'a', 'z'⟩, ⟨'A', 'Z'⟩, ⟨'0', '9'⟩]
  | "space" => [⟨'\t', '\r'⟩, ⟨' ', ' '⟩]
  | "blank" => [⟨'\t', '\t'⟩, ⟨' ', ' '⟩]
  | "punct" => [⟨'!', '/'⟩, ⟨':', '@'⟩, ⟨'[', '\x60'⟩, ⟨'\x7b', '~'⟩]
  | "cntrl" => [⟨'\x00', '\x1f'⟩, ⟨'\x7f', '\x7f'⟩]
  | "print" => [⟨' ', '~'⟩]
  | "graph" => [⟨'!', '~'⟩]
  | "xdigit" => [⟨'0', '9'⟩, ⟨'a', 'f'⟩, ⟨'A', 'F'⟩]
  | _ => []

/-- The rest of a set whose bracket has been read; `first` tells that a closing bracket would
stand for itself. None if the set is not closed. -/
def readSet (first : Bool) (spans : List Span) : Nat → List Marked → Option (List Span × List Marked)
  | 0, _ => none
  | _ + 1, [] => none
  | fuel + 1, (c, quoted) :: rest =>
    if c = ']' ∧ !quoted ∧ !first then some (spans.reverse, rest)
    else
      match c, rest with
      | '[', (':', _) :: named =>
        let name := (named.takeWhile fun m => m.1 != ':').map Prod.fst
        match named.dropWhile fun m => m.1 != ':' with
        | _ :: (']', _) :: rest => readSet false ((classSpans name).reverse ++ spans) fuel rest
        | _ => readSet false (⟨c, c⟩ :: spans) fuel rest
      | _, ('-', false) :: (high, _) :: others =>
        if high = ']' then readSet false (⟨c, c⟩ :: spans) fuel rest
        else readSet false (⟨c, high⟩ :: spans) fuel others
      | _, _ => readSet false (⟨c, c⟩ :: spans) fuel rest

/-- The tokens of a word. -/
def compileFrom : Nat → List Marked → List Token
  | 0, _ => []
  | _ + 1, [] => []
  | fuel + 1, (c, quoted) :: rest =>
    if quoted then .octet c :: compileFrom fuel rest
    else
      match c with
      | '*' => .many :: compileFrom fuel rest
      | '?' => .any :: compileFrom fuel rest
      | '[' =>
        let (negated, inner) := match rest with
          | ('!', false) :: inner => (true, inner)
          | ('^', false) :: inner => (true, inner)
          | _ => (false, rest)
        match readSet true [] (inner.length + 1) inner with
        | some (spans, rest) => .oneOf negated spans :: compileFrom fuel rest
        | none => .octet c :: compileFrom fuel rest
      | '\\' =>
        match rest with
        | (d, _) :: rest => .octet d :: compileFrom fuel rest
        | [] => [.octet c]
      | _ => .octet c :: compileFrom fuel rest

def compile (word : List Marked) : List Token := compileFrom (word.length + 1) word

def inSpans (c : Char) (spans : List Span) : Bool := spans.any fun s => s.low ≤ c && c ≤ s.high

/-- Whether the tokens stand for the whole text. -/
def isMatch : List Token → Octets → Bool
  | [], cs => cs.isEmpty
  | .many :: rest, cs => (Octets.suffixes cs).any (isMatch rest)
  | _ :: _, [] => false
  | .octet d :: rest, c :: cs => c == d && isMatch rest cs
  | .any :: rest, _ :: cs => isMatch rest cs
  | .oneOf negated spans :: rest, c :: cs => inSpans c spans != negated && isMatch rest cs

/-- Whether a word has a part that does not stand for itself. -/
def isActive (word : List Marked) : Bool :=
  word.any fun (c, quoted) => !quoted && (c == '*' || c == '?' || c == '[')

end Assay.Sandbox.Pattern
