import Assay.Json.Lexeme
import Assay.Json.Value

/-!
Readers of values of a wanted shape.

A reader goes through the text once, from left to right, so the first problem in the order of the
text is the one that is reported. It is given the number of containers that may still be opened.
-/

namespace Assay.Json

/-- A reader: the container budget and the text, to a value and the rest of the text. -/
abbrev Reader (α : Type) := Nat → List Char → Step α

/-- Containers that may be open at a time, plus one. -/
def containerBudget : Nat := 128

/-- Read a whole text. -/
def Reader.run {α : Type} (r : Reader α) (s : String) : Except Problem α :=
  match r containerBudget s.toList with
  | .error e => .error e
  | .ok (value, rest) => if (skipBlanks rest).isEmpty then .ok value else .error .malformed

/-- Apply a function to what is read. -/
def Reader.map {α β : Type} (f : α → β) (r : Reader α) : Reader β := fun budget cs =>
  match r budget cs with
  | .error e => .error e
  | .ok (value, rest) => .ok (f value, rest)

/-- The problem of a text that does not begin with the wanted value. A word, number or string is
read first, since it may be malformed itself. -/
def unexpected (expected : String) (cs : List Char) : Problem :=
  let wrong (found : Found) : Problem := .unfit (.wrongType found expected)
  let ofStep {α : Type} (s : Step α) (found : α → Found) : Problem :=
    match s with
    | .error e => e
    | .ok (value, _) => wrong (found value)
  match cs with
  | [] => .ended
  | c :: rest =>
    match c with
    | 'n' => ofStep (readWord ['u', 'l', 'l'] rest) fun _ => .null
    | 't' => ofStep (readWord ['r', 'u', 'e'] rest) fun _ => .bool true
    | 'f' => ofStep (readWord ['a', 'l', 's', 'e'] rest) fun _ => .bool false
    | '-' => ofStep (readNumeral false rest) Numeral.found
    | '"' => ofStep (readString rest) .text
    | '[' => wrong .sequence
    | '\x7b' => wrong .map
    | _ => if c.isDigit then ofStep (readNumeral true cs) Numeral.found else .malformed

/-- A string. -/
def Reader.text (expected : String) : Reader String := fun _ cs =>
  match skipBlanks cs with
  | '"' :: rest => readString rest
  | cs => .error (unexpected expected cs)

/-- An integer between `low` and `high`. -/
def Reader.integer (low high : Int) (expected : String) : Reader Int := fun _ cs =>
  let check (n : Int) (rest : List Char) : Step Int :=
    if low ≤ n ∧ n ≤ high then .ok (n, rest) else .error (.unfit (.wrongValue n expected))
  let ofStep (s : Step Numeral) : Step Int :=
    match s with
    | .error e => .error e
    | .ok (.natural n, rest) => check n rest
    | .ok (.negative n, rest) => check n rest
    | .ok (.float x, _) => .error (.unfit (.wrongType (.float x) expected))
  match skipBlanks cs with
  | [] => .error .ended
  | '-' :: rest => ofStep (readNumeral false rest)
  | c :: rest =>
    if c.isDigit then ofStep (readNumeral true (c :: rest))
    else .error (unexpected expected (c :: rest))

/-- A natural number of a word. -/
def Reader.word (expected : String) : Reader Nat := (Reader.integer 0 maxWord expected).map Int.toNat

/-- A value, or none for `null`. -/
def Reader.optional {α : Type} (r : Reader α) : Reader (Option α) := fun budget cs =>
  match skipBlanks cs with
  | 'n' :: rest =>
    match readWord ['u', 'l', 'l'] rest with
    | .error e => .error e
    | .ok (_, rest) => .ok (none, rest)
  | cs => r.map some budget cs

/-- Nothing but `null`. -/
def Reader.unit : Reader Unit := fun _ cs =>
  match skipBlanks cs with
  | 'n' :: rest => readWord ['u', 'l', 'l'] rest
  | cs => .error (unexpected "unit" cs)

/-- The place of the next item of a sequence; none before its end. -/
def nextItem (first : Bool) (cs : List Char) : Except Problem (Option (List Char)) :=
  match skipBlanks cs with
  | [] => .error .ended
  | ']' :: _ => .ok none
  | c :: rest =>
    if first then .ok (some (c :: rest))
    else if c = ',' then
      match skipBlanks rest with
      | [] => .error .ended
      | ']' :: _ => .error .malformed
      | rest => .ok (some rest)
    else .error .malformed

/-- The end of a container. Anything else there is too much. -/
def closeWith {α : Type} (close : Char) (value : α) (cs : List Char) : Step α :=
  match skipBlanks cs with
  | [] => .error .ended
  | c :: rest => if c = close then .ok (value, rest) else .error .malformed

/-- The items of a sequence; `first` tells that none of them has been read yet, and `read` holds
those that are wanted, the last one first. Every item takes a character at least. -/
def readItems {α : Type} (r : Reader α) (budget : Nat) (first : Bool) (read : List α) :
    Nat → List Char → Step (List α)
  | 0, _ => .error .ended
  | fuel + 1, cs =>
    match nextItem first cs with
    | .error e => .error e
    | .ok none => .ok (read.reverse, cs)
    | .ok (some cs) =>
      match r budget cs with
      | .error e => .error e
      | .ok (value, rest) => readItems r budget false (value :: read) fuel rest

/-- A sequence of values of one shape. -/
def Reader.list {α : Type} (r : Reader α) : Reader (List α) := fun budget cs =>
  match skipBlanks cs with
  | '[' :: rest =>
    if budget ≤ 1 then .error .malformed
    else
      match readItems r (budget - 1) true [] (rest.length + 1) rest with
      | .error e => .error e
      | .ok (values, rest) => closeWith ']' values rest
  | cs => .error (unexpected "a sequence" cs)

/-- The place after the opening quote of the next name in an object; none before its end. -/
def nextKey (first : Bool) (cs : List Char) : Except Problem (Option (List Char)) :=
  match skipBlanks cs with
  | [] => .error .ended
  | '\x7d' :: _ => .ok none
  | c :: rest =>
    let place := if first then some (c :: rest) else if c = ',' then some (skipBlanks rest) else none
    match place with
    | none => .error .malformed
    | some [] => .error .ended
    | some ('"' :: rest) => .ok (some rest)
    | some _ => .error .malformed

/-- The colon between a name and its value. -/
def readColon (cs : List Char) : Step Unit :=
  match skipBlanks cs with
  | [] => .error .ended
  | ':' :: rest => .ok ((), rest)
  | _ => .error .malformed

/-- The members of an object that holds values of one shape. -/
def readMembers {α : Type} (r : Reader α) (budget : Nat) (read : List (String × α)) :
    Nat → List Char → Step (List (String × α))
  | 0, _ => .error .ended
  | fuel + 1, cs =>
    match nextKey read.isEmpty cs with
    | .error e => .error e
    | .ok none => .ok (read.reverse, cs)
    | .ok (some cs) =>
      match readString cs with
      | .error e => .error e
      | .ok (key, rest) =>
        match readColon rest with
        | .error e => .error e
        | .ok (_, rest) =>
          match r budget rest with
          | .error e => .error e
          | .ok (value, rest) => readMembers r budget ((key, value) :: read) fuel rest

/-- Keep the last value of every key, at the place of the first. -/
def lastOfEach {α : Type} (members : List (String × α)) : List (String × α) :=
  members.foldl (fun kept (k, v) =>
    if kept.any fun e => e.1 == k then kept.map fun e => if e.1 == k then (k, v) else e
    else kept ++ [(k, v)]) []

/-- An object that holds values of one shape under any names. -/
def Reader.table {α : Type} (r : Reader α) : Reader (List (String × α)) := fun budget cs =>
  match skipBlanks cs with
  | '\x7b' :: rest =>
    if budget ≤ 1 then .error .malformed
    else
      match readMembers r (budget - 1) [] (rest.length + 1) rest with
      | .error e => .error e
      | .ok (members, rest) => closeWith '\x7d' (lastOfEach members) rest
  | cs => .error (unexpected "a map" cs)

/-- A container that is being passed over. -/
inductive Frame where
  | sequence
  | map
  deriving DecidableEq

def Frame.close : Frame → Char
  | .sequence => ']'
  | .map => '\x7d'

/-- Pass over a word, a number or a string. -/
def skipScalar (cs : List Char) : Step Unit :=
  match cs with
  | [] => .error .ended
  | c :: rest =>
    match c with
    | 'n' => readWord ['u', 'l', 'l'] rest
    | 't' => readWord ['r', 'u', 'e'] rest
    | 'f' => readWord ['a', 'l', 's', 'e'] rest
    | '-' => skipNumeral rest
    | '"' => skipString rest
    | _ => if c.isDigit then skipNumeral cs else .error .malformed

/-- Pass over a name and the colon after it. -/
def skipKey (cs : List Char) : Step Unit :=
  match skipBlanks cs with
  | [] => .error .ended
  | '"' :: rest =>
    match skipString rest with
    | .error e => .error e
    | .ok (_, rest) => readColon rest
  | _ => .error .malformed

mutual

/-- Pass over a value inside the open containers `frames`; they may be nested to any depth. -/
def skipValue : Nat → List Frame → List Char → Step Unit
  | 0, _, _ => .error .ended
  | fuel + 1, frames, cs =>
    match skipBlanks cs with
    | [] => .error .ended
    | '[' :: rest => skipInside fuel true (.sequence :: frames) rest
    | '\x7b' :: rest => skipInside fuel true (.map :: frames) rest
    | cs =>
      match skipScalar cs with
      | .error e => .error e
      | .ok (_, rest) => skipInside fuel false frames rest

/-- Go on inside the innermost container, before its first item or after one. -/
def skipInside : Nat → Bool → List Frame → List Char → Step Unit
  | 0, _, _, _ => .error .ended
  | _ + 1, _, [], cs => .ok ((), cs)
  | fuel + 1, first, frame :: frames, cs =>
    match skipBlanks cs with
    | [] => .error .ended
    | c :: rest =>
      if c = frame.close then skipInside fuel false frames rest
      else
        let place := if first then some (c :: rest) else if c = ',' then some rest else none
        match place with
        | none => .error .malformed
        | some place =>
          match frame with
          | .sequence => skipValue fuel (frame :: frames) place
          | .map =>
            match skipKey place with
            | .error e => .error e
            | .ok (_, rest) => skipValue fuel (frame :: frames) rest

end

/-- Pass over the value of a name that nothing asks for. -/
def skip (cs : List Char) : Step Unit := skipValue (3 * cs.length + 3) [] cs

/-- A member of a record that is being read into `ρ`. -/
structure Member (ρ : Type) where
  name : String
  /-- A missing member is an error; otherwise the start value holds its default. -/
  required : Bool
  store : Reader (ρ → ρ)

/-- A member that has to be there. -/
def Member.mandatory {ρ α : Type} (name : String) (r : Reader α) (set : α → ρ → ρ) : Member ρ :=
  ⟨name, true, r.map set⟩

/-- A member that has a default. -/
def Member.defaulted {ρ α : Type} (name : String) (r : Reader α) (set : α → ρ → ρ) : Member ρ :=
  ⟨name, false, r.map set⟩

/-- The members of a record, from an object. -/
def readFields {ρ : Type} (members : List (Member ρ)) (budget : Nat) (first : Bool)
    (seen : List String) (record : ρ) : Nat → List Char → Step (List String × ρ)
  | 0, _ => .error .ended
  | fuel + 1, cs =>
    match nextKey first cs with
    | .error e => .error e
    | .ok none => .ok ((seen, record), cs)
    | .ok (some cs) =>
      match readString cs with
      | .error e => .error e
      | .ok (key, rest) =>
        match members.find? fun m => m.name == key with
        | none =>
          match readColon rest with
          | .error e => .error e
          | .ok (_, rest) =>
            match skip rest with
            | .error e => .error e
            | .ok (_, rest) => readFields members budget false seen record fuel rest
        | some m =>
          if seen.contains key then .error (.unfit (.duplicateField key))
          else
            match readColon rest with
            | .error e => .error e
            | .ok (_, rest) =>
              match m.store budget rest with
              | .error e => .error e
              | .ok (set, rest) => readFields members budget false (key :: seen) (set record) fuel rest

/-- The members of a record, from a sequence in their order. -/
def readElements {ρ : Type} (title : String) (size budget : Nat) (index : Nat) (record : ρ) :
    List (Member ρ) → List Char → Step ρ
  | [], cs => .ok (record, cs)
  | m :: rest, cs =>
    match nextItem (index == 0) cs with
    | .error e => .error e
    | .ok none =>
      if m.required then
        .error (.unfit (.wrongLength index
          (title ++ s!" with {size} element" ++ if size = 1 then "" else "s")))
      else readElements title size budget (index + 1) record rest cs
    | .ok (some cs) =>
      match m.store budget cs with
      | .error e => .error e
      | .ok (set, cs) => readElements title size budget (index + 1) (set record) rest cs

/-- A record, from an object or from a sequence. Names that it does not have are passed over. -/
def Reader.record {ρ : Type} (title : String) (members : List (Member ρ)) (start : ρ) : Reader ρ :=
  fun budget cs =>
    match skipBlanks cs with
    | '[' :: rest =>
      if budget ≤ 1 then .error .malformed
      else
        match readElements title members.length (budget - 1) 0 start members rest with
        | .error e => .error e
        | .ok (value, rest) => closeWith ']' value rest
    | '\x7b' :: rest =>
      if budget ≤ 1 then .error .malformed
      else
        match readFields members (budget - 1) true [] start (rest.length + 1) rest with
        | .error e => .error e
        | .ok ((seen, value), rest) =>
          match members.find? fun m => m.required && !seen.contains m.name with
          | some m => .error (.unfit (.missingField m.name))
          | none => closeWith '\x7d' value rest
    | cs => .error (unexpected title cs)

/-- One of several names, such as that of an enumeration. -/
def Reader.nameOf {α : Type} (expected : String) (find : String → Option α) (names : List String) :
    Reader α := fun budget cs =>
  match Reader.text expected budget cs with
  | .error e => .error e
  | .ok (name, rest) =>
    match find name with
    | some value => .ok (value, rest)
    | none => .error (.unfit (.unknownVariant name names))

/-- Any value. -/
def readAny : Nat → Reader Json
  | 0, _, _ => .error .malformed
  | fuel + 1, budget, cs =>
    match skipBlanks cs with
    | [] => .error .ended
    | c :: rest =>
      let ofNumeral (s : Step Numeral) : Step Json :=
        match s with
        | .error e => .error e
        | .ok (.natural n, rest) => .ok (.int n, rest)
        | .ok (.negative n, rest) => .ok (.int n, rest)
        | .ok (.float x, rest) => .ok (.float x, rest)
      match c with
      | 'n' => (readWord ['u', 'l', 'l'] rest).map fun r => (.null, r.2)
      | 't' => (readWord ['r', 'u', 'e'] rest).map fun r => (.bool true, r.2)
      | 'f' => (readWord ['a', 'l', 's', 'e'] rest).map fun r => (.bool false, r.2)
      | '-' => ofNumeral (readNumeral false rest)
      | '"' => (readString rest).map fun r => (.text r.1, r.2)
      | '[' =>
        if budget ≤ 1 then .error .malformed
        else
          match readItems (readAny fuel) (budget - 1) true [] (rest.length + 1) rest with
          | .error e => .error e
          | .ok (values, rest) => closeWith ']' (.array values) rest
      | '\x7b' =>
        if budget ≤ 1 then .error .malformed
        else
          match readMembers (readAny fuel) (budget - 1) [] (rest.length + 1) rest with
          | .error e => .error e
          | .ok (members, rest) => closeWith '\x7d' (.object members) rest
      | _ => if c.isDigit then ofNumeral (readNumeral true (c :: rest)) else .error .malformed

/-- Any value whatever, no deeper than the container budget allows. -/
def Reader.value : Reader Json := readAny (containerBudget + 1)

/-- Read a whole text as any value. -/
def parse (s : String) : Except Problem Json := Reader.value.run s

end Assay.Json
