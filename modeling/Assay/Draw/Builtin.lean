import Assay.Draw.Dictionary
import Assay.Draw.Sampler
import Assay.Random.Uniform

/-!
The functions `int`, `float`, `word` and `array`.
-/

namespace Assay.Draw

open Chain (Call Fault Refusal)
open Number (Binary64)
open Assay.Random (IntegerRange Source)

/-- Limits of the functions that are built in. -/
structure DrawLimits where
  /-- Draws for each item of an array of distinct values. -/
  uniqueRetries : Nat
  /-- The greatest length of one array. -/
  maxArrayLength : Nat
  deriving DecidableEq, Repr

def DrawLimits.standard : DrawLimits := ⟨1000, 100000⟩

/-- A function of the chain language: it builds the sampler of a call from the call's arguments
and from the sampler on its left. -/
structure Function where
  name : String
  build : Call → Option Sampler → Except Refusal Sampler

/-- Bounds that are whole and in order stay in order as words. -/
theorem toInt64_le_toInt64 {low high : Binary64}
    (hwhole : ¬(!low.isIntegral || !high.isIntegral) = true) (hordered : ¬high.lt low = true) :
    low.toInt64 ≤ high.toInt64 := by
  obtain ⟨hlow, hhigh⟩ : low.isIntegral = true ∧ high.isIntegral = true := by simpa using hwhole
  exact Binary64.toInt64_mono (Binary64.isFinite_of_isIntegral hlow)
    (Binary64.isFinite_of_isIntegral hhigh) (eq_false_of_ne_true hordered)

/-- The bounds of a call that wants integers: its first range, or the default. They are compared
as doubles. The greatest word is no double and becomes `2 ^ 63`, the first integer that is too
large, so the upper bound has to stay below it. -/
def integerRange (c : Call) (default : Binary64 × Binary64) : Except Refusal IntegerRange :=
  let (low, high) := c.range?.getD default
  if hwhole : !low.isIntegral || !high.isIntegral then .error (.notIntegral low high)
  else if low.lt (.ofInt Int64.minValue.toInt) || (Binary64.ofInt Int64.maxValue.toInt).le high then
    .error (.tooLarge low high)
  else if hordered : high.lt low then .error (.emptyRange low high)
  else .ok ⟨low.toInt64, high.toInt64, toInt64_le_toInt64 hwhole hordered⟩

/-- `int(low..high)`: a uniform integer; whatever stands on the left is replaced. -/
def intFunction : Function where
  name := "int"
  build c _ :=
    match integerRange c (1, 100) with
    | .error e => .error e
    | .ok range => .ok <| .ofDraw fun s =>
      let (n, s) := range.draw s
      (.ok (.int n), s)

/-- Four digits after the point: scale, round, scale back. -/
def roundToFourPlaces (x : Binary64) : Binary64 := (x * 10000).round / 10000

/-- A uniform double of `[low, high]` with four digits after the point. -/
def drawFloat (low high : Binary64) (s : Source) : Except Halt Value × Source :=
  match Random.scale? low high with
  | none => (.error .abort, s)
  | some scale =>
    let (x, s) := Random.drawScaled low scale s
    (.ok (.float (roundToFourPlaces x)), s)

/-- The bounds of a call of `float`. -/
def floatRange (c : Call) : Except Refusal (Binary64 × Binary64) :=
  let (low, high) := c.range?.getD (0, 1)
  if !low.isFinite || !high.isFinite || !(high - low).isFinite then .error (.tooLarge low high)
  else if high.lt low then .error (.emptyRange low high)
  else .ok (low, high)

/-- `float(low..high)`: a uniform double; whatever stands on the left is replaced. -/
def floatFunction : Function where
  name := "float"
  build c _ :=
    match floatRange c with
    | .error e => .error e
    | .ok (low, high) => .ok (.ofDraw (drawFloat low high))

/-- A uniform word of a list. -/
def drawWord (words : Array String) (s : Source) : Except Halt Value × Source :=
  let (index, s) := Random.drawIndex words.size s
  match words[index]? with
  | some word => (.ok (.text word), s)
  | none => (.error (.fault (.refused "word" .noWords)), s)

/-- `word()`: a uniform word of the dictionary; whatever stands on the left is replaced. -/
def wordFunction : Function where
  name := "word"
  build _ _ :=
    if dictionary.isEmpty then .error .noWords else .ok (.ofDraw (drawWord dictionary))

/-- What an array still has to do, and what it has done: the items so far, the last one first. -/
structure Filling (Memory : Type) where
  items : List Value
  memory : Memory
  source : Source

/-- Draw `missing` more items, all the results of the inner sampler. -/
def fill (inner : Sampler) : Nat → Filling inner.Memory →
    Except Halt (List Value) × inner.Memory × Source
  | 0, f => (.ok f.items.reverse, f.memory, f.source)
  | missing + 1, f =>
    match inner.draw f.memory f.source with
    | (.error halt, memory, source) => (.error halt, memory, source)
    | (.ok value, memory, source) => fill inner missing ⟨value :: f.items, memory, source⟩

/-- Draw until the value differs from all of `seen`, at most `tries` times; `none` when every
one of them was seen before. -/
def drawDistinct (inner : Sampler) (seen : List Value) : Nat → inner.Memory → Source →
    Option (Except Halt Value) × inner.Memory × Source
  | 0, memory, source => (none, memory, source)
  | tries + 1, memory, source =>
    match inner.draw memory source with
    | (.error halt, memory, source) => (some (.error halt), memory, source)
    | (.ok value, memory, source) =>
      if seen.any fun v => v.equal value then drawDistinct inner seen tries memory source
      else (some (.ok value), memory, source)

/-- Draw `missing` more items, each one different from those before it. -/
def fillDistinct (inner : Sampler) (wanted tries : Nat) : Nat → Filling inner.Memory →
    Except Halt (List Value) × inner.Memory × Source
  | 0, f => (.ok f.items.reverse, f.memory, f.source)
  | missing + 1, f =>
    match drawDistinct inner f.items tries f.memory f.source with
    | (none, memory, source) => (.error (.fault (.exhausted wanted f.items.length)), memory, source)
    | (some (.error halt), memory, source) => (.error halt, memory, source)
    | (some (.ok value), memory, source) =>
      fillDistinct inner wanted tries missing ⟨value :: f.items, memory, source⟩

/-- Arrays of the inner sampler's values: a length is drawn first, then the items. Room for the items
is never short here; a length for which no machine has the room makes no halt of its own. -/
def arraySampler (inner : Sampler) (lengths : IntegerRange) (unique : Bool) (tries : Nat) :
    Sampler where
  Memory := inner.Memory
  start := inner.start
  draw memory source :=
    let (length, source) := lengths.draw source
    let length := length.toInt.toNat
    let filling : Filling inner.Memory := ⟨[], memory, source⟩
    match if unique then fillDistinct inner length tries length filling
      else fill inner length filling with
    | (result, memory, source) => (result.map .array, memory, source)

/-- Whether the items of an array have to be distinct. -/
def uniqueOption (c : Call) : Except Refusal Bool :=
  match c.option? "unique" with
  | none => .ok false
  | some (.flag b) => .ok b
  | some value => .error (.notAFlag value)

/-- The lengths that a call of `array` asks for. -/
def lengthRange (limits : DrawLimits) (c : Call) : Except Refusal IntegerRange :=
  match integerRange c (1, 1) with
  | .error e => .error e
  | .ok lengths =>
    if lengths.low < 0 then .error .negativeLength
    else if limits.maxArrayLength < lengths.high.toUInt64.toNat then
      .error (.tooLong limits.maxArrayLength lengths.high.toInt)
    else .ok lengths

/-- `array(low..high, unique=…)`: a list of values of the sampler on the left. -/
def arrayFunction (limits : DrawLimits) : Function where
  name := "array"
  build c left :=
    match left with
    | none => .error .nothingOnTheLeft
    | some inner =>
      match lengthRange limits c with
      | .error e => .error e
      | .ok lengths =>
        match uniqueOption c with
        | .error e => .error e
        | .ok unique => .ok (arraySampler inner lengths unique (max limits.uniqueRetries 1))

end Assay.Draw
