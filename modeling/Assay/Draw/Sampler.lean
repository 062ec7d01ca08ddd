import Assay.Chain.Fault
import Assay.Draw.Value
import Assay.Random.Source

/-!
Samplers and generators: what draws values, one after another, from a source of random words.
-/

namespace Assay.Draw

open Chain (Fault)
open Assay.Random (Source)

/-- Why a draw gives no value. -/
inductive Halt where
  | fault (fault : Fault)
  /-- The arithmetic of the draw left the finite range, which ends the whole program. -/
  | abort
  deriving DecidableEq

/-- A way to draw values. A sampler may remember something between its draws; what it remembers
is its own business, so it is a type of the sampler's choice. A draw that fails still moves the
source on. -/
structure Sampler where
  Memory : Type
  start : Memory
  draw : Memory → Source → Except Halt Value × Memory × Source

/-- A sampler without a memory. -/
def Sampler.ofDraw (draw : Source → Except Halt Value × Source) : Sampler where
  Memory := Unit
  start := ()
  draw _ s :=
    let (result, s) := draw s
    (result, (), s)

/-- A sampler together with what it remembers and its own source. -/
structure Generator where
  sampler : Sampler
  memory : sampler.Memory
  source : Source

namespace Generator

/-- A generator that has drawn nothing yet. -/
def ofSeed (sampler : Sampler) (seed : UInt64) : Generator :=
  ⟨sampler, sampler.start, Source.ofSeed seed⟩

/-- Draw the next value. -/
def next (g : Generator) : Except Halt Value × Generator :=
  match g.sampler.draw g.memory g.source with
  | (result, memory, source) => (result, { g with memory, source })

/-- The results of the next `count` draws; drawing goes on after a failure. -/
def results (g : Generator) : Nat → List (Except Halt Value)
  | 0 => []
  | count + 1 =>
    let (result, g) := g.next
    result :: results g count

/-- The next `count` values; the first failed draw ends it. -/
def values (g : Generator) : Nat → Except Halt (List Value)
  | 0 => .ok []
  | count + 1 =>
    match g.next with
    | (.error halt, _) => .error halt
    | (.ok value, g) => (values g count).map (value :: ·)

end Generator

end Assay.Draw
