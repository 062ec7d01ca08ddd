import Assay.Chain.Reader
import Assay.Draw.Builtin

/-!
A vocabulary gives the names of a chain their functions. Evaluating a chain folds its calls from
left to right into one sampler.
-/

namespace Assay.Draw

open Chain (Call Fault)

/-- Functions by name; a name has at most one. -/
structure Vocabulary where
  functions : List Function

namespace Vocabulary

/-- No function at all. -/
def empty : Vocabulary := ⟨[]⟩

/-- Add a function in the place of the one with its name. -/
def register (v : Vocabulary) (f : Function) : Vocabulary :=
  ⟨f :: v.functions.filter fun g => g.name != f.name⟩

/-- The functions that are built in. -/
def standard (limits : DrawLimits) : Vocabulary :=
  (((empty.register intFunction).register floatFunction).register wordFunction).register
    (arrayFunction limits)

/-- The function of a name. -/
def find? (v : Vocabulary) (name : String) : Option Function :=
  v.functions.find? fun f => f.name == name

/-- The sampler of one call that follows `left`. -/
def build (v : Vocabulary) (left : Option Sampler) (c : Call) : Except Fault Sampler :=
  match v.find? c.name with
  | none => .error (.unknownFunction c.name)
  | some f =>
    match f.build c left with
    | .error refusal => .error (.refused f.name refusal)
    | .ok sampler => .ok sampler

/-- The sampler of the calls that follow `left`; the first call that fails decides. -/
def buildAll (v : Vocabulary) (left : Option Sampler) : List Call → Except Fault (Option Sampler)
  | [] => .ok left
  | c :: rest =>
    match v.build left c with
    | .error fault => .error fault
    | .ok sampler => buildAll v (some sampler) rest

/-- The sampler of a chain. -/
def evaluate (v : Vocabulary) (calls : List Call) : Except Fault Sampler :=
  match v.buildAll none calls with
  | .error fault => .error fault
  | .ok none => .error (.malformed "" .emptyExpression)
  | .ok (some sampler) => .ok sampler

/-- Read and evaluate a source. -/
def compile (v : Vocabulary) (source : String) : Except Fault Sampler :=
  match Chain.read source with
  | .error fault => .error fault
  | .ok calls => v.evaluate calls

/-- The first `count` values of a source, formatted, without running any program. The source is
read and evaluated even if no value is wanted. -/
def sample (v : Vocabulary) (source : String) (count : Nat) (seed : UInt64) :
    Except Halt (List String) :=
  match v.compile source with
  | .error fault => .error (.fault fault)
  | .ok sampler => ((Generator.ofSeed sampler seed).values count).map (·.map Value.format)

end Vocabulary

end Assay.Draw
