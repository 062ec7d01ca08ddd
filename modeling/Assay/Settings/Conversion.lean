import Assay.Settings.Basic
import Assay.Text.Lowercase

/-!
Settings from merged sources. The sources are of different kinds, and an environment variable is
always a text, so scalars are converted freely. There is no conversion between scalars, lists and
sections.
-/

namespace Assay.Settings

open Draw (DrawLimits)
open Number (Binary64)

/-- A natural number in decimal, with an optional plus sign, that fits a word. -/
def parseWord? (s : String) : Option Nat :=
  let digits := match s.toList with
    | '+' :: rest => rest
    | cs => cs
  if digits.isEmpty || !digits.all Char.isDigit then none
  else
    let n := digits.foldl (fun n c => n * 10 + (c.toNat - '0'.toNat)) 0
    if n ≤ Json.maxWord then some n else none

/-- The word nearest to a double: rounded, negative numbers becoming zero. -/
def saturate (x : Binary64) : Nat := min x.round.truncate.toNat Json.maxWord

/-- A natural number. Integers beyond the signed range arrive as doubles. -/
def toWord : Json → Option Nat
  | .bool b => some (if b then 1 else 0)
  | .int n =>
    if n < 0 then none
    else if n < 2 ^ 63 then some n.toNat
    else some (saturate (Binary64.ofInt n))
  | .float x => some (saturate x)
  | .text s =>
    let word := Text.lowercase s
    if ["true", "on", "yes"].contains word then some 1
    else if ["false", "off", "no"].contains word then some 0
    else parseWord? s
  | _ => none

/-- A text. -/
def toString : Json → Option String
  | .bool b => some (if b then "true" else "false")
  | .int n => some (if n < 2 ^ 63 then Json.intText n else (Binary64.ofInt n).plain)
  | .float x => some x.plain
  | .text s => some s
  | _ => none

def toStrings : Json → Option (List String)
  | .array items => items.mapM toString
  | _ => none

def toMilliseconds (v : Json) : Option Duration := (toWord v).map .ofMilliseconds

def toOptional {α : Type} (convert : Json → Option α) : Json → Option (Option α)
  | .null => some none
  | v => (convert v).map some

/-- A member of a section: how its value changes the section. -/
structure Entry (ρ : Type) where
  name : String
  store : Json → Option (ρ → ρ)

def Entry.of {ρ α : Type} (name : String) (convert : Json → Option α) (set : α → ρ → ρ) :
    Entry ρ := ⟨name, fun v => (convert v).map set⟩

/-- A section, from an object or from a list in the order of the entries. What is missing keeps
its value, and what is unknown or too much is passed over. -/
def toSection {ρ : Type} (entries : List (Entry ρ)) (start : ρ) : Json → Option ρ
  | .object members =>
    entries.foldlM (fun record entry =>
      match members.lookup entry.name with
      | none => some record
      | some v => (entry.store v).map fun set => set record) start
  | .array items =>
    (entries.zip items).foldlM (fun record (entry, v) =>
      (entry.store v).map fun set => set record) start
  | _ => none

def toLanguage : Json → Option LanguageSettings :=
  toSection
    [.of "version" toString fun s l => { l with version := s },
      .of "compile_cmd" toStrings fun ss l => { l with compileCommand := ss },
      .of "run_cmd" toStrings fun ss l => { l with runCommand := ss },
      .of "source_name" toString fun s l => { l with sourceName := s },
      .of "time_limit" (toOptional toMilliseconds) fun d l => { l with timeLimit := d }]
    .empty

def toJudge : Json → Option JudgeSettings :=
  toSection
    [.of "env" toStrings fun ss j => { j with environment := ss },
      .of "time_limit" toMilliseconds fun d j => { j with timeLimit := d },
      .of "stdout_limit" toWord fun n j => { j with stdoutLimit := n },
      .of "stderr_limit" toWord fun n j => { j with stderrLimit := n },
      .of "concurrency" toWord fun n j => { j with concurrency := n },
      .of "max_generate_count" toWord fun n j => { j with maxGenerateCount := n },
      .of "work_dir" toString fun s j => { j with workRoot := s }]
    .standard

def toLimits : Json → Option DrawLimits :=
  toSection
    [.of "unique_retries" toWord fun n l => { l with uniqueRetries := n },
      .of "max_array_len" toWord fun n l => { l with maxArrayLength := n }]
    .standard

/-- Languages under their names. -/
def toLanguages : Json → Option (List (String × LanguageSettings))
  | .object members => members.mapM fun (name, v) => (toLanguage v).map (name, ·)
  | _ => none

/-- All settings of the merged sources. -/
def ofMerged : Json → Option Settings :=
  toSection
    [.of "lang" toLanguages fun ls s => { s with languages := ls },
      .of "judge" toJudge fun j s => { s with judge := j },
      .of "dsl" toLimits fun l s => { s with draw := l }]
    .standard

end Assay.Settings
