import Assay.Proofs.Result
import Assay.Proofs.Runner.Execution
import Assay.Proofs.Text.Abridged
import Assay.Proofs.Text.Blank
import Assay.Proofs.Text.Utf8

/-!
What an execution comes to, told by what its processes do. The compiler comes first, and after a
compilation that fails nothing is run; too long an output outweighs the way in which the program
ended.
-/

namespace Assay.Runner

open Files (SystemError Tree)
open Settings (JudgeSettings)
open Text (Limited isBlank)
open Text.Utf8 (decode encode)

namespace Run

variable {α β : Type} {result result' : Except Failure α}

/-- The run ends with a result. -/
def Gives (run : Run α) (result : Except Failure α) : Prop := ∃ takes, run = .finished takes result

theorem Gives.unique {run : Run α} (h : run.Gives result) (h' : run.Gives result') :
    result = result' := by
  obtain ⟨takes, rfl⟩ := h
  obtain ⟨takes', h'⟩ := h'
  exact (Run.finished.inj h').2

/-- Two steps give what the first one fails with, or what the second one gives. -/
theorem gives_andThen_iff {run : Run α} {watch : Duration} {next : α → Duration → Run β}
    {result : Except Failure β} : (run.andThen watch next).Gives result ↔
      (∃ failure, run.Gives (.error failure) ∧ result = .error failure) ∨
      ∃ takes value, run = .finished takes (.ok value) ∧
        (next value (watch - takes)).Gives result := by
  match run with
  | .unfinished =>
    constructor
    · rintro ⟨takes, h⟩
      cases h
    · rintro (⟨failure, ⟨takes, h⟩, -⟩ | ⟨takes, value, h, -⟩)
      · cases h
      · cases h
  | .finished takes (.error failure) =>
    constructor
    · rintro ⟨takes', h⟩
      cases h
      exact .inl ⟨failure, ⟨takes, rfl⟩, rfl⟩
    · rintro (⟨failure', ⟨takes', h⟩, rfl⟩ | ⟨takes', value, h, -⟩)
      · cases h
        exact ⟨takes, rfl⟩
      · cases h
  | .finished takes (.ok value) =>
    rw [andThen]
    constructor
    · rintro ⟨takes', h⟩
      refine .inr ⟨takes, value, rfl, ?_⟩
      split at h
      next => cases h
      next more result' hnext =>
        cases h
        exact ⟨more, hnext⟩
    · rintro (⟨failure, ⟨takes', h⟩, -⟩ | ⟨takes', value', h, more, hnext⟩)
      · cases h
      · cases h
        exact ⟨takes + more, by rw [hnext]⟩

/-- What follows a run that does not succeed does not matter. -/
theorem andThen_congr {run : Run α} {watch : Duration} {next next' : α → Duration → Run β}
    (h : ∀ takes value, run = .finished takes (.ok value) →
      next value (watch - takes) = next' value (watch - takes)) :
    run.andThen watch next = run.andThen watch next' := by
  match run with
  | .unfinished => rfl
  | .finished _ (.error _) => rfl
  | .finished takes (.ok value) => rw [andThen, andThen, h takes value rfl]

end Run

namespace CommandRunner

/-- What the host is handed for a command. -/
def launchOf (r : CommandRunner) (host : Host) (program : String) (arguments : List String)
    (stdin : Option (List UInt8)) : Launch :=
  ⟨locate (r.workPath host) program, arguments, r.workDirectory host,
    environment r.judge.environment, stdin⟩

/-- How a command behaves: it cannot be started, which a message explains, or it ends. -/
inductive Behaves (r : CommandRunner) (host : Host) (stdin : Option (List UInt8)) (files : Tree)
    (watch : Duration) : List String → Except String Finished → Prop
  | empty : Behaves r host stdin files watch [] (.error ("empty command for " ++ r.name))
  | refused {program arguments error}
      (h : host.launch watch files (r.launchOf host program arguments stdin) = .error error) :
      Behaves r host stdin files watch (program :: arguments) (.error error.message)
  | ended {program arguments finished}
      (h : host.launch watch files (r.launchOf host program arguments stdin) =
        .ok (some finished)) :
      Behaves r host stdin files watch (program :: arguments) (.ok finished)

/-- The text that a compiler explains its failure with: the beginning of its standard error, or of
its standard output if the former is blank. -/
inductive Explains (limit : Nat) (compiler : Finished) : String → Prop
  | stderr (h : ¬ ∀ c ∈ (decode (compiler.stderr.take limit)).toList, isBlank c = true) :
      Explains limit compiler (decode (compiler.stderr.take limit))
  | stdout (h : ∀ c ∈ (decode (compiler.stderr.take limit)).toList, isBlank c = true) :
      Explains limit compiler (decode (compiler.stdout.take limit))

/-- What compilation comes to: a failure, or files to run the program on and the time left. -/
inductive Compiles (r : CommandRunner) (host : Host) (files : Tree) (watch : Duration) :
    Except Failure (Tree × Duration) → Prop
  | skipped (hcommand : r.language.compileCommand = []) :
      Compiles r host files watch (.ok (files, watch))
  | unstarted {message} (hcommand : r.language.compileCommand ≠ [])
      (hcompiler : r.Behaves host none files watch r.language.compileCommand (.error message)) :
      Compiles r host files watch (.error (.sandbox message))
  | failed {compiler text message} (hcommand : r.language.compileCommand ≠ [])
      (hcompiler : r.Behaves host none files watch r.language.compileCommand (.ok compiler))
      (hexit : compiler.ending ≠ .exited 0)
      (htext : Explains r.judge.stderrLimit compiler text) (hmessage : Limited text message) :
      Compiles r host files watch (.error (.compile message))
  | succeeded {compiler} (hcommand : r.language.compileCommand ≠ [])
      (hcompiler : r.Behaves host none files watch r.language.compileCommand (.ok compiler))
      (hexit : compiler.ending = .exited 0) :
      Compiles r host files watch (.ok (compiler.files, watch - compiler.takes))

/-- What a program that was started comes to. -/
inductive Ends (judge : JudgeSettings) (program : Finished) : Except Failure Success → Prop
  | tooLong (hstdout : judge.stdoutLimit < program.stdout.length) :
      Ends judge program (.error (.outputLimit judge.stdoutLimit))
  | badly {message} (hstdout : program.stdout.length ≤ judge.stdoutLimit)
      (hexit : program.ending ≠ .exited 0)
      (hmessage : Limited (decode (program.stderr.take judge.stderrLimit)) message) :
      Ends judge program (.error (.runtime program.ending.code? message))
  | well (hstdout : program.stdout.length ≤ judge.stdoutLimit)
      (hexit : program.ending = .exited 0) :
      Ends judge program (.ok ⟨decode program.stdout,
        decode (program.stderr.take judge.stderrLimit), some 0⟩)

/-- The bytes that a program is given to read. -/
def inputOf (stdin : String) : List UInt8 := encode (StdinCursor.ofString stdin).feed

/-- What an execution comes to once the source file is written. -/
inductive Executes (r : CommandRunner) (host : Host) (stdin : String) (files : Tree)
    (watch : Duration) : Except Failure Success → Prop
  | uncompiled {failure} (hcompiles : r.Compiles host files watch (.error failure)) :
      Executes r host stdin files watch (.error failure)
  | unstarted {files' left message} (hcompiles : r.Compiles host files watch (.ok (files', left)))
      (hprogram : r.Behaves host (some (inputOf stdin)) files' left r.language.runCommand
        (.error message)) :
      Executes r host stdin files watch (.error (.sandbox message))
  | ended {files' left program result}
      (hcompiles : r.Compiles host files watch (.ok (files', left)))
      (hprogram : r.Behaves host (some (inputOf stdin)) files' left r.language.runCommand
        (.ok program))
      (hends : Ends r.judge program result) : Executes r host stdin files watch result

section Start

variable {r : CommandRunner} {host : Host} {stdin : Option (List UInt8)} {files : Tree}
  {watch : Duration} {command : List String}

/-- The run of a command that behaves in some way. -/
def runOf : Except String Finished → Run Finished
  | .error message => .immediate (.error (.sandbox message))
  | .ok finished => .finished finished.takes (.ok finished)

theorem start_cons (program : String) (arguments : List String) :
    r.start host (r.workDirectory host) (program :: arguments) stdin files watch =
      match host.launch watch files (r.launchOf host program arguments stdin) with
      | .error error => runOf (.error error.message)
      | .ok none => .unfinished
      | .ok (some finished) => runOf (.ok finished) := rfl

theorem start_of_behaves {b : Except String Finished}
    (h : r.Behaves host stdin files watch command b) :
    r.start host (r.workDirectory host) command stdin files watch = runOf b := by
  cases h with
  | empty => rfl
  | refused h => rw [start_cons, h]
  | ended h => rw [start_cons, h]

variable (r host stdin files watch command) in
/-- A command behaves in one of the ways, or the host is still running it. -/
theorem behaves_or_launch_eq_none : (∃ b, r.Behaves host stdin files watch command b) ∨
    ∃ program arguments, command = program :: arguments ∧
      host.launch watch files (r.launchOf host program arguments stdin) = .ok none := by
  cases command with
  | nil => exact .inl ⟨_, .empty⟩
  | cons program arguments =>
    match hlaunch : host.launch watch files (r.launchOf host program arguments stdin) with
    | .error error => exact .inl ⟨_, .refused hlaunch⟩
    | .ok (some finished) => exact .inl ⟨_, .ended hlaunch⟩
    | .ok none => exact .inr ⟨program, arguments, rfl, hlaunch⟩

/-- What is made of a command that is not going on any more is made of the way it behaves. -/
theorem settle_start_iff {α : Type} {f : Finished → Except Failure α} {takes : Duration}
    {result : Except Failure α} :
    (r.start host (r.workDirectory host) command stdin files watch).settle f =
        .finished takes result ↔
      ∃ b, r.Behaves host stdin files watch command b ∧
        (runOf b).settle f = .finished takes result := by
  constructor
  · intro h
    rcases behaves_or_launch_eq_none r host stdin files watch command with
      ⟨b, hb⟩ | ⟨program, arguments, rfl, hlaunch⟩
    · rw [start_of_behaves hb] at h
      exact ⟨b, hb, h⟩
    · rw [start_cons, hlaunch] at h
      cases h
  · rintro ⟨b, hb, h⟩
    rwa [start_of_behaves hb]

end Start

section Compile

variable {r : CommandRunner} {host : Host} {files files' : Tree} {watch left : Duration}
  {failure : Failure} {compiler : Finished} {text : String}

theorem exists_explains (limit : Nat) (compiler : Finished) :
    ∃ text, Explains limit compiler text ∧ Limited text (compilerMessage limit compiler) := by
  have hempty : ∀ s : String, (Text.trimString s).isEmpty = true ↔
      ∀ c ∈ s.toList, isBlank c = true := by
    intro s
    rw [← Text.trim_eq_nil_iff, Text.trimString, String.isEmpty_iff, String.ofList_eq_empty_iff]
  unfold compilerMessage
  rw [textOf_eq, textOf_eq]
  dsimp only
  split
  next h => exact ⟨_, .stdout ((hempty _).1 h), Text.limited_abridge _⟩
  next h => exact ⟨_, .stderr fun hblank => h ((hempty _).2 hblank), Text.limited_abridge _⟩

theorem Explains.unique {limit : Nat} {text text' : String} (h : Explains limit compiler text)
    (h' : Explains limit compiler text') : text = text' := by
  cases h with
  | stderr h =>
    cases h' with
    | stderr => rfl
    | stdout h' => exact absurd h' h
  | stdout h =>
    cases h' with
    | stderr h' => exact absurd h h'
    | stdout => rfl

theorem compiled_of_exit (limit : Nat) (hexit : compiler.ending = .exited 0) :
    compiled limit compiler = .ok compiler.files := by
  rw [compiled, hexit]
  rfl

theorem compiled_of_failed (limit : Nat) (hexit : compiler.ending ≠ .exited 0) :
    compiled limit compiler = .error (.compile (compilerMessage limit compiler)) := by
  unfold compiled
  split
  next h => exact absurd h hexit
  next => rfl

theorem compile_of_nil (hcommand : r.language.compileCommand = []) :
    r.compile host (r.workDirectory host) files watch = .immediate (.ok files) :=
  if_pos (List.isEmpty_iff.2 hcommand)

theorem compile_of_ne_nil (hcommand : r.language.compileCommand ≠ []) :
    r.compile host (r.workDirectory host) files watch =
      (r.start host (r.workDirectory host) r.language.compileCommand none files watch).settle
        (compiled r.judge.stderrLimit) := by
  rw [← Run.andThen_immediate _ watch]
  exact if_neg fun h => hcommand (List.isEmpty_iff.1 h)

/-- A compilation that is over has come to what the rules say. -/
theorem compiles_iff {result : Except Failure (Tree × Duration)} :
    r.Compiles host files watch result ↔ ∃ takes outcome,
      r.compile host (r.workDirectory host) files watch = .finished takes outcome ∧
      result = outcome.map fun files' => (files', watch - takes) := by
  constructor
  · intro h
    cases h with
    | skipped hcommand => exact ⟨_, _, compile_of_nil hcommand, rfl⟩
    | unstarted hcommand hcompiler =>
      rw [compile_of_ne_nil hcommand]
      exact ⟨_, _, settle_start_iff.2 ⟨_, hcompiler, rfl⟩, rfl⟩
    | @failed compiler text _ hcommand hcompiler hexit htext hmessage =>
      obtain ⟨text', htext', hmessage'⟩ := exists_explains r.judge.stderrLimit compiler
      rw [htext.unique htext'] at hmessage
      rw [compile_of_ne_nil hcommand, hmessage.unique hmessage']
      refine ⟨_, _, settle_start_iff.2 ⟨_, hcompiler, rfl⟩, ?_⟩
      rw [compiled_of_failed _ hexit]
      rfl
    | succeeded hcommand hcompiler hexit =>
      rw [compile_of_ne_nil hcommand]
      refine ⟨_, _, settle_start_iff.2 ⟨_, hcompiler, rfl⟩, ?_⟩
      rw [compiled_of_exit _ hexit]
      rfl
  · rintro ⟨takes, outcome, hcompile, rfl⟩
    by_cases hcommand : r.language.compileCommand = []
    · rw [compile_of_nil hcommand] at hcompile
      cases hcompile
      exact .skipped hcommand
    · rw [compile_of_ne_nil hcommand] at hcompile
      obtain ⟨b, hb, hsettle⟩ := settle_start_iff.1 hcompile
      cases b with
      | error message =>
        cases hsettle
        exact .unstarted hcommand hb
      | ok compiler =>
        cases hsettle
        by_cases hexit : compiler.ending = .exited 0
        · rw [compiled_of_exit _ hexit]
          exact .succeeded hcommand hb hexit
        · obtain ⟨text, htext, hmessage⟩ := exists_explains r.judge.stderrLimit compiler
          rw [compiled_of_failed _ hexit]
          exact .failed hcommand hb hexit htext hmessage

theorem Compiles.exists_takes (h : r.Compiles host files watch (.ok (files', left))) : ∃ takes,
    r.compile host (r.workDirectory host) files watch = .finished takes (.ok files') ∧
      watch - takes = left := by
  obtain ⟨takes, outcome, hcompile, houtcome⟩ := compiles_iff.1 h
  cases outcome with
  | error failure => cases houtcome
  | ok files' =>
    cases houtcome
    exact ⟨takes, hcompile, rfl⟩

theorem Compiles.gives (h : r.Compiles host files watch (.error failure)) :
    (r.compile host (r.workDirectory host) files watch).Gives (.error failure) := by
  obtain ⟨takes, outcome, hcompile, houtcome⟩ := compiles_iff.1 h
  cases outcome with
  | error failure' =>
    cases houtcome
    exact ⟨takes, hcompile⟩
  | ok files' => cases houtcome

end Compile

theorem ends_iff {judge : JudgeSettings} {program : Finished} {result : Except Failure Success} :
    Ends judge program result ↔ outcome judge program = result := by
  constructor
  · intro h
    cases h with
    | tooLong hstdout => exact outcome_of_too_long hstdout
    | badly hstdout hexit hmessage =>
      rw [outcome_of_failure hexit hstdout, textOf_eq, hmessage.abridge_eq]
    | well hstdout hexit => rw [outcome_of_success hexit hstdout, textOf_eq]
  · rintro rfl
    rcases Nat.lt_or_ge judge.stdoutLimit program.stdout.length with hstdout | hstdout
    · rw [outcome_of_too_long hstdout]
      exact .tooLong hstdout
    · by_cases hexit : program.ending = .exited 0
      · rw [outcome_of_success hexit hstdout, textOf_eq]
        exact .well hstdout hexit
      · rw [outcome_of_failure hexit hstdout, textOf_eq]
        exact .badly hstdout hexit (Text.limited_abridge _)

variable {r : CommandRunner} {host : Host} {watch left : Duration} {code stdin : String}
  {files files' : Tree} {program : Finished} {result : Except Failure Success}

theorem runProgram_gives_iff :
    (r.runProgram host (r.workDirectory host) stdin files' left).Gives result ↔
      (∃ message, r.Behaves host (some (inputOf stdin)) files' left r.language.runCommand
        (.error message) ∧ result = .error (.sandbox message)) ∨
      ∃ program, r.Behaves host (some (inputOf stdin)) files' left r.language.runCommand
        (.ok program) ∧ Ends r.judge program result := by
  have hrun : r.runProgram host (r.workDirectory host) stdin files' left =
      (r.start host (r.workDirectory host) r.language.runCommand (some (inputOf stdin)) files'
        left).settle (outcome r.judge) := Run.andThen_immediate _ left _
  rw [hrun]
  constructor
  · rintro ⟨takes, h⟩
    obtain ⟨b, hb, hsettle⟩ := settle_start_iff.1 h
    cases b with
    | error message =>
      cases hsettle
      exact .inl ⟨message, hb, rfl⟩
    | ok program =>
      cases hsettle
      exact .inr ⟨program, hb, ends_iff.2 rfl⟩
  · rintro (⟨message, hb, rfl⟩ | ⟨program, hb, hends⟩)
    · exact ⟨_, settle_start_iff.2 ⟨_, hb, rfl⟩⟩
    · rw [← ends_iff.1 hends]
      exact ⟨_, settle_start_iff.2 ⟨_, hb, rfl⟩⟩

/-- With the source file in place, an execution is a compilation and what follows it. -/
theorem execute_of_prepared (hprepared : r.prepare host code = .ok files) :
    (r.execute host watch code stdin).Gives result ↔
      ((r.compile host (r.workDirectory host) files (watch - preparationTime)).andThen
        (watch - preparationTime)
        (r.runProgram host (r.workDirectory host) stdin)).Gives result := by
  unfold execute
  rw [hprepared, Run.gives_andThen_iff]
  constructor
  · rintro (⟨failure, ⟨takes, h⟩, -⟩ | ⟨takes, files', h, hgives⟩)
    · cases h
    · cases h
      exact hgives
  · exact fun hgives => .inr ⟨_, files, rfl, hgives⟩

theorem execute_gives_iff (hprepared : r.prepare host code = .ok files) :
    (r.execute host watch code stdin).Gives result ↔
      r.Executes host stdin files (watch - preparationTime) result := by
  rw [execute_of_prepared hprepared, Run.gives_andThen_iff]
  constructor
  · rintro (⟨failure, ⟨takes, hcompile⟩, rfl⟩ | ⟨takes, files', hcompile, hgives⟩)
    · exact .uncompiled (compiles_iff.2 ⟨takes, _, hcompile, rfl⟩)
    · have hcompiles := compiles_iff.2 ⟨takes, _, hcompile, rfl⟩
      rcases runProgram_gives_iff.1 hgives with ⟨message, hb, rfl⟩ | ⟨program, hb, hends⟩
      · exact .unstarted hcompiles hb
      · exact .ended hcompiles hb hends
  · intro h
    cases h with
    | uncompiled hcompiles => exact .inl ⟨_, hcompiles.gives, rfl⟩
    | unstarted hcompiles hb =>
      obtain ⟨takes, hcompile, rfl⟩ := hcompiles.exists_takes
      exact .inr ⟨takes, _, hcompile, runProgram_gives_iff.2 (.inl ⟨_, hb, rfl⟩)⟩
    | ended hcompiles hb hends =>
      obtain ⟨takes, hcompile, rfl⟩ := hcompiles.exists_takes
      exact .inr ⟨takes, _, hcompile, runProgram_gives_iff.2 (.inr ⟨_, hb, hends⟩)⟩

/-- Once the program is started and ends, what it did decides. -/
theorem execute_gives_iff_ends (hprepared : r.prepare host code = .ok files)
    (hcompiles : r.Compiles host files (watch - preparationTime) (.ok (files', left)))
    (hprogram : r.Behaves host (some (inputOf stdin)) files' left r.language.runCommand
      (.ok program)) :
    (r.execute host watch code stdin).Gives result ↔ Ends r.judge program result := by
  rw [execute_gives_iff hprepared]
  constructor
  · intro h
    have hends := Executes.ended hcompiles hprogram (ends_iff.2 rfl)
    exact ends_iff.2 (((execute_gives_iff hprepared).2 hends).unique
      ((execute_gives_iff hprepared).2 h))
  · exact fun hends => .ended hcompiles hprogram hends

variable {launch : Duration → Tree → Launch → Except SystemError (Option Finished)}

/-- The answer to the launch of a compiler decides what a compilation comes to. -/
theorem compile_congr
    (hlaunch : ∀ program arguments, r.language.compileCommand = program :: arguments →
      launch watch files (r.launchOf host program arguments none) =
        host.launch watch files (r.launchOf host program arguments none)) :
    r.compile { host with launch } (r.workDirectory host) files watch =
      r.compile host (r.workDirectory host) files watch := by
  cases hcommand : r.language.compileCommand with
  | nil => rw [compile_of_nil hcommand, compile, hcommand]; rfl
  | cons program arguments =>
    have hsame := hlaunch program arguments hcommand
    unfold launchOf at hsame
    unfold compile
    rw [hcommand, start, start]
    have hpath : r.workPath { host with launch } = r.workPath host := rfl
    dsimp only
    rw [hpath, hsame]

/-- After a compilation that does not succeed it does not matter how any other command would
behave, because none is started. -/
theorem execute_congr (hprepared : r.prepare host code = .ok files)
    (hcompiles : ∀ files' left,
      ¬ r.Compiles host files (watch - preparationTime) (.ok (files', left)))
    (hlaunch : ∀ program arguments, r.language.compileCommand = program :: arguments →
      launch (watch - preparationTime) files (r.launchOf host program arguments none) =
        host.launch (watch - preparationTime) files (r.launchOf host program arguments none)) :
    r.execute { host with launch } watch code stdin = r.execute host watch code stdin := by
  have hprepared' : r.prepare { host with launch } code = .ok files := hprepared
  unfold execute
  rw [hprepared, hprepared']
  refine Run.andThen_congr fun takes files' h => ?_
  cases h
  change (r.compile { host with launch } (r.workDirectory host) files _).andThen _ _ = _
  rw [compile_congr hlaunch]
  refine Run.andThen_congr fun takes files' hcompile => ?_
  exact absurd (compiles_iff.2 ⟨takes, _, hcompile, rfl⟩) (hcompiles files' _)

section Total

variable (hends : ∀ watch files launch, host.launch watch files launch ≠ .ok none)
include hends

theorem exists_behaves_of_launch (r : CommandRunner) (stdin : Option (List UInt8)) (files : Tree)
    (watch : Duration) (command : List String) :
    ∃ b, r.Behaves host stdin files watch command b := by
  rcases behaves_or_launch_eq_none r host stdin files watch command with
    hb | ⟨program, arguments, rfl, hlaunch⟩
  · exact hb
  · exact absurd hlaunch (hends _ _ _)

theorem exists_compiles (r : CommandRunner) (files : Tree) (watch : Duration) :
    ∃ result, r.Compiles host files watch result := by
  by_cases hcommand : r.language.compileCommand = []
  · exact ⟨_, .skipped hcommand⟩
  · obtain ⟨b, hb⟩ :=
      exists_behaves_of_launch hends r none files watch r.language.compileCommand
    cases b with
    | error message => exact ⟨_, .unstarted hcommand hb⟩
    | ok compiler =>
      by_cases hexit : compiler.ending = .exited 0
      · exact ⟨_, .succeeded hcommand hb hexit⟩
      · obtain ⟨text, htext, hmessage⟩ := exists_explains r.judge.stderrLimit compiler
        exact ⟨_, .failed hcommand hb hexit htext hmessage⟩

/-- Where every process ends, an execution comes to something. -/
theorem exists_executes (r : CommandRunner) (stdin : String) (files : Tree) (watch : Duration) :
    ∃ result, r.Executes host stdin files watch result := by
  obtain ⟨compilation, hcompiles⟩ := exists_compiles hends r files watch
  cases compilation with
  | error failure => exact ⟨_, .uncompiled hcompiles⟩
  | ok rest =>
    obtain ⟨files', left⟩ := rest
    obtain ⟨b, hb⟩ := exists_behaves_of_launch hends r (some (inputOf stdin)) files' left
      r.language.runCommand
    cases b with
    | error message => exact ⟨_, .unstarted hcompiles hb⟩
    | ok program => exact ⟨_, .ended hcompiles hb (ends_iff.2 rfl)⟩

end Total

/-- With the source file in place, an execution gives what the rules say, and something whenever
every process ends. After a compilation that does not succeed no other process is started. Of a
program that ends, too long an output is told whatever the ending, an output within the limit is
passed on as a whole, and how an output is cut off does not depend on the pieces it comes in. -/
theorem execute_classified (r : CommandRunner) (host : Host) (watch : Duration)
    (code stdin : String) {files : Tree} (hprepared : r.prepare host code = .ok files) :
    (∀ result, (r.execute host watch code stdin).Gives result ↔
      r.Executes host stdin files (watch - preparationTime) result) ∧
    ((∀ watch files launch, host.launch watch files launch ≠ .ok none) →
      ∃ result, (r.execute host watch code stdin).Gives result) ∧
    ((∀ files' left, ¬ r.Compiles host files (watch - preparationTime) (.ok (files', left))) →
      ∀ launch, (∀ program arguments, r.language.compileCommand = program :: arguments →
        launch (watch - preparationTime) files (r.launchOf host program arguments none) =
          host.launch (watch - preparationTime) files (r.launchOf host program arguments none)) →
      r.execute { host with launch } watch code stdin = r.execute host watch code stdin) ∧
    (∀ files' left program,
      r.Compiles host files (watch - preparationTime) (.ok (files', left)) →
      r.Behaves host (some (inputOf stdin)) files' left r.language.runCommand (.ok program) →
      ((r.execute host watch code stdin).Gives (.error (.outputLimit r.judge.stdoutLimit)) ↔
        r.judge.stdoutLimit < program.stdout.length) ∧
      ((∃ success, (r.execute host watch code stdin).Gives (.ok success)) ↔
        program.stdout.length ≤ r.judge.stdoutLimit ∧ program.ending = .exited 0) ∧
      ∀ success, (r.execute host watch code stdin).Gives (.ok success) →
        success.stdout = decode program.stdout) ∧
    ∀ limit pieces, Capture.collect limit pieces =
      ⟨pieces.flatten.take limit, decide (limit < pieces.flatten.length)⟩ := by
  refine ⟨fun result => execute_gives_iff hprepared, ?_, ?_, ?_, Capture.collect_eq⟩
  · intro hends
    obtain ⟨result, hresult⟩ := exists_executes hends r stdin files (watch - preparationTime)
    exact ⟨result, (execute_gives_iff hprepared).2 hresult⟩
  · exact fun hcompiles launch hlaunch => execute_congr hprepared hcompiles hlaunch
  · intro files' left program hcompiles hprogram
    have hgives : ∀ result, (r.execute host watch code stdin).Gives result ↔
        Ends r.judge program result := fun result =>
      execute_gives_iff_ends hprepared hcompiles hprogram
    simp only [hgives]
    refine ⟨⟨?_, .tooLong⟩, ⟨?_, ?_⟩, ?_⟩
    · intro h
      cases h with
      | tooLong hstdout => exact hstdout
    · rintro ⟨success, h⟩
      cases h with
      | well hstdout hexit => exact ⟨hstdout, hexit⟩
    · rintro ⟨hstdout, hexit⟩
      exact ⟨_, .well hstdout hexit⟩
    · intro success h
      cases h with
      | well hstdout hexit => rfl

/-- A host whose compiler and whose program end in given ways. -/
def twoStage (compiler program : Finished) : Host where
  files := .empty
  directory := []
  freshName := "w"
  launch _ _ launch := .ok (some (if launch.stdin.isNone then compiler else program))

/-- A language with a compiler, under narrow limits but for the one on standard error. -/
def narrow (stderrLimit : Nat) : CommandRunner where
  name := "c"
  language := ⟨"c11", ["cc", "main.c"], ["./main"], "main.c", none⟩
  judge := ⟨[], .ofMilliseconds 1000, 2, stderrLimit, 1, 1, ""⟩

/-- A text of one letter. -/
def letters (count : Nat) : String := String.ofList (List.replicate count 'a')

theorem decode_letters (count : Nat) : decode (List.replicate count 0x61) = letters count := by
  have hletter : String.utf8EncodeChar 'a' = [0x61] := by decide
  have hbytes : encode (letters count) = List.replicate count 0x61 := by
    rw [encode, letters, String.toList_ofList, List.flatMap_replicate, hletter,
      List.flatten_replicate_singleton]
  rw [← hbytes]
  exact Text.Utf8.decode_eq_iff.2 (Text.Utf8.reads_encode _)

theorem limited_letters : Limited (letters 2000) (letters 1021 ++ "...") := by
  have h : Limited (String.ofList (List.replicate 1021 'a' ++ List.replicate 979 'a'))
      (letters 1021 ++ "...") := .cut _ _ List.length_replicate (by decide +kernel)
  rwa [List.replicate_append_replicate] at h

/-- An output that is as long as the limit, a compiler whose standard error begins blank, and
messages that are too long, of a compiler and of a program. -/
theorem execute_classified_narrow :
    ((narrow 2).execute (twoStage ⟨.empty, [], [], .exited 0, ⟨0⟩⟩
        ⟨.empty, [0x61, 0x62], [0x21], .exited 0, ⟨0⟩⟩) (.ofMilliseconds 1000) "" "").Gives
      (.ok ⟨"ab", "!", some 0⟩) ∧
    ((narrow 2).execute (twoStage ⟨.empty, [0x61, 0x62, 0x63], [0x20, 0x0A, 0x21], .killed, ⟨0⟩⟩
        ⟨.empty, [], [], .exited 0, ⟨0⟩⟩) (.ofMilliseconds 1000) "" "").Gives
      (.error (.compile "ab")) ∧
    ((narrow 4096).execute (twoStage ⟨.empty, [], List.replicate 2000 0x61, .exited 1, ⟨0⟩⟩
        ⟨.empty, [], [], .exited 0, ⟨0⟩⟩) (.ofMilliseconds 1000) "" "").Gives
      (.error (.compile (letters 1021 ++ "..."))) ∧
    ((narrow 4096).execute (twoStage ⟨.empty, [], [], .exited 0, ⟨0⟩⟩
        ⟨.empty, [0x61], List.replicate 2000 0x61, .exited 3, ⟨0⟩⟩) (.ofMilliseconds 1000) ""
        "").Gives
      (.error (.runtime (some 3) (letters 1021 ++ "..."))) := by
  have hprepared : ∀ limit compiler program, ∃ files,
      (narrow limit).prepare (twoStage compiler program) "" = .ok files := by
    intro limit compiler program
    apply exists_of_toBool
    simp only [prepare, workDirectory, narrow]
    rfl
  have hcompiler : ∀ limit compiler program files watch,
      (narrow limit).Behaves (twoStage compiler program) none files watch
        (narrow limit).language.compileCommand (.ok compiler) :=
    fun _ _ _ _ _ => .ended rfl
  have hprogram : ∀ limit compiler program files watch,
      (narrow limit).Behaves (twoStage compiler program) (some (inputOf "")) files watch
        (narrow limit).language.runCommand (.ok program) :=
    fun _ _ _ _ _ => .ended rfl
  have hcommand : ∀ limit, (narrow limit).language.compileCommand ≠ [] := fun _ =>
    List.cons_ne_nil _ _
  have hkept : decode ((List.replicate 2000 0x61).take 4096) = letters 2000 := by
    rw [List.take_of_length_le (by decide +kernel), decode_letters]
  refine ⟨?_, ?_, ?_, ?_⟩
  · obtain ⟨files, hfiles⟩ := hprepared 2 _ _
    refine ((execute_classified (narrow 2) _ _ "" "" hfiles).1 _).2 (.ended
      (.succeeded (hcommand _) (hcompiler _ _ _ _ _) rfl) (hprogram _ _ _ _ _) ?_)
    exact .well (by decide) rfl
  · obtain ⟨files, hfiles⟩ := hprepared 2 _ _
    refine ((execute_classified (narrow 2) _ _ "" "" hfiles).1 _).2 (.uncompiled ?_)
    have hexplains : Explains 2 ⟨.empty, [0x61, 0x62, 0x63], [0x20, 0x0A, 0x21], .killed, ⟨0⟩⟩
        "ab" := .stdout (List.all_eq_true.1 (by decide))
    exact .failed (hcommand _) (hcompiler _ _ _ _ _) (by simp) hexplains (.whole _ (by decide))
  · obtain ⟨files, hfiles⟩ := hprepared 4096 _ _
    refine ((execute_classified (narrow 4096) _ _ "" "" hfiles).1 _).2 (.uncompiled ?_)
    have hexplains : Explains 4096 ⟨.empty, [], List.replicate 2000 0x61, .exited 1, ⟨0⟩⟩
        (letters 2000) := by
      rw [← hkept]
      refine .stderr fun hblank => ?_
      rw [hkept, letters, String.toList_ofList] at hblank
      have hletter := hblank 'a' (List.mem_replicate.2 ⟨by decide, rfl⟩)
      exact absurd hletter (by decide)
    exact .failed (hcommand _) (hcompiler _ _ _ _ _) (by simp) hexplains limited_letters
  · obtain ⟨files, hfiles⟩ := hprepared 4096 _ _
    refine ((execute_classified (narrow 4096) _ _ "" "" hfiles).1 _).2 (.ended
      (.succeeded (hcommand _) (hcompiler _ _ _ _ _) rfl) (hprogram _ _ _ _ _) ?_)
    refine .badly (by decide) (by simp) ?_
    change Limited (decode ((List.replicate 2000 0x61).take 4096)) _
    rw [hkept]
    exact limited_letters

end CommandRunner

end Assay.Runner
