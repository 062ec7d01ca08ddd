import Assay.Proofs.Result
import Assay.Proofs.Runner.Classification
import Assay.Proofs.Runner.StdinCursor
import Assay.Proofs.Runner.WorkDirectory
import Assay.Sandbox.Host

/-!
The identity program on the host of the sandbox: it writes what it reads, so a runner of it gives
back its input, with the line ends that a program is fed.
-/

namespace Assay.Sandbox

open Files (Path Tree)
open Runner (CommandRunner Launch)

namespace Octets

theorem toBytes_ofBytes (bytes : List UInt8) : (ofBytes bytes).toBytes = bytes := by
  unfold ofBytes toBytes
  rw [List.map_map]
  refine List.map_id'' (fun b => ?_) bytes
  have hb : b.toNat < 256 := b.toNat_lt
  have hvalid : b.toNat.isValidChar := .inl (by omega)
  have hcode : (Char.ofNat b.toNat).toNat = b.toNat := by
    rw [Char.ofNat, dif_pos hvalid]
    rfl
  rw [Function.comp_apply, hcode, UInt8.ofNat_toNat]

end Octets

namespace Exec

variable {α β : Type} {s s' s'' : State} {action : Exec α} {next : α → Exec β} {value : α}
  {result : β}

/-- Carried out in a state, an action gives a value and leaves another state. -/
def Gives (action : Exec α) (s : State) (value : α) (s' : State) : Prop :=
  action.run s = (.ok value, s')

theorem Gives.bind (h : action.Gives s value s') (hnext : (next value).Gives s' result s'') :
    (action >>= next).Gives s result s'' := by
  have haction : (ExceptT.run action).run s = (.ok value, s') := h
  have hrun : (ExceptT.run (action >>= next)).run s = (ExceptT.run (next value)).run s' := by
    rw [ExceptT.run_bind, StateT.run_bind, haction]
    rfl
  exact hrun.trans hnext

theorem gives_pure (value : α) (s : State) : (pure value : Exec α).Gives s value s := rfl

theorem gives_machine (s : State) : machine.Gives s s.machine s := rfl

theorem gives_modifyMachine (f : Machine → Machine) (s : State) :
    (modifyMachine f).Gives s () { s with machine := f s.machine } := rfl

/-- Waiting for a time within the watch, with no signal to come. -/
theorem gives_waitUntil {time : Nat} (halarm : s.machine.alarm = none)
    (hlater : s.machine.clock ≤ time) (htime : time < s.machine.deadline) :
    (waitUntil time).Gives s () { s with machine := { s.machine with clock := time } } := by
  have hlimit : ¬ s.machine.deadline ≤ max s.machine.clock time := by omega
  have hmin : min time s.machine.deadline = time := by omega
  unfold waitUntil
  refine .bind (gives_machine s) ?_
  rw [halarm]
  dsimp only
  rw [if_neg hlimit]
  by_cases hclock : s.machine.clock < time
  · rw [if_pos hclock]
    have h := gives_modifyMachine (fun m => { m with clock := min time m.deadline }) s
    rw [hmin] at h
    exact .bind h (gives_pure _ _)
  · rw [if_neg hclock]
    have hsame : s.machine.clock = time := by omega
    rw [← hsame]
    exact .bind (gives_pure () s) (gives_pure () s)

theorem gives_spend {nanoseconds : Nat} (halarm : s.machine.alarm = none)
    (htime : s.machine.clock + nanoseconds < s.machine.deadline) :
    (spend nanoseconds).Gives s ()
      { s with machine := { s.machine with clock := s.machine.clock + nanoseconds } } :=
  .bind (gives_machine s) (gives_waitUntil halarm (Nat.le_add_right _ _) htime)

theorem gives_channel? {descriptor n : Nat} {c : Channel}
    (hdescriptor : s.process.descriptors.lookup descriptor = some n)
    (hchannel : s.machine.channels[n]? = some c) :
    (channel? descriptor).Gives s (some (n, c)) s := by
  have hnumber : (channelNumber? descriptor).Gives s (some n) s := by
    rw [← hdescriptor]
    rfl
  unfold channel?
  refine .bind hnumber ?_
  refine .bind (gives_machine s) ?_
  rw [hchannel]
  exact gives_pure _ _

/-- An input that is complete is taken as a whole. -/
theorem gives_takeFlow {descriptor n ready : Nat} {flow : Flow}
    (hdescriptor : s.process.descriptors.lookup descriptor = some n)
    (hchannel : s.machine.channels[n]? = some (.source flow ready))
    (halarm : s.machine.alarm = none) (hready : ready ≤ s.machine.clock)
    (htime : s.machine.clock < s.machine.deadline) :
    (takeFlow descriptor).Gives s flow { s with
      machine := { s.machine with
        channels :=
          s.machine.channels.setIfInBounds n (.source ⟨[], flow.cycle⟩ ready) } } := by
  have hwait := gives_waitUntil halarm (Nat.le_refl _) htime
  rw [← Nat.max_eq_right hready] at hwait
  unfold takeFlow
  refine .bind (gives_channel? hdescriptor hchannel) ?_
  refine .bind (gives_machine s) ?_
  refine .bind hwait ?_
  rw [Nat.max_eq_right hready]
  exact .bind (gives_modifyMachine _ _) (gives_pure _ _)

/-- What is written to an output that is collected comes to be in it, and no other channel is
touched. -/
theorem exists_gives_writeFlow {descriptor n : Nat} (cs : Octets)
    (hdescriptor : s.process.descriptors.lookup descriptor = some n)
    (hchannel : s.machine.channels[n]? = some (.sink [] false)) :
    ∃ channels, (writeFlow descriptor ⟨cs, []⟩).Gives s true
        { s with machine := { s.machine with channels } } ∧
      outputOf { s.machine with channels } n = cs.toBytes ∧
      ∀ k ≠ n, channels[k]? = s.machine.channels[k]? := by
  have hfound := gives_channel? hdescriptor hchannel
  unfold writeFlow
  by_cases hcs : cs = []
  · subst hcs
    refine ⟨s.machine.channels, .bind hfound (.bind (gives_machine s) (gives_pure _ _)), ?_, ?_⟩
    · rw [outputOf, hchannel]
      simp [collect, Octets.toBytes]
    · exact fun _ _ => rfl
  · obtain ⟨c, rest, rfl⟩ := List.exists_cons_of_ne_nil hcs
    refine ⟨s.machine.channels.setIfInBounds n
      (.sink [⟨s.machine.clock, s.machine.job, ⟨c :: rest, []⟩⟩] false),
      .bind hfound (.bind (gives_machine s) (.bind (gives_modifyMachine _ _) (gives_pure _ _))),
      ?_, ?_⟩
    · have hn : n < s.machine.channels.size := (Array.getElem?_eq_some_iff.mp hchannel).1
      simp [outputOf, hn, collect]
    · intro k hk
      exact Array.getElem?_setIfInBounds_ne hk.symm

end Exec

/-- Without words, `cat` writes what it reads. -/
theorem exists_gives_cat {s : State} {cs : Octets} {ready : Nat}
    (hstdin : s.process.descriptors.lookup 0 = some 0)
    (hstdout : s.process.descriptors.lookup 1 = some 1)
    (hsource : s.machine.channels[0]? = some (.source ⟨cs, []⟩ ready))
    (hsink : s.machine.channels[1]? = some (.sink [] false))
    (halarm : s.machine.alarm = none) (hready : ready ≤ s.machine.clock)
    (htime : s.machine.clock < s.machine.deadline) :
    ∃ channels, (Tool.cat []).Gives s 0 { s with machine := { s.machine with channels } } ∧
      outputOf { s.machine with channels } 1 = cs.toBytes ∧
      channels[2]? = s.machine.channels[2]? := by
  have htake := Exec.gives_takeFlow hstdin hsource halarm hready htime
  have hinputs : (Tool.inputsOf "cat" id []).Gives s ([⟨['-'], ⟨cs, []⟩⟩], 0) _ :=
    .bind (.bind htake (Exec.gives_pure _ _)) (.bind (Exec.gives_pure _ _) (Exec.gives_pure _ _))
  obtain ⟨channels, hwrite, houtput, hothers⟩ :=
    Exec.exists_gives_writeFlow (s := { s with
      machine := { s.machine with
        channels := s.machine.channels.setIfInBounds 0 (.source ⟨[], []⟩ ready) } })
      cs hstdout ((Array.getElem?_setIfInBounds_ne (by decide)).trans hsink)
  refine ⟨channels, .bind hinputs ?_, houtput, ?_⟩
  · exact .bind (.bind (.bind hwrite (Exec.gives_pure _ _)) (Exec.gives_pure _ _))
      (Exec.gives_pure _ _)
  · exact (hothers 2 (by decide)).trans (Array.getElem?_setIfInBounds_ne (by decide))

section Launch

variable {files : Tree} {watch : Duration} {l : Launch} {bytes : List UInt8}

/-- `cat` is found by its path, whatever is searched. -/
theorem findProgram_cat (directory : Path) (search : Octets)
    (hbin : files.isDirectory ["bin"] = true) (hcat : files.HasProgram ["bin", "cat"]) :
    Shell.findProgram files directory search (.ofText "/bin/cat") = .ok ["bin", "cat"] := by
  obtain ⟨content, hcat⟩ := hcat
  have hnames : Path.namesFrom [] "/bin/cat".toList = ["", "bin", "cat"] := by decide
  have habsolute : Path.isAbsolute "/bin/cat" = true := by decide
  have htext : Octets.toText (.ofText "/bin/cat") = "/bin/cat" := by decide
  have hslash : (Octets.ofText "/bin/cat").contains '/' = true := by decide
  have hresolve : files.resolve directory "/bin/cat" = .ok ["bin", "cat"] := by
    rw [Tree.resolve, hnames, if_pos habsolute, Tree.follow_empty rfl,
      Tree.follow_name rfl (by decide) (by decide) (by decide), List.nil_append,
      Tree.follow_name hbin (by decide) (by decide) (by decide)]
    rfl
  rw [Shell.findProgram, if_pos hslash, htext, hresolve]
  dsimp only
  rw [Shell.executable?, hcat]

/-- Started as a process, `cat` writes its standard input to its standard output. -/
theorem launch_cat (hstdin : l.stdin = some bytes) (harguments : l.arguments = [])
    (hfound : Shell.findProgram files l.directory
      (((environmentOf l).lookup "PATH".toList).getD fallbackPath) (.ofText l.program) =
        .ok ["bin", "cat"])
    (htime : Shell.loadTime < watch.nanoseconds) :
    launch watch files l = .ok (some ⟨files, bytes, [], .exited 0, ⟨Shell.loadTime⟩⟩) := by
  unfold launch
  dsimp only
  rw [hfound, harguments]
  dsimp only
  generalize environmentOf l = environment
  have hclock : (firstState watch files l environment).machine.clock + Shell.loadTime =
      Shell.loadTime := Nat.zero_add _
  have hloaded : (Exec.spend Shell.loadTime).Gives (firstState watch files l environment) () _ :=
    Exec.gives_spend rfl (by rwa [hclock])
  rw [hclock] at hloaded
  have hsource : (firstState watch files l environment).machine.channels[0]? =
      some (.source ⟨.ofBytes bytes, []⟩ 0) := by
    simp [firstState, hstdin]
  obtain ⟨channels, hgives, houtput, hothers⟩ := exists_gives_cat
    (s := { firstState watch files l environment with
      machine := { (firstState watch files l environment).machine with clock := Shell.loadTime } })
    rfl rfl hsource rfl rfl (Nat.zero_le _) htime
  have hrun (e : Shell.Engine) (start : List Octets → List (Octets × Octets) → Exec Nat)
      (word : Octets) : (e.program start ["bin", "cat"] word ([].map .ofText) environment).run
        (firstState watch files l environment) = (.ok 0, _) :=
    Exec.Gives.bind hloaded hgives
  have herrors : outputOf { (firstState watch files l environment).machine with
      clock := Shell.loadTime, channels } 2 = [] := by
    have hsilent : channels[2]? = some (.sink [] false) := hothers
    rw [outputOf, hsilent]
    simp [Exec.collect, Octets.toBytes]
  have htakes : max 1 Shell.loadTime = Shell.loadTime := by decide
  rw [hrun]
  dsimp only
  rw [finish, houtput, herrors, Octets.toBytes_ofBytes, htakes]
  rfl

end Launch

section Execute

variable {r : CommandRunner} {base files : Tree} {directory : Path} {watch : Duration}
  {code stdin : String}

/-- Where `cat` is before the work directory is made and the source file is written, it is found
afterwards. -/
theorem findProgram_of_prepare {h : Runner.Host} (search : Octets)
    (hprepared : r.prepare h code = .ok files) (hbin : h.files.isDirectory ["bin"] = true)
    (hcat : h.files.HasProgram ["bin", "cat"]) :
    Shell.findProgram files (r.workDirectory h) search (.ofText "/bin/cat") =
      .ok ["bin", "cat"] := by
  obtain ⟨made, source, hmake, hwrite⟩ := Runner.WorkDirectory.exists_of_prepare hprepared
  obtain ⟨content, hcat⟩ := hcat
  have hmade : made.HasProgram ["bin", "cat"] := ⟨content, Tree.find?_makeDirectories hcat hmake⟩
  refine findProgram_cat _ _ ?_ (hmade.write hwrite)
  rw [Tree.isDirectory_write hwrite, Tree.isDirectory,
    Tree.find?_makeDirectories (eq_of_beq hbin) hmake]
  rfl

/-- An absolute path of a program is not put behind the work directory. -/
theorem program_launchOf_cat (h : Runner.Host) (stdin : Option (List UInt8)) :
    (r.launchOf h "/bin/cat" [] stdin).program = "/bin/cat" := by
  have habsolute : ("/bin/cat".toList.contains '/' && !Path.isAbsolute "/bin/cat") = false := by
    decide
  change CommandRunner.locate (r.workPath h) "/bin/cat" = _
  rw [CommandRunner.locate, habsolute, if_neg Bool.false_ne_true]

/-- A language whose programs write what they read gives its input back, whatever its settings and
the code are: the text that is fed, with its line ends unified. -/
theorem execute_cat (hbin : base.isDirectory ["bin"] = true)
    (hcat : base.HasProgram ["bin", "cat"]) (hcompile : r.language.compileCommand = [])
    (hrun : r.language.runCommand = ["/bin/cat"])
    (hprepared : r.prepare (host base directory) code = .ok files)
    (htime : Shell.loadTime < (watch - CommandRunner.preparationTime).nanoseconds)
    (hstdout : (CommandRunner.inputOf stdin).length ≤ r.judge.stdoutLimit) :
    (r.execute (host base directory) watch code stdin).Gives
      (.ok ⟨String.ofList (Text.unifyEnds stdin.toList), "", some 0⟩) := by
  have hlaunch : (host base directory).launch (watch - CommandRunner.preparationTime) files
      (r.launchOf (host base directory) "/bin/cat" [] (some (CommandRunner.inputOf stdin))) =
      .ok (some ⟨files, CommandRunner.inputOf stdin, [], .exited 0, ⟨Shell.loadTime⟩⟩) := by
    generalize watch - CommandRunner.preparationTime = left at htime
    refine launch_cat rfl rfl ?_ htime
    rw [program_launchOf_cat]
    exact findProgram_of_prepare _ hprepared hbin hcat
  have hbehaves : r.Behaves (host base directory) (some (CommandRunner.inputOf stdin)) files
      (watch - CommandRunner.preparationTime) r.language.runCommand
      (.ok ⟨files, CommandRunner.inputOf stdin, [], .exited 0, ⟨Shell.loadTime⟩⟩) := by
    rw [hrun]
    exact .ended hlaunch
  have hdecoded : Text.Utf8.decode (CommandRunner.inputOf stdin) =
      String.ofList (Text.unifyEnds stdin.toList) := by
    rw [CommandRunner.inputOf, Runner.StdinCursor.feed_ofString]
    exact Text.Utf8.decode_eq_iff.2 (Text.Utf8.reads_encode _)
  have hends : CommandRunner.Ends r.judge ⟨files, CommandRunner.inputOf stdin, [], .exited 0,
      ⟨Shell.loadTime⟩⟩ (.ok ⟨Text.Utf8.decode (CommandRunner.inputOf stdin),
        Text.Utf8.decode (([] : List UInt8).take r.judge.stderrLimit), some 0⟩) :=
    .well hstdout rfl
  rw [List.take_nil, hdecoded] at hends
  rw [CommandRunner.execute_gives_iff hprepared]
  exact .ended (.skipped hcompile) hbehaves hends

example :
    let r : CommandRunner := ⟨"cat", ⟨"1", [], ["/bin/cat"], "text", none⟩, .standard⟩
    (r.execute (host Tool.systemFiles []) (.ofMilliseconds 1000) "" "a\r\nb").Gives
      (.ok ⟨"a\nb", "", some 0⟩) := by
  intro r
  have hmade : (r.prepare (host Tool.systemFiles []) "").toBool = true := by decide +kernel
  obtain ⟨files, hprepared⟩ := exists_of_toBool hmade
  have hcat : Tool.systemFiles.HasProgram ["bin", "cat"] := ⟨[], by decide +kernel⟩
  exact execute_cat (by decide +kernel) hcat rfl rfl hprepared (by decide) (by decide +kernel)

end Execute

end Assay.Sandbox
