import Assay.Draw.Vocabulary
import Assay.Proofs.Draw.Results
import Assay.Proofs.Result

/-!
Previews of different lengths. The values of a preview are the first draws of one endless sequence,
so a longer preview goes on where a shorter one ended, and the first draw that fails decides all the
previews that reach it.
-/

namespace Assay.Draw

open Chain (Call Fault)
open Assay.Random (Source)

variable {halt halt' : Halt} {vs ws : List Value} {i j m n : Nat}

namespace Results

variable {d : Results}

/-- The draws before this one give values, and this one fails. -/
def FailsFirst (d : Results) (j : Nat) (halt : Halt) : Prop :=
  (∀ i < j, ∃ v, d i = .ok v) ∧ d j = .error halt

theorem FailsFirst.le (h : d.FailsFirst i halt) (h' : d.FailsFirst j halt') : i ≤ j := by
  by_contra hlt
  obtain ⟨v, hv⟩ := h.1 j (Nat.lt_of_not_le hlt)
  rw [h'.2] at hv
  cases hv

theorem FailsFirst.unique (h : d.FailsFirst i halt) (h' : d.FailsFirst j halt') :
    i = j ∧ halt = halt' := by
  obtain rfl := Nat.le_antisymm (h.le h') (h'.le h)
  have herror := h.2
  rw [h'.2] at herror
  exact ⟨rfl, (Except.error.inj herror).symm⟩

theorem StartsWith.take (h : d.StartsWith vs) (n : Nat) : d.StartsWith (vs.take n) := by
  intro i hi
  rw [List.getElem_take]
  exact h i (Nat.lt_of_lt_of_le hi (List.length_take_le' n vs))

/-- As many values as there are can only be the first draws. -/
theorem StartsWith.unique (h : d.StartsWith vs) (h' : d.StartsWith ws)
    (hlength : vs.length = ws.length) : vs = ws := by
  refine List.ext_getElem hlength fun i hi hi' => ?_
  have hdraw := h i hi
  rw [h' i hi'] at hdraw
  exact (Except.ok.inj hdraw).symm

theorem StartsWith.length_le (h : d.StartsWith vs) (hfail : d.FailsFirst j halt) :
    vs.length ≤ j := by
  by_contra hlt
  have hdraw := h j (Nat.lt_of_not_le hlt)
  rw [hfail.2] at hdraw
  cases hdraw

end Results

theorem Sampler.results_succ (σ : Sampler) (memory : σ.Memory) (source : Source) (i : Nat) :
    σ.results memory source (i + 1) =
      σ.results (σ.draw memory source).2.1 (σ.draw memory source).2.2 i := by
  unfold results
  rw [σ.after_succ]

namespace Generator

/-- The draws of a generator without end. -/
def draws (g : Generator) : Results := g.sampler.results g.memory g.source

theorem draws_zero (g : Generator) : g.draws 0 = g.next.1 := rfl

theorem draws_succ (g : Generator) (i : Nat) : g.draws (i + 1) = g.next.2.draws i :=
  g.sampler.results_succ g.memory g.source i

/-- The first values are the first draws, unless one of these fails. -/
theorem values_cases (g : Generator) (count : Nat) :
    (∃ vs, g.values count = .ok vs ∧ vs.length = count ∧ g.draws.StartsWith vs) ∨
      ∃ j halt, g.values count = .error halt ∧ j < count ∧ g.draws.FailsFirst j halt := by
  induction count generalizing g with
  | zero => exact .inl ⟨[], rfl, rfl, Results.startsWith_nil _⟩
  | succ count ih =>
    have hfirst := g.draws_zero
    have hlater := g.draws_succ
    rcases hnext : g.next with ⟨halt | v, g'⟩
    · rw [hnext] at hfirst
      refine .inr ⟨0, halt, ?_, Nat.succ_pos count, fun i hi => absurd hi (Nat.not_lt_zero i), hfirst⟩
      rw [values, hnext]
    · simp only [hnext] at hfirst hlater
      rcases ih g' with ⟨vs, hvs, hlength, hstarts⟩ | ⟨j, halt, herror, hj, hbefore, hfail⟩
      · refine .inl ⟨v :: vs, ?_, ?_, ?_⟩
        · rw [values, hnext]
          simp only [hvs, Except.map]
        · rw [List.length_cons, hlength]
        · intro i hi
          cases i with
          | zero => exact hfirst
          | succ i => exact (hlater i).trans (hstarts i (Nat.lt_of_succ_lt_succ hi))
      · refine .inr ⟨j + 1, halt, ?_, Nat.succ_lt_succ hj, ?_, (hlater j).trans hfail⟩
        · rw [values, hnext]
          simp only [herror, Except.map]
        · intro i hi
          cases i with
          | zero => exact ⟨v, hfirst⟩
          | succ i =>
            obtain ⟨w, hw⟩ := hbefore i (Nat.lt_of_succ_lt_succ hi)
            exact ⟨w, (hlater i).trans hw⟩

theorem values_eq_ok_iff {g : Generator} :
    g.values n = .ok vs ↔ vs.length = n ∧ g.draws.StartsWith vs := by
  rcases g.values_cases n with ⟨ws, hws, hlength, hstarts⟩ | ⟨j, halt, herror, hj, hfail⟩
  · rw [hws, Except.ok.injEq]
    constructor
    · rintro rfl
      exact ⟨hlength, hstarts⟩
    · rintro ⟨hcount, hvs⟩
      exact hstarts.unique hvs (hlength.trans hcount.symm)
  · rw [herror]
    refine iff_of_false nofun ?_
    rintro ⟨hcount, hvs⟩
    have hle := hvs.length_le hfail
    omega

theorem values_eq_error_iff {g : Generator} :
    g.values n = .error halt ↔ ∃ j < n, g.draws.FailsFirst j halt := by
  rcases g.values_cases n with ⟨vs, hvs, hlength, hstarts⟩ | ⟨j, halt', herror, hj, hfail⟩
  · rw [hvs]
    refine iff_of_false nofun ?_
    rintro ⟨j, hj, hfail⟩
    have hle := hstarts.length_le hfail
    omega
  · rw [herror, Except.error.injEq]
    constructor
    · rintro rfl
      exact ⟨j, hj, hfail⟩
    · rintro ⟨k, -, hfail'⟩
      exact (hfail.unique hfail').2

theorem values_take {g : Generator} (hn : n ≤ m) (h : g.values m = .ok vs) :
    g.values n = .ok (vs.take n) := by
  obtain ⟨hlength, hstarts⟩ := values_eq_ok_iff.mp h
  refine values_eq_ok_iff.mpr ⟨?_, hstarts.take n⟩
  rw [List.length_take, hlength, Nat.min_eq_left hn]

/-- The draw that fails first ends all the counts that reach it, and no other. -/
theorem exists_first_error {g : Generator} (h : g.values m = .error halt) :
    ∃ j < m, (∀ n ≤ j, ∃ vs, g.values n = .ok vs) ∧ ∀ n, j < n → g.values n = .error halt := by
  obtain ⟨j, hj, hfail⟩ := values_eq_error_iff.mp h
  refine ⟨j, hj, fun n hn => ?_, fun n hn => values_eq_error_iff.mpr ⟨j, hn, hfail⟩⟩
  rcases g.values_cases n with ⟨vs, hvs, -⟩ | ⟨k, halt', -, hk, hfail'⟩
  · exact ⟨vs, hvs⟩
  · have hle := hfail.le hfail'
    omega

end Generator

namespace Vocabulary

variable {v : Vocabulary} {source : String} {calls : List Call} {σ : Sampler} {seed : UInt64}
  {fault : Fault} {xs : List String}

theorem sample_of_read_error (h : Chain.read source = .error fault) (n : Nat) (seed : UInt64) :
    v.sample source n seed = .error (.fault fault) := by
  simp only [sample, compile, h]

theorem sample_of_evaluate_error (hread : Chain.read source = .ok calls)
    (h : v.evaluate calls = .error fault) (n : Nat) (seed : UInt64) :
    v.sample source n seed = .error (.fault fault) := by
  simp only [sample, compile, hread, h]

theorem sample_of_evaluate_ok (hread : Chain.read source = .ok calls)
    (h : v.evaluate calls = .ok σ) (n : Nat) (seed : UInt64) :
    v.sample source n seed = ((Generator.ofSeed σ seed).values n).map (·.map Value.format) := by
  simp only [sample, compile, hread, h]

/-- A preview that succeeds comes from a generator, and so do all previews of its source. -/
theorem exists_of_sample_eq_ok (h : v.sample source n seed = .ok xs) :
    ∃ σ vs, (Generator.ofSeed σ seed).values n = .ok vs ∧ vs.map Value.format = xs ∧
      ∀ k, v.sample source k seed =
        ((Generator.ofSeed σ seed).values k).map (·.map Value.format) := by
  cases hread : Chain.read source with
  | error fault =>
    rw [sample_of_read_error hread] at h
    cases h
  | ok calls =>
    cases hcalls : v.evaluate calls with
    | error fault =>
      rw [sample_of_evaluate_error hread hcalls] at h
      cases h
    | ok σ =>
      have hsample (k : Nat) := sample_of_evaluate_ok hread hcalls k seed
      rw [hsample] at h
      obtain ⟨vs, hvs, hxs⟩ := exists_of_map_eq_ok h
      exact ⟨σ, vs, hvs, hxs, hsample⟩

theorem length_of_sample (h : v.sample source n seed = .ok xs) : xs.length = n := by
  obtain ⟨σ, vs, hvs, rfl, -⟩ := exists_of_sample_eq_ok h
  rw [List.length_map]
  exact (Generator.values_eq_ok_iff.mp hvs).1

theorem sample_take (hn : n ≤ m) (h : v.sample source m seed = .ok xs) :
    v.sample source n seed = .ok (xs.take n) := by
  obtain ⟨σ, vs, hvs, rfl, hsample⟩ := exists_of_sample_eq_ok h
  rw [hsample, Generator.values_take hn hvs, ← List.map_take]
  rfl

/-- Once a source is evaluated, an error is that of the first draw that fails. -/
theorem exists_first_error (hread : Chain.read source = .ok calls) (hcalls : v.evaluate calls = .ok σ)
    (h : v.sample source m seed = .error halt) :
    ∃ j < m, (∀ n ≤ j, ∃ xs, v.sample source n seed = .ok xs) ∧
      ∀ n, j < n → v.sample source n seed = .error halt := by
  have hsample (n : Nat) := sample_of_evaluate_ok hread hcalls n seed
  have hvalues : (Generator.ofSeed σ seed).values m = .error halt := by
    cases hvs : (Generator.ofSeed σ seed).values m with
    | ok vs =>
      rw [hsample, hvs] at h
      cases h
    | error halt' =>
      rw [hsample, hvs] at h
      exact congrArg Except.error (Except.error.inj h)
  obtain ⟨j, hj, hbefore, hfrom⟩ := Generator.exists_first_error hvalues
  refine ⟨j, hj, fun n hn => ?_, fun n hn => ?_⟩
  · obtain ⟨vs, hvs⟩ := hbefore n hn
    exact ⟨_, by rw [hsample, hvs]; rfl⟩
  · rw [hsample, hfrom n hn]
    rfl

theorem sample_error_mono (hn : n ≤ m) (h : v.sample source n seed = .error halt) :
    v.sample source m seed = .error halt := by
  cases hread : Chain.read source with
  | error fault =>
    rw [sample_of_read_error hread] at h ⊢
    exact h
  | ok calls =>
    cases hcalls : v.evaluate calls with
    | error fault =>
      rw [sample_of_evaluate_error hread hcalls] at h ⊢
      exact h
    | ok σ =>
      obtain ⟨j, hj, -, hfrom⟩ := exists_first_error hread hcalls h
      exact hfrom m (Nat.lt_of_lt_of_le hj hn)

end Vocabulary

/-- A shorter preview shows the beginning of a longer one and fails only if that fails too, with the
same error. Once the source is read and evaluated there is one draw that decides: previews that end
before it succeed, and all others fail like it. What is wrong with the source itself shows for every
count, also if nothing is wanted. Nothing is assumed of the functions; they may remember what they
like between their draws. -/
theorem previews_prefix_consistent (v : Vocabulary) (source : String) (seed : UInt64) :
    (∀ n m xs, n ≤ m → v.sample source m seed = .ok xs →
      v.sample source n seed = .ok (xs.take n)) ∧
    (∀ n m halt, n ≤ m → v.sample source n seed = .error halt →
      v.sample source m seed = .error halt) ∧
    (∀ calls σ m halt, Chain.read source = .ok calls → v.evaluate calls = .ok σ →
      v.sample source m seed = .error halt →
      ∃ j < m, (∀ n ≤ j, ∃ xs, v.sample source n seed = .ok xs) ∧
        ∀ n, j < n → v.sample source n seed = .error halt) ∧
    (∀ fault, Chain.read source = .error fault →
      ∀ n, v.sample source n seed = .error (.fault fault)) ∧
    ∀ calls fault, Chain.read source = .ok calls → v.evaluate calls = .error fault →
      ∀ n, v.sample source n seed = .error (.fault fault) := by
  refine ⟨?_, ?_, ?_, ?_, ?_⟩
  · exact fun n m xs hn h => Vocabulary.sample_take hn h
  · exact fun n m halt hn h => Vocabulary.sample_error_mono hn h
  · exact fun calls σ m halt hread hcalls h => Vocabulary.exists_first_error hread hcalls h
  · exact fun fault hread n => Vocabulary.sample_of_read_error hread n seed
  · exact fun calls fault hread hcalls n => Vocabulary.sample_of_evaluate_error hread hcalls n seed

/-- Two, then one, and then nothing more. -/
def fromTwo : Sampler where
  Memory := Nat
  start := (2 : Nat)
  draw left source :=
    match left with
    | 0 => (.error (.fault (.exhausted 3 2)), (0 : Nat), source)
    | left + 1 => (.ok (.int (Int64.ofNat (left + 1))), left, source)

/-- The vocabulary of the one function `countdown`. -/
def counting : Vocabulary := Vocabulary.empty.register ⟨"countdown", fun _ _ => .ok fromTwo⟩

/-- A function that remembers how often it was drawn from and fails at the third draw. -/
theorem previews_prefix_consistent_countdown :
    counting.sample "countdown()" 2 7 = .ok ["2", "1"] ∧
    counting.sample "countdown()" 1 7 = .ok ["2"] ∧
    counting.sample "countdown()" 3 7 = .error (.fault (.exhausted 3 2)) ∧
    counting.sample "countdown()" 100 7 = .error (.fault (.exhausted 3 2)) ∧
    ∃ j < 3, (∀ n ≤ j, ∃ xs, counting.sample "countdown()" n 7 = .ok xs) ∧
      ∀ n, j < n → counting.sample "countdown()" n 7 = .error (.fault (.exhausted 3 2)) := by
  obtain ⟨htake, hmono, hfirst, -⟩ := previews_prefix_consistent counting "countdown()" 7
  have hread : Chain.read "countdown()" = .ok [⟨"countdown", []⟩] := by
    have hcalls : (Chain.read "countdown()").toOption = some [⟨"countdown", []⟩] := by
      decide +kernel
    cases h : Chain.read "countdown()" with
    | error fault =>
      rw [h] at hcalls
      cases hcalls
    | ok calls =>
      rw [h] at hcalls
      exact congrArg Except.ok (Option.some.inj hcalls)
  have hcalls : counting.evaluate [⟨"countdown", []⟩] = .ok fromTwo := rfl
  have htwo : counting.sample "countdown()" 2 7 = .ok ["2", "1"] := by
    rw [Vocabulary.sample_of_evaluate_ok hread hcalls]
    rfl
  have hthree : counting.sample "countdown()" 3 7 = .error (.fault (.exhausted 3 2)) := by
    rw [Vocabulary.sample_of_evaluate_ok hread hcalls]
    rfl
  exact ⟨htwo, htake 1 2 _ (by decide) htwo, hthree, hmono 3 100 _ (by decide) hthree,
    hfirst _ _ 3 _ hread hcalls hthree⟩

end Assay.Draw
