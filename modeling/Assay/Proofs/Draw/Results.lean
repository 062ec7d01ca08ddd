import Assay.Draw.Sampler
import Assay.Proofs.Draw.Equality

/-!
The results of draws without end, and where drawing distinct values from them ends. Nothing here
mentions how an array is filled: a sequence is looked at as a whole, and the values that are kept
are those that equal no earlier value, whether that one was kept or not.
-/

namespace Assay.Draw

open Assay.Random (Source)

/-- The results of successive draws. -/
abbrev Results := Nat → Except Halt Value

namespace Sampler

variable (σ : Sampler) (memory : σ.Memory) (source : Source)

/-- What is remembered and what is left of the source after `count` draws. -/
def after : Nat → σ.Memory × Source
  | 0 => (memory, source)
  | count + 1 =>
    let (memory, source) := after count
    (σ.draw memory source).2

/-- The results of draws without end; drawing goes on after a failure. -/
def results : Results := fun i =>
  let (memory, source) := σ.after memory source i
  (σ.draw memory source).1

theorem draw_after (n : Nat) : σ.draw (σ.after memory source n).1 (σ.after memory source n).2 =
    (σ.results memory source n, σ.after memory source (n + 1)) := rfl

theorem after_succ (n : Nat) : σ.after memory source (n + 1) =
    σ.after (σ.draw memory source).2.1 (σ.draw memory source).2.2 n := by
  induction n with
  | zero => rfl
  | succ n ih =>
    change (σ.draw (σ.after memory source (n + 1)).1 (σ.after memory source (n + 1)).2).2 = _
    rw [ih]
    rfl

end Sampler

namespace Results

variable {d : Results} {v : Value} {halt : Halt} {wanted tries n k : Nat}

/-- The first draws give these values, in order. -/
def StartsWith (d : Results) (vs : List Value) : Prop := ∀ i (h : i < vs.length), d i = .ok vs[i]

/-- The values of the first `n` draws. -/
def before (d : Results) (n : Nat) : List Value :=
  (List.range n).filterMap fun i => (d i).toOption

/-- A draw gives the value of an earlier draw again. -/
def Repeats (d : Results) (i : Nat) : Prop :=
  ∃ v, d i = .ok v ∧ ∃ u ∈ d.before i, u.equal v = true

/-- The values of the first `n` draws that equal no value drawn before them, in order. -/
def firsts (d : Results) : Nat → List Value
  | 0 => []
  | n + 1 =>
    match d n with
    | .error _ => firsts d n
    | .ok v => if (d.before n).any fun u => u.equal v then firsts d n else firsts d n ++ [v]

/-- The last `tries` of the first `n` draws all gave earlier values again. -/
def WornOut (d : Results) (tries n : Nat) : Prop := tries ≤ n ∧ ∀ i < n, n ≤ i + tries → d.Repeats i

/-- Drawing distinct values ends after `n` draws: there are enough of them, or the last draw
failed, or too many draws in a row gave nothing new. -/
def Ends (d : Results) (wanted tries n : Nat) : Prop :=
  (d.firsts n).length = wanted ∨ (∃ i halt, n = i + 1 ∧ d i = .error halt) ∨ d.WornOut tries n

/-- Drawing distinct values ends after `n` draws and not before, with this result. -/
structure EndsFirst (d : Results) (wanted tries n : Nat) (result : Except Halt (List Value)) :
    Prop where
  ends : d.Ends wanted tries n
  first : ∀ i < n, ¬d.Ends wanted tries i
  filled : (d.firsts n).length = wanted → result = .ok (d.firsts n)
  failed : ∀ i halt, n = i + 1 → d i = .error halt → result = .error halt
  wornOut : d.WornOut tries n → (d.firsts n).length < wanted ∧
    result = .error (.fault (.exhausted wanted (d.firsts n).length))

theorem startsWith_nil (d : Results) : d.StartsWith [] :=
  fun _ hi => absurd hi (Nat.not_lt_zero _)

theorem StartsWith.append {vs : List Value} (h : d.StartsWith vs) (hv : d vs.length = .ok v) :
    d.StartsWith (vs ++ [v]) := by
  intro i hi
  rw [List.getElem_append]
  split
  · next hlt => exact h i hlt
  · next hge =>
    rw [List.length_append, List.length_singleton] at hi
    obtain rfl : i = vs.length := by omega
    simpa using hv

theorem mem_before : v ∈ d.before n ↔ ∃ i < n, d i = .ok v := by
  simp only [before, List.mem_filterMap, List.mem_range]
  refine exists_congr fun i => and_congr_right fun _ => ?_
  cases d i <;> simp [Except.toOption]

theorem before_succ_of_ok (h : d n = .ok v) : d.before (n + 1) = d.before n ++ [v] := by
  simp [before, List.range_succ, List.filterMap_append, h, Except.toOption]

theorem before_succ_of_error (h : d n = .error halt) : d.before (n + 1) = d.before n := by
  simp [before, List.range_succ, List.filterMap_append, h, Except.toOption]

theorem firsts_succ_of_error (h : d n = .error halt) : d.firsts (n + 1) = d.firsts n := by
  simp [firsts, h]

theorem firsts_succ_of_repeats (h : d.Repeats n) : d.firsts (n + 1) = d.firsts n := by
  obtain ⟨v, hv, hseen⟩ := h
  simp only [firsts, hv]
  rw [if_pos (List.any_eq_true.mpr hseen)]

theorem firsts_succ_of_new (h : d n = .ok v) (hnew : ¬d.Repeats n) :
    d.firsts (n + 1) = d.firsts n ++ [v] := by
  simp only [firsts, h]
  rw [if_neg fun hseen => hnew ⟨v, h, List.any_eq_true.mp hseen⟩]

/-- A value equals one that was drawn before exactly if it equals one that was kept. -/
theorem any_firsts (d : Results) (n : Nat) (v : Value) :
    ((d.firsts n).any fun u => u.equal v) = (d.before n).any fun u => u.equal v := by
  induction n generalizing v with
  | zero => rfl
  | succ n ih =>
    cases h : d n with
    | error halt => rw [firsts_succ_of_error h, before_succ_of_error h, ih]
    | ok w =>
      by_cases hseen : d.Repeats n
      · rw [firsts_succ_of_repeats hseen, before_succ_of_ok h, ih, List.any_append]
        -- `w` is not kept, but what equals it equals an earlier value: equality is transitive
        obtain ⟨w', hw', u, hu, huw⟩ := hseen
        rw [h, Except.ok.injEq] at hw'
        subst hw'
        cases hwv : w.equal v with
        | false => simp [hwv]
        | true =>
          have hany : ((d.before n).any fun u => u.equal v) = true :=
            List.any_eq_true.mpr ⟨u, hu, Value.equal_trans huw hwv⟩
          rw [hany, Bool.true_or]
      · rw [firsts_succ_of_new h hseen, before_succ_of_ok h, List.any_append, List.any_append, ih]

theorem repeats_iff_firsts (h : d n = .ok v) :
    d.Repeats n ↔ ((d.firsts n).any fun u => u.equal v) = true := by
  rw [any_firsts, List.any_eq_true]
  constructor
  · rintro ⟨w, hw, hseen⟩
    rw [h, Except.ok.injEq] at hw
    rwa [hw]
  · exact fun hseen => ⟨v, h, hseen⟩

theorem mem_before_of_mem_firsts (h : v ∈ d.firsts n) : v ∈ d.before n := by
  induction n with
  | zero => cases h
  | succ n ih =>
    cases hd : d n with
    | error halt =>
      rw [firsts_succ_of_error hd] at h
      rw [before_succ_of_error hd]
      exact ih h
    | ok w =>
      rw [before_succ_of_ok hd]
      by_cases hseen : d.Repeats n
      · rw [firsts_succ_of_repeats hseen] at h
        exact List.mem_append_left _ (ih h)
      · rw [firsts_succ_of_new hd hseen] at h
        exact (List.mem_append.mp h).elim (fun h => List.mem_append_left _ (ih h))
          (List.mem_append_right _)

theorem distinct_firsts (d : Results) (n : Nat) : Distinct (d.firsts n) := by
  induction n with
  | zero => exact .nil
  | succ n ih =>
    cases hd : d n with
    | error halt => rwa [firsts_succ_of_error hd]
    | ok w =>
      by_cases hseen : d.Repeats n
      · rwa [firsts_succ_of_repeats hseen]
      · rw [firsts_succ_of_new hd hseen]
        refine List.pairwise_append.mpr ⟨ih, List.pairwise_singleton _ _, ?_⟩
        intro u hu v hv
        rw [List.mem_singleton.mp hv]
        refine eq_false_of_ne_true fun hequal => hseen ?_
        exact (repeats_iff_firsts hd).mpr (List.any_eq_true.mpr ⟨u, hu, hequal⟩)

theorem firsts_add_of_repeats (h : ∀ i, n ≤ i → i < n + k → d.Repeats i) :
    d.firsts (n + k) = d.firsts n := by
  induction k with
  | zero => rfl
  | succ k ih =>
    rw [← Nat.add_assoc, firsts_succ_of_repeats (h _ (by omega) (by omega))]
    exact ih fun i hi hk => h i hi (by omega)

/-- Nothing has ended after `n` draws or before, except that there may be enough values now: the
last draw gave a new value, so a row of repetitions starts with the next draw. -/
structure Underway (d : Results) (wanted tries n : Nat) : Prop where
  quiet : ∀ i < n, ¬d.Ends wanted tries i
  fresh : ∀ i, n = i + 1 → ∃ v, d i = .ok v ∧ ¬d.Repeats i
  bound : n ≤ (d.firsts n).length * tries

theorem underway_zero : d.Underway wanted tries 0 where
  quiet _ hi := absurd hi (Nat.not_lt_zero _)
  fresh _ hi := absurd hi (Nat.succ_ne_zero _).symm
  bound := Nat.zero_le _

namespace Underway

variable (h : d.Underway wanted tries n) (hrow : ∀ i, n ≤ i → i < n + k → d.Repeats i)

include h

theorem not_wornOut (hk : k < tries) : ¬d.WornOut tries (n + k) := by
  rintro ⟨hle, hall⟩
  -- the row would have to contain the last new value, at draw `n - 1`
  cases n with
  | zero => omega
  | succ i =>
    obtain ⟨-, -, hnew⟩ := h.fresh i rfl
    exact hnew (hall i (by omega) (by omega))

include hrow

theorem not_failed {i : Nat} (hi : n + k = i + 1) : d i ≠ .error halt := by
  intro herror
  have hok : ∃ v, d i = .ok v := by
    by_cases hlt : i < n
    · obtain ⟨v, hv, -⟩ := h.fresh i (by omega)
      exact ⟨v, hv⟩
    · obtain ⟨v, hv, -⟩ := hrow i (by omega) (by omega)
      exact ⟨v, hv⟩
  obtain ⟨v, hv⟩ := hok
  rw [hv] at herror
  cases herror

/-- Fewer than `tries` repetitions in a row end nothing. -/
theorem not_ends (hk : k < tries) (hcount : (d.firsts n).length < wanted) :
    ¬d.Ends wanted tries (n + k) := by
  rintro (hfilled | ⟨i, halt, hi, herror⟩ | hworn)
  · rw [firsts_add_of_repeats hrow] at hfilled
    omega
  · exact h.not_failed hrow hi herror
  · exact h.not_wornOut hk hworn

theorem quiet_add (hk : k ≤ tries) (hcount : (d.firsts n).length < wanted) :
    ∀ i < n + k, ¬d.Ends wanted tries i := by
  intro i hi
  by_cases hlt : i < n
  · exact h.quiet i hlt
  · obtain ⟨j, rfl⟩ := Nat.exists_eq_add_of_le (Nat.le_of_not_lt hlt)
    refine h.not_ends (fun i hi hj => hrow i hi ?_) ?_ hcount <;> omega

theorem endsFirst_wornOut (hk : k = tries) (hcount : (d.firsts n).length < wanted) :
    d.EndsFirst wanted tries (n + k)
      (.error (.fault (.exhausted wanted (d.firsts n).length))) := by
  have hfirsts := firsts_add_of_repeats hrow
  refine ⟨.inr (.inr ⟨by omega, fun i hi hle => hrow i (by omega) hi⟩),
    h.quiet_add hrow (by omega) hcount, fun hfilled => ?_, fun i halt hi herror => ?_, fun _ => ?_⟩
  · rw [hfirsts] at hfilled
    omega
  · exact absurd herror (h.not_failed hrow hi)
  · rw [hfirsts]
    exact ⟨hcount, rfl⟩

theorem endsFirst_failed (hk : k < tries) (hcount : (d.firsts n).length < wanted)
    (herror : d (n + k) = .error halt) :
    d.EndsFirst wanted tries (n + k + 1) (.error halt) := by
  have hfirsts : d.firsts (n + k + 1) = d.firsts n := by
    rw [firsts_succ_of_error herror, firsts_add_of_repeats hrow]
  have hquiet : ∀ i < n + k + 1, ¬d.Ends wanted tries i := by
    intro i hi
    rcases Nat.lt_succ_iff_lt_or_eq.mp hi with hlt | rfl
    · exact h.quiet_add hrow (by omega) hcount i hlt
    · exact h.not_ends hrow hk hcount
  refine ⟨.inr (.inl ⟨n + k, halt, rfl, herror⟩), hquiet, fun hfilled => ?_,
    fun i halt' hi herror' => ?_, fun hworn => ?_⟩
  · rw [hfirsts] at hfilled
    omega
  · obtain rfl : i = n + k := by omega
    rw [herror] at herror'
    exact congrArg Except.error (Except.error.inj herror')
  · obtain ⟨v, hv, -⟩ := hworn.2 (n + k) (by omega) (by omega)
    rw [herror] at hv
    cases hv

theorem next (hk : k < tries) (hcount : (d.firsts n).length < wanted) (hv : d (n + k) = .ok v)
    (hnew : ¬d.Repeats (n + k)) :
    d.Underway wanted tries (n + k + 1) ∧ d.firsts (n + k + 1) = d.firsts n ++ [v] := by
  have hfirsts : d.firsts (n + k + 1) = d.firsts n ++ [v] := by
    rw [firsts_succ_of_new hv hnew, firsts_add_of_repeats hrow]
  refine ⟨⟨?_, ?_, ?_⟩, hfirsts⟩
  · intro i hi
    rcases Nat.lt_succ_iff_lt_or_eq.mp hi with hlt | rfl
    · exact h.quiet_add hrow (by omega) hcount i hlt
    · exact h.not_ends hrow hk hcount
  · intro i hi
    obtain rfl : i = n + k := by omega
    exact ⟨v, hv, hnew⟩
  · have hbound := h.bound
    rw [hfirsts, List.length_append, List.length_singleton, Nat.add_mul, Nat.one_mul]
    omega

omit hrow

theorem endsFirst_filled (htries : 0 < tries) (hfilled : (d.firsts n).length = wanted) :
    d.EndsFirst wanted tries n (.ok (d.firsts n)) := by
  have hnone : ∀ i, n ≤ i → i < n + 0 → d.Repeats i := fun i hi hn => absurd hi (by omega)
  refine ⟨.inl hfilled, h.quiet, fun _ => rfl, fun i halt hi herror => ?_, fun hworn => ?_⟩
  · exact absurd herror (h.not_failed hnone hi)
  · exact absurd hworn (h.not_wornOut htries)

end Underway

/-- The draw at which it ends and the result are determined by the sequence. -/
theorem EndsFirst.unique {n' : Nat} {result result' : Except Halt (List Value)}
    (h : d.EndsFirst wanted tries n result) (h' : d.EndsFirst wanted tries n' result') :
    n = n' ∧ result = result' := by
  obtain rfl : n = n' := by
    rcases Nat.lt_trichotomy n n' with hlt | heq | hgt
    · exact absurd h.ends (h'.first n hlt)
    · exact heq
    · exact absurd h'.ends (h.first n' hgt)
  refine ⟨rfl, ?_⟩
  rcases h.ends with hfilled | ⟨i, halt, hi, herror⟩ | hworn
  · rw [h.filled hfilled, h'.filled hfilled]
  · rw [h.failed i halt hi herror, h'.failed i halt hi herror]
  · rw [(h.wornOut hworn).2, (h'.wornOut hworn).2]

end Results

end Assay.Draw
