import Assay.Proofs.Draw.Conformance
import Assay.Proofs.Draw.Results
import Assay.Proofs.Result

/-!
What greater limits change. A chain that is accepted stays accepted, and draws that all gave values
give the same values from the same random words: a limit only ever turns a failure into something
else.
-/

namespace Assay.Draw

open Chain (Call)
open Assay.Random (IntegerRange Source)

/-- If the first draw gives a value, the second one gives it too. They leave the same source, and
memories that are related. -/
def Carries {α M M' : Type} (related : M → M' → Prop) (drawn : Except Halt α × M × Source)
    (drawn' : Except Halt α × M' × Source) : Prop :=
  ∀ a memory source, drawn = (.ok a, memory, source) →
    ∃ memory', drawn' = (.ok a, memory', source) ∧ related memory memory'

/-- Draws from related memories and the same source are carried over. -/
structure Simulates (σ σ' : Sampler) (related : σ.Memory → σ'.Memory → Prop) : Prop where
  start : related σ.start σ'.start
  draw : ∀ {memory memory'}, related memory memory' → ∀ source,
    Carries related (σ.draw memory source) (σ'.draw memory' source)

/-- All values of the first sampler are values of the second one, drawn alike. -/
def Sampler.Subsumes (σ' σ : Sampler) : Prop := ∃ related, Simulates σ σ' related

/-- The same of what stands on the left of a call. -/
def SubsumesLeft (left' left : Option Sampler) : Prop :=
  ∀ inner, left = some inner → ∃ inner', left' = some inner' ∧ inner'.Subsumes inner

theorem Sampler.Subsumes.refl (σ : Sampler) : σ.Subsumes σ :=
  ⟨Eq, rfl, fun heq _ _ memory _ h => ⟨memory, heq ▸ h, rfl⟩⟩

theorem Carries.map {α β M M' : Type} {related : M → M' → Prop} {x : Except Halt α × M × Source}
    {x' : Except Halt α × M' × Source} (h : Carries related x x') (f : α → β) :
    Carries related (x.1.map f, x.2) (x'.1.map f, x'.2) := by
  obtain ⟨_ | a, memory, source⟩ := x
  · intro b last rest hmap
    cases hmap
  · obtain ⟨memory', rfl, hrelated⟩ := h a memory source rfl
    intro b last rest hmap
    cases hmap
    exact ⟨memory', rfl, hrelated⟩

section Arrays

variable {inner inner' : Sampler} {related : inner.Memory → inner'.Memory → Prop}
  (h : Simulates inner inner' related) {tries tries' : Nat}

include h

theorem fill_carries (missing : Nat) (items : List Value) {memory : inner.Memory}
    {memory' : inner'.Memory} (hrelated : related memory memory') (source : Source) :
    Carries related (fill inner missing ⟨items, memory, source⟩)
      (fill inner' missing ⟨items, memory', source⟩) := by
  induction missing generalizing items memory memory' source with
  | zero =>
    intro vs last rest hfill
    cases hfill
    exact ⟨memory', rfl, hrelated⟩
  | succ missing ih =>
    have hdraw := h.draw hrelated source
    rcases hinner : inner.draw memory source with ⟨halt | v, next, rest⟩
    · intro vs last rest' hfill
      simp [fill, hinner] at hfill
    · obtain ⟨next', hinner', hnext⟩ := hdraw v next rest hinner
      simp only [fill, hinner, hinner']
      exact ih (v :: items) hnext rest

/-- More tries find the same new value after the same draws, if fewer tries have found one. -/
theorem drawDistinct_carries (htries : tries ≤ tries') (seen : List Value) {memory : inner.Memory}
    {memory' : inner'.Memory} (hrelated : related memory memory') {source rest : Source}
    {v : Value} {next : inner.Memory}
    (hsearch : drawDistinct inner seen tries memory source = (some (.ok v), next, rest)) :
    ∃ next', drawDistinct inner' seen tries' memory' source = (some (.ok v), next', rest) ∧
      related next next' := by
  -- both searches make the same draws, so the second one always has a try left
  induction tries generalizing tries' memory memory' source with
  | zero => cases hsearch
  | succ tries ih =>
    obtain ⟨tries', rfl⟩ := Nat.exists_eq_add_of_le' htries
    have hdraw := h.draw hrelated source
    rcases hinner : inner.draw memory source with ⟨halt | w, after, left⟩
    · simp [drawDistinct, hinner] at hsearch
    · obtain ⟨after', hinner', hafter⟩ := hdraw w after left hinner
      simp only [drawDistinct, hinner] at hsearch
      rw [← Nat.add_assoc]
      simp only [drawDistinct, hinner']
      split at hsearch
      · next hseen =>
        rw [if_pos hseen]
        exact ih (by omega) hafter hsearch
      · next hnew =>
        rw [if_neg hnew]
        cases hsearch
        exact ⟨after', rfl, hafter⟩

theorem fillDistinct_carries (htries : tries ≤ tries') (wanted missing : Nat) (items : List Value)
    {memory : inner.Memory} {memory' : inner'.Memory} (hrelated : related memory memory')
    (source : Source) :
    Carries related (fillDistinct inner wanted tries missing ⟨items, memory, source⟩)
      (fillDistinct inner' wanted tries' missing ⟨items, memory', source⟩) := by
  induction missing generalizing items memory memory' source with
  | zero =>
    intro vs last rest hfill
    cases hfill
    exact ⟨memory', rfl, hrelated⟩
  | succ missing ih =>
    rcases hsearch : drawDistinct inner items tries memory source with
      ⟨_ | halt | v, next, rest⟩
    · intro vs last rest' hfill
      simp [fillDistinct, hsearch] at hfill
    · intro vs last rest' hfill
      simp [fillDistinct, hsearch] at hfill
    · obtain ⟨next', hsearch', hnext⟩ := drawDistinct_carries h htries items hrelated hsearch
      simp only [fillDistinct, hsearch, hsearch']
      exact ih (v :: items) hnext rest

theorem simulates_arraySampler (htries : tries ≤ tries') (lengths : IntegerRange) (unique : Bool) :
    Simulates (arraySampler inner lengths unique tries) (arraySampler inner' lengths unique tries')
      related := by
  refine ⟨h.start, ?_⟩
  intro memory memory' hrelated source
  have hfill (length : Nat) (rest : Source) : Carries related
      (if unique then fillDistinct inner length tries length ⟨[], memory, rest⟩
        else fill inner length ⟨[], memory, rest⟩)
      (if unique then fillDistinct inner' length tries' length ⟨[], memory', rest⟩
        else fill inner' length ⟨[], memory', rest⟩) := by
    cases unique with
    | false => exact fill_carries h length [] hrelated rest
    | true => exact fillDistinct_carries h htries length length [] hrelated rest
  exact (hfill (lengths.draw source).1.toInt.toNat (lengths.draw source).2).map Value.array

end Arrays

theorem lengthRange_of_le {limits limits' : DrawLimits} {c : Call} {lengths : IntegerRange}
    (hlength : limits.maxArrayLength ≤ limits'.maxArrayLength)
    (h : lengthRange limits c = .ok lengths) : lengthRange limits' c = .ok lengths := by
  obtain ⟨hrange, hlow, hhigh⟩ := lengthRange_eq_ok_iff.1 h
  exact lengthRange_eq_ok_iff.2 ⟨hrange, hlow, by omega⟩

section Chains

variable {limits limits' : DrawLimits} (hretries : limits.uniqueRetries ≤ limits'.uniqueRetries)
  (hlength : limits.maxArrayLength ≤ limits'.maxArrayLength)

include hretries hlength

theorem arrayFunction_of_le {c : Call} {left left' : Option Sampler} {σ : Sampler}
    (hleft : SubsumesLeft left' left) (h : (arrayFunction limits).build c left = .ok σ) :
    ∃ σ', (arrayFunction limits').build c left' = .ok σ' ∧ σ'.Subsumes σ := by
  obtain ⟨inner, lengths, unique, rfl, hlengths, hunique, rfl⟩ := exists_arraySampler h
  obtain ⟨inner', rfl, related, hsimulates⟩ := hleft inner rfl
  refine ⟨arraySampler inner' lengths unique (max limits'.uniqueRetries 1), ?_, related, ?_⟩
  · simp only [arrayFunction, lengthRange_of_le hlength hlengths, hunique]
  · exact simulates_arraySampler hsimulates (by omega) lengths unique

theorem build_of_le {c : Call} {left left' : Option Sampler} {σ : Sampler}
    (hleft : SubsumesLeft left' left) (h : (Vocabulary.standard limits).build left c = .ok σ) :
    ∃ σ', (Vocabulary.standard limits').build left' c = .ok σ' ∧ σ'.Subsumes σ := by
  have hfind := find?_standard limits' c.name
  have hbuild (f : Function) (σ' : Sampler)
      (hf : (Vocabulary.standard limits').find? c.name = some f)
      (hb : f.build c left' = .ok σ') :
      (Vocabulary.standard limits').build left' c = .ok σ' := by
    simp only [Vocabulary.build, hf, hb]
  rcases build_standard h with ⟨hname, hb⟩ | ⟨hname, hb⟩ | ⟨hname, hb⟩ | ⟨hname, hb⟩
  · obtain ⟨σ', hb', hsubsumes⟩ := arrayFunction_of_le hretries hlength hleft hb
    exact ⟨σ', hbuild _ σ' (by simpa [hname] using hfind) hb', hsubsumes⟩
  · exact ⟨σ, hbuild wordFunction σ (by simpa [hname] using hfind) hb, .refl σ⟩
  · exact ⟨σ, hbuild floatFunction σ (by simpa [hname] using hfind) hb, .refl σ⟩
  · exact ⟨σ, hbuild intFunction σ (by simpa [hname] using hfind) hb, .refl σ⟩

theorem buildAll_of_le {calls : List Call} {left left' : Option Sampler} {σ : Sampler}
    (hleft : SubsumesLeft left' left)
    (h : (Vocabulary.standard limits).buildAll left calls = .ok (some σ)) :
    ∃ σ', (Vocabulary.standard limits').buildAll left' calls = .ok (some σ') ∧
      σ'.Subsumes σ := by
  induction calls generalizing left left' with
  | nil =>
    obtain ⟨σ', rfl, hsubsumes⟩ := hleft σ (Except.ok.inj h)
    exact ⟨σ', rfl, hsubsumes⟩
  | cons c calls ih =>
    simp only [Vocabulary.buildAll] at h ⊢
    cases hbuild : (Vocabulary.standard limits).build left c with
    | error fault => simp [hbuild] at h
    | ok inner =>
      simp only [hbuild] at h
      obtain ⟨inner', hbuild', hsubsumes⟩ := build_of_le hretries hlength hleft hbuild
      simp only [hbuild']
      refine ih (fun _ heq => ⟨inner', rfl, ?_⟩) h
      rwa [← Option.some.inj heq]

theorem evaluate_of_le {calls : List Call} {σ : Sampler}
    (h : (Vocabulary.standard limits).evaluate calls = .ok σ) :
    ∃ σ', (Vocabulary.standard limits').evaluate calls = .ok σ' ∧ σ'.Subsumes σ := by
  unfold Vocabulary.evaluate at h ⊢
  split at h
  · cases h
  · cases h
  · next hall =>
    rw [Except.ok.inj h] at hall
    have hnone : SubsumesLeft none none := fun _ heq => nomatch heq
    obtain ⟨σ', hall', hsubsumes⟩ := buildAll_of_le hretries hlength hnone hall
    exact ⟨σ', by rw [hall'], hsubsumes⟩

end Chains

/-- Draws that all give values are carried over one by one. -/
theorem Simulates.values {σ σ' : Sampler} {related : σ.Memory → σ'.Memory → Prop}
    (h : Simulates σ σ' related) {memory : σ.Memory} {memory' : σ'.Memory}
    (hrelated : related memory memory') (source : Source) {count : Nat} {vs : List Value}
    (hvalues : (Generator.mk σ memory source).values count = .ok vs) :
    (Generator.mk σ' memory' source).values count = .ok vs ∧
      (σ'.after memory' source count).2 = (σ.after memory source count).2 := by
  induction count generalizing memory memory' source vs with
  | zero => exact ⟨hvalues, rfl⟩
  | succ count ih =>
    rcases hdraw : σ.draw memory source with ⟨halt | v, next, rest⟩
    · simp [Generator.values, Generator.next, hdraw] at hvalues
    · obtain ⟨next', hdraw', hnext⟩ := h.draw hrelated source v next rest hdraw
      simp only [Generator.values, Generator.next, hdraw] at hvalues
      obtain ⟨ws, hws, rfl⟩ := exists_of_map_eq_ok hvalues
      obtain ⟨hws', hsource⟩ := ih hnext rest hws
      simp only [Generator.values, Generator.next, hdraw', hws', Sampler.after_succ, hdraw]
      exact ⟨rfl, hsource⟩

/-- Greater limits change nothing that was good. A chain that is accepted is accepted under greater
limits, and if its first draws all give values, whatever the random words are, they give the same
values under greater limits and leave the same source. -/
theorem draws_of_greater_limits (limits limits' : DrawLimits) (calls : List Call) (σ : Sampler)
    (hretries : limits.uniqueRetries ≤ limits'.uniqueRetries)
    (hlength : limits.maxArrayLength ≤ limits'.maxArrayLength)
    (h : (Vocabulary.standard limits).evaluate calls = .ok σ) :
    ∃ σ', (Vocabulary.standard limits').evaluate calls = .ok σ' ∧
      ∀ (source : Source) (count : Nat) (vs : List Value),
        (Generator.mk σ σ.start source).values count = .ok vs →
        (Generator.mk σ' σ'.start source).values count = .ok vs ∧
          (σ'.after σ'.start source count).2 = (σ.after σ.start source count).2 := by
  obtain ⟨σ', hevaluate, related, hsimulates⟩ := evaluate_of_le hretries hlength h
  refine ⟨σ', hevaluate, fun source count vs hvalues => ?_⟩
  exact hsimulates.values hsimulates.start source hvalues

/-- A chain that succeeds with a single draw for each item. -/
theorem draws_of_greater_limits_pairs :
    ∃ σ σ', (Vocabulary.standard ⟨1, 2⟩).evaluate pairs = .ok σ ∧
      (Vocabulary.standard ⟨7, 9⟩).evaluate pairs = .ok σ' ∧
      ∃ vs, (Generator.ofSeed σ 7).values 2 = .ok vs ∧ (Generator.ofSeed σ' 7).values 2 = .ok vs ∧
        (σ'.after σ'.start (Source.ofSeed 7) 2).2 = (σ.after σ.start (Source.ofSeed 7) 2).2 := by
  have hdraws : (match (Vocabulary.standard ⟨1, 2⟩).evaluate pairs with
      | .ok σ => ((Generator.ofSeed σ 7).values 2).toBool
      | .error _ => false) = true := by decide +kernel
  cases h : (Vocabulary.standard ⟨1, 2⟩).evaluate pairs with
  | error fault =>
    rw [h] at hdraws
    cases hdraws
  | ok σ =>
    rw [h] at hdraws
    obtain ⟨vs, hvs⟩ := exists_of_toBool hdraws
    obtain ⟨σ', hσ', hcarried⟩ :=
      draws_of_greater_limits ⟨1, 2⟩ ⟨7, 9⟩ pairs σ (by decide) (by decide) h
    exact ⟨σ, σ', rfl, hσ', vs, hvs, hcarried (Source.ofSeed 7) 2 vs hvs⟩

end Assay.Draw
