import Assay.Draw.Vocabulary
import Assay.Proofs.Draw.Bounds
import Assay.Proofs.Draw.Filling
import Assay.Proofs.Draw.Values

/-!
Values conform to the chain they are drawn from: a leaf of the last leaf call, below one level of
arrays for every array call that follows it.
-/

namespace Assay.Draw

open Chain (Call Fault)
open Assay.Random (Source)

/-- The calls that replace what stands on the left. -/
def leafNames : List String := ["int", "float", "word"]

/-- A value conforms to a leaf call and the array calls behind it, the last one first. -/
inductive Conforms (leaf : Call) : List Call → Value → Prop where
  | int (n : Int64) (a b : Int) : leaf.name = "int" → HasBounds leaf (1, 100) a b →
      a ≤ n.toInt → n.toInt ≤ b → Conforms leaf [] (.int n)
  | float (x : Number.Binary64) : leaf.name = "float" → Conforms leaf [] (.float x)
  | word (s : String) : leaf.name = "word" → s ∈ dictionary → Conforms leaf [] (.text s)
  | array (c : Call) (inner : List Call) (items : List Value) (a b : Int) :
      HasBounds c (1, 1) a b → a ≤ items.length → items.length ≤ b →
      (AsksUnique c → ∀ (i j : Nat) (hi : i < items.length) (hj : j < items.length), i ≠ j →
        items[i].equal items[j] = false) →
      (∀ item ∈ items, Conforms leaf inner item) → Conforms leaf (c :: inner) (.array items)

/-- Why a draw may give no value: too few distinct ones for an array that has to be unique, or a
range of `float` that is too wide for its scale. -/
def Excuse (leaf : Call) (arrays : List Call) (halt : Halt) : Prop :=
  (halt = .abort ∧ leaf.name = "float") ∨ (IsExhausted halt ∧ ∃ c ∈ arrays, AsksUnique c)

/-- The lengths that an array call allows are within the limits. -/
def WithinLimits (limits : DrawLimits) (c : Call) : Prop :=
  ∃ a b, HasBounds c (1, 1) a b ∧ 0 ≤ a ∧ a ≤ b ∧ b ≤ limits.maxArrayLength

section Leaves

variable {c : Call} {left : Option Sampler} {σ : Sampler}

theorem intFunction_draws (hname : c.name = "int") (h : intFunction.build c left = .ok σ) :
    σ.Draws (Conforms c []) (Excuse c []) := by
  obtain ⟨range, hrange, rfl⟩ := exists_intSampler h
  refine Sampler.ofDraw_draws fun source => ?_
  obtain ⟨hlow, hhigh⟩ := range.draw_mem source
  exact .ok (.int _ _ _ hname (hasBounds_of_integerRange hrange) hlow hhigh)

theorem floatFunction_draws (hname : c.name = "float") (h : floatFunction.build c left = .ok σ) :
    σ.Draws (Conforms c []) (Excuse c []) := by
  simp only [floatFunction] at h
  cases hrange : floatRange c with
  | error e => simp [hrange] at h
  | ok bounds =>
    rw [hrange] at h
    rw [← Except.ok.inj h]
    refine Sampler.ofDraw_draws fun source => ?_
    unfold drawFloat
    split
    · exact .error (.inl ⟨rfl, hname⟩)
    · exact .ok (.float _ hname)

theorem drawWord_meets (words : Array String) (hne : words.isEmpty = false) (source : Source) :
    Meets (fun v => ∃ s ∈ words, v = .text s) (fun _ => False) (drawWord words source).1 := by
  have hsize : 0 < words.size := Array.size_pos_iff.mpr (by simpa using hne)
  have hindex := Random.drawIndex_lt hsize source
  simp only [drawWord, Array.getElem?_eq_getElem hindex]
  exact .ok ⟨_, Array.getElem_mem hindex, rfl⟩

theorem wordFunction_draws (hname : c.name = "word") (h : wordFunction.build c left = .ok σ) :
    σ.Draws (Conforms c []) (Excuse c []) := by
  obtain ⟨hne, rfl⟩ := wordSampler h
  refine Sampler.ofDraw_draws fun source => ?_
  refine (drawWord_meets dictionary hne source).mono ?_ (fun _ he => he.elim)
  rintro _ ⟨s, hs, rfl⟩
  exact .word s hname hs

end Leaves

/-- An array conforms on top of what the sampler on its left conforms to. -/
theorem arrayFunction_draws {limits : DrawLimits} {c : Call} {left : Option Sampler} {σ : Sampler}
    (h : (arrayFunction limits).build c left = .ok σ) :
    ∃ inner, left = some inner ∧ WithinLimits limits c ∧
      ∀ leaf arrays, inner.Draws (Conforms leaf arrays.reverse) (Excuse leaf arrays) →
        σ.Draws (Conforms leaf (arrays ++ [c]).reverse) (Excuse leaf (arrays ++ [c])) := by
  obtain ⟨inner, lengths, unique, rfl, hlengths, hunique, rfl⟩ := exists_arraySampler h
  obtain ⟨hbounds, hpos, hmax⟩ := lengthRange_eq_ok hlengths
  have hasks := uniqueOption_eq_ok hunique
  have hordered := Int64.le_iff_toInt_le.mp lengths.ordered
  refine ⟨inner, rfl, ⟨_, _, hbounds, hpos, hordered, hmax⟩, ?_⟩
  intro leaf arrays hinner
  rw [List.reverse_append]
  intro memory source
  refine (arraySampler_draws hinner hpos unique _ memory source).mono ?_ ?_
  · rintro _ ⟨items, rfl, hlow, hhigh, hitems, hdistinct⟩
    refine .array c _ items _ _ hbounds hlow hhigh ?_ hitems
    exact fun ha i j hi hj hne => (hdistinct (hasks.mpr ha)).equal_getElem hi hj hne
  · rintro halt ((⟨habort, hfloat⟩ | ⟨hexhausted, d, hd, ha⟩) | ⟨hu, hexhausted⟩)
    · exact .inl ⟨habort, hfloat⟩
    · exact .inr ⟨hexhausted, d, List.mem_append_left _ hd, ha⟩
    · exact .inr ⟨hexhausted, c, by simp, hasks.mp hu⟩

theorem find?_standard (limits : DrawLimits) (name : String) :
    (Vocabulary.standard limits).find? name =
      if name = "array" then some (arrayFunction limits)
      else if name = "word" then some wordFunction
      else if name = "float" then some floatFunction
      else if name = "int" then some intFunction
      else none := by
  have hfunctions : (Vocabulary.standard limits).functions =
      [arrayFunction limits, wordFunction, floatFunction, intFunction] := by
    simp [Vocabulary.standard, Vocabulary.register, Vocabulary.empty, arrayFunction, wordFunction,
      floatFunction, intFunction]
  unfold Vocabulary.find?
  rw [hfunctions]
  split_ifs with harray hword hfloat hint
  · subst harray; rfl
  · subst hword; rfl
  · subst hfloat; rfl
  · subst hint; rfl
  · rw [List.find?_eq_none]
    intro f hf
    simp only [List.mem_cons, List.not_mem_nil, or_false] at hf
    rcases hf with rfl | rfl | rfl | rfl
    · simpa [arrayFunction] using Ne.symm harray
    · simpa [wordFunction] using Ne.symm hword
    · simpa [floatFunction] using Ne.symm hfloat
    · simpa [intFunction] using Ne.symm hint

/-- A sampler conforms to some calls: to the last leaf call and the array calls behind it. -/
def Conforming (limits : DrawLimits) (calls : List Call) (σ : Sampler) : Prop :=
  ∃ before leaf arrays, calls = before ++ leaf :: arrays ∧ leaf.name ∈ leafNames ∧
    (∀ c ∈ arrays, c.name = "array" ∧ WithinLimits limits c) ∧
    σ.Draws (Conforms leaf arrays.reverse) (Excuse leaf arrays)

theorem build_standard {limits : DrawLimits} {left : Option Sampler} {c : Call} {σ : Sampler}
    (h : (Vocabulary.standard limits).build left c = .ok σ) :
    (c.name = "array" ∧ (arrayFunction limits).build c left = .ok σ) ∨
      (c.name = "word" ∧ wordFunction.build c left = .ok σ) ∨
      (c.name = "float" ∧ floatFunction.build c left = .ok σ) ∨
      (c.name = "int" ∧ intFunction.build c left = .ok σ) := by
  have hbuild (f : Function) (hf : (Vocabulary.standard limits).find? c.name = some f) :
      f.build c left = .ok σ := by
    simp only [Vocabulary.build, hf] at h
    cases hb : f.build c left with
    | error e => simp [hb] at h
    | ok σ' => simpa [hb] using h
  have hfind := find?_standard limits c.name
  split_ifs at hfind with harray hword hfloat hint
  · exact .inl ⟨harray, hbuild _ hfind⟩
  · exact .inr (.inl ⟨hword, hbuild _ hfind⟩)
  · exact .inr (.inr (.inl ⟨hfloat, hbuild _ hfind⟩))
  · exact .inr (.inr (.inr ⟨hint, hbuild _ hfind⟩))
  · simp [Vocabulary.build, hfind] at h

/-- The last call of an accepted chain is accepted. -/
theorem exists_build_of_buildAll {v : Vocabulary} {before : List Call} {c : Call}
    {left : Option Sampler} {σ : Sampler} (h : v.buildAll left (before ++ [c]) = .ok (some σ)) :
    ∃ left', v.build left' c = .ok σ := by
  induction before generalizing left with
  | nil =>
    refine ⟨left, ?_⟩
    simp only [List.nil_append, Vocabulary.buildAll] at h
    split at h
    · cases h
    · next σ' hbuild => rw [hbuild, Option.some.inj (Except.ok.inj h)]
  | cons d before ih =>
    simp only [List.cons_append, Vocabulary.buildAll] at h
    split at h
    · cases h
    · exact ih h

theorem exists_build_of_evaluate {v : Vocabulary} {before : List Call} {c : Call} {σ : Sampler}
    (h : v.evaluate (before ++ [c]) = .ok σ) : ∃ left, v.build left c = .ok σ := by
  unfold Vocabulary.evaluate at h
  split at h
  · cases h
  · cases h
  · next hall =>
    rw [Except.ok.inj h] at hall
    exact exists_build_of_buildAll hall

theorem conforming_build {limits : DrawLimits} {before : List Call} {left : Option Sampler}
    {c : Call} {σ : Sampler} (hleft : ∀ inner, left = some inner → Conforming limits before inner)
    (h : (Vocabulary.standard limits).build left c = .ok σ) :
    Conforming limits (before ++ [c]) σ := by
  have leaf (hname : c.name ∈ leafNames) (hdraws : σ.Draws (Conforms c []) (Excuse c [])) :
      Conforming limits (before ++ [c]) σ :=
    ⟨before, c, [], rfl, hname, by simp, hdraws⟩
  rcases build_standard h with ⟨harray, hb⟩ | ⟨hword, hb⟩ | ⟨hfloat, hb⟩ | ⟨hint, hb⟩
  · obtain ⟨inner, hinner, hlimits, hdraws⟩ := arrayFunction_draws hb
    obtain ⟨before', l, arrays, rfl, hname, harrays, hd⟩ := hleft inner hinner
    refine ⟨before', l, arrays ++ [c], by simp, hname, ?_, hdraws l arrays hd⟩
    intro d hd
    rcases List.mem_append.mp hd with hd | hd
    · exact harrays d hd
    · rw [List.mem_singleton.mp hd]
      exact ⟨harray, hlimits⟩
  · exact leaf (by simp [leafNames, hword]) (wordFunction_draws hword hb)
  · exact leaf (by simp [leafNames, hfloat]) (floatFunction_draws hfloat hb)
  · exact leaf (by simp [leafNames, hint]) (intFunction_draws hint hb)

theorem conforming_buildAll {limits : DrawLimits} {before calls : List Call}
    {left : Option Sampler} {σ : Sampler}
    (hleft : ∀ inner, left = some inner → Conforming limits before inner)
    (h : (Vocabulary.standard limits).buildAll left calls = .ok (some σ)) :
    Conforming limits (before ++ calls) σ := by
  induction calls generalizing before left with
  | nil =>
    rw [List.append_nil]
    exact hleft σ (Except.ok.inj h)
  | cons c calls ih =>
    simp only [Vocabulary.buildAll] at h
    cases hbuild : (Vocabulary.standard limits).build left c with
    | error fault => simp [hbuild] at h
    | ok inner =>
      simp only [hbuild] at h
      have hinner := conforming_build hleft hbuild
      have hrest := ih (fun _ heq => Option.some.inj heq ▸ hinner) h
      rwa [List.append_assoc] at hrest

theorem conforming_evaluate {limits : DrawLimits} {calls : List Call} {σ : Sampler}
    (h : (Vocabulary.standard limits).evaluate calls = .ok σ) : Conforming limits calls σ := by
  unfold Vocabulary.evaluate at h
  split at h
  · cases h
  · cases h
  · next hall =>
    rw [Except.ok.inj h] at hall
    have hnone : ∀ inner, none = some inner → Conforming limits [] inner := fun _ h => nomatch h
    exact conforming_buildAll hnone hall

/-- What holds of every draw of a sampler holds of all results of a generator. -/
theorem forall_mem_results {Good : Value → Prop} {Excused : Halt → Prop} {g : Generator}
    (h : g.sampler.Draws Good Excused) (count : Nat) :
    ∀ result ∈ g.results count, Meets Good Excused result :=
  Generator.forall_mem_results_of_step (I := fun _ => True)
    (fun memory _ source => ⟨h memory source, trivial⟩) trivial g.source count

/-- Every result of a sampler without a memory is what it draws from some source. -/
theorem exists_source_of_mem_results {draw : Source → Except Halt Value × Source}
    {source : Source} {count : Nat} {result : Except Halt Value}
    (h : result ∈ (Generator.mk (.ofDraw draw) () source).results count) :
    ∃ source', result = (draw source').1 := by
  have hdraws : (Sampler.ofDraw draw).Draws (fun v => ∃ s, (draw s).1 = .ok v)
      fun halt => ∃ s, (draw s).1 = .error halt := by
    refine Sampler.ofDraw_draws fun s => ?_
    rcases hs : (draw s).1 with halt | v
    · exact .error ⟨s, hs⟩
    · exact .ok ⟨s, hs⟩
  have hmeets := forall_mem_results (g := ⟨.ofDraw draw, (), source⟩) hdraws count result h
  cases hmeets with
  | ok hv =>
    obtain ⟨s, hs⟩ := hv
    exact ⟨s, hs.symm⟩
  | error he =>
    obtain ⟨s, hs⟩ := he
    exact ⟨s, hs.symm⟩

/-- Two integers that differ, in an array of up to one such pair. -/
def pairs : List Call :=
  [⟨"word", []⟩, ⟨"int", [.range (-1) 3]⟩,
    ⟨"array", [.range 2 2, .option "unique" (.flag false), .option "unique" (.flag true)]⟩,
    ⟨"array", [.range 0 1]⟩]

end Assay.Draw
