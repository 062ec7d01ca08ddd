import Assay.Runner.Registry
import Mathlib.Data.List.Induction

/-!
A registry is the history of its registrations: under each key stands the runner that was
registered last, and the languages are the keys in strictly increasing order.
-/

namespace Assay.Runner.Registry

variable {g : Registry} {r : Runner}

/-- Entries of other keys do not matter for a look-up. -/
theorem lookup_filter_ne {key other : String} (hne : key ≠ other)
    (entries : List (String × Runner)) :
    (entries.filter fun e => e.1 != other).lookup key = entries.lookup key := by
  induction entries with
  | nil => rfl
  | cons e entries ih =>
    obtain ⟨k, r⟩ := e
    by_cases hk : k = other
    · have hkey : (key == k) = false := by
        rw [hk]
        exact beq_eq_false_iff_ne.mpr hne
      have hdrop : (k != other) = false := by simp [hk]
      rw [List.filter_cons, hdrop, List.lookup_cons, hkey]
      exact ih
    · have hkeep : (k != other) = true := by simpa using hk
      rw [List.filter_cons, hkeep, if_pos rfl, List.lookup_cons, List.lookup_cons, ih]

theorem lookup_register (g : Registry) (r : Runner) (key : String) :
    (g.register r).entries.lookup key = if r.key = key then some r else g.entries.lookup key := by
  by_cases hkey : r.key = key
  · simp [register, hkey]
  · have hne : key ≠ r.key := Ne.symm hkey
    have hbeq : (key == r.key) = false := beq_eq_false_iff_ne.mpr hne
    rw [if_neg hkey, register, List.lookup_cons, hbeq]
    exact lookup_filter_ne hne g.entries

/-- The registry after some registrations. -/
def ofRunners (timeLimit : Duration) (runners : List Runner) : Registry :=
  runners.foldl register (empty timeLimit)

theorem ofRunners_append (timeLimit : Duration) (runners : List Runner) (r : Runner) :
    ofRunners timeLimit (runners ++ [r]) = (ofRunners timeLimit runners).register r := by
  simp [ofRunners]

/-- A look-up goes through the registrations from the last one back. -/
theorem lookup_ofRunners (timeLimit : Duration) (runners : List Runner) (key : String) :
    (ofRunners timeLimit runners).entries.lookup key =
      runners.reverse.find? fun r => r.key == key := by
  induction runners using List.reverseRecOn with
  | nil => rfl
  | append_singleton runners r ih =>
    rw [ofRunners_append, lookup_register, ih, List.reverse_append, List.reverse_singleton,
      List.singleton_append, List.find?_cons]
    by_cases hkey : r.key = key
    · simp [hkey]
    · rw [if_neg hkey, beq_eq_false_iff_ne.mpr hkey]

/-- The runner that was registered last under a key. -/
def Latest (runners : List Runner) (key : String) (r : Runner) : Prop :=
  r.key = key ∧ ∃ before after, runners = before ++ r :: after ∧ ∀ r' ∈ after, r'.key ≠ key

theorem lookup_ofRunners_eq_some {timeLimit : Duration} {runners : List Runner} {key : String} :
    (ofRunners timeLimit runners).entries.lookup key = some r ↔ Latest runners key r := by
  rw [lookup_ofRunners, List.find?_eq_some_iff_append]
  constructor
  · rintro ⟨hkey, after, before, hsplit, hafter⟩
    refine ⟨eq_of_beq hkey, before.reverse, after.reverse, ?_, ?_⟩
    · rw [← List.reverse_reverse runners, hsplit]
      simp
    · intro r' hr'
      simpa using hafter r' (List.mem_reverse.mp hr')
  · rintro ⟨hkey, before, after, rfl, hafter⟩
    refine ⟨by simpa using hkey, after.reverse, before.reverse, by simp, ?_⟩
    intro r' hr'
    simpa using hafter r' (List.mem_reverse.mp hr')

theorem lookup_ofRunners_eq_none {timeLimit : Duration} {runners : List Runner} {key : String} :
    (ofRunners timeLimit runners).entries.lookup key = none ↔ ∀ r ∈ runners, r.key ≠ key := by
  simp [lookup_ofRunners]

theorem exists_latest_iff {runners : List Runner} {key : String} :
    (∃ r, Latest runners key r) ↔ ∃ r ∈ runners, r.key = key := by
  constructor
  · rintro ⟨r, hkey, before, after, rfl, -⟩
    exact ⟨r, by simp, hkey⟩
  · rintro ⟨r, hr, hkey⟩
    cases hlookup : (ofRunners ⟨0⟩ runners).entries.lookup key with
    | none => exact absurd hkey (lookup_ofRunners_eq_none.mp hlookup r hr)
    | some latest => exact ⟨latest, lookup_ofRunners_eq_some.mp hlookup⟩

/-- No two entries have the same key. -/
def Distinct (g : Registry) : Prop := (g.entries.map Prod.fst).Nodup

theorem distinct_empty (timeLimit : Duration) : (empty timeLimit).Distinct := List.nodup_nil

theorem Distinct.register (h : g.Distinct) (r : Runner) : (g.register r).Distinct := by
  unfold Distinct Registry.register
  rw [List.map_cons, List.nodup_cons]
  constructor
  · intro hmem
    obtain ⟨e, he, hkey⟩ := List.mem_map.mp hmem
    have hne := (List.mem_filter.mp he).2
    simp [hkey] at hne
  · exact List.Nodup.sublist (List.filter_sublist.map Prod.fst) h

theorem distinct_ofRunners (timeLimit : Duration) (runners : List Runner) :
    (ofRunners timeLimit runners).Distinct := by
  induction runners using List.reverseRecOn with
  | nil => exact distinct_empty timeLimit
  | append_singleton runners r ih =>
    rw [ofRunners_append]
    exact ih.register r

theorem perm_languages (g : Registry) : g.languages.Perm (g.entries.map Prod.fst) :=
  List.mergeSort_perm _ _

theorem mem_languages {key : String} : key ∈ g.languages ↔ ∃ r, g.entries.lookup key = some r := by
  rw [(perm_languages g).mem_iff, List.mem_map]
  constructor
  · rintro ⟨e, he, rfl⟩
    cases hlookup : g.entries.lookup e.1 with
    | none => simpa using List.lookup_eq_none_iff.mp hlookup e he
    | some r => exact ⟨r, rfl⟩
  · rintro ⟨r, hlookup⟩
    obtain ⟨before, after, hentries, -⟩ := List.lookup_eq_some_iff.mp hlookup
    exact ⟨(key, r), by simp [hentries], rfl⟩

theorem Distinct.pairwise_languages (h : g.Distinct) : g.languages.Pairwise (· < ·) := by
  have hsorted : g.languages.Pairwise fun a b => (!decide (b < a)) = true := by
    apply List.pairwise_mergeSort
    · intro a b c hab hbc
      simp only [Bool.not_eq_true', decide_eq_false_iff_not] at hab hbc ⊢
      exact String.le_trans hab hbc
    · intro a b
      simp only [Bool.or_eq_true, Bool.not_eq_true', decide_eq_false_iff_not]
      exact String.le_total a b
  have hne : g.languages.Pairwise (· ≠ ·) := (perm_languages g).nodup_iff.mpr h
  refine (hsorted.and hne).imp ?_
  rintro a b ⟨hle, hne⟩
  simp only [Bool.not_eq_true', decide_eq_false_iff_not] at hle
  have hnot : ¬ b ≤ a := fun hge => hne (String.le_antisymm hle hge)
  exact String.not_le.mp hnot

end Assay.Runner.Registry
