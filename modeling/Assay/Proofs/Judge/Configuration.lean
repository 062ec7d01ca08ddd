import Assay.Proofs.Judge.Resolution
import Assay.Runner.CommandRunner
import Mathlib.Data.List.Nodup

/-!
The registry of some settings, for every order in which their languages are visited. The keys that
it lists do not depend on the order. Which runner stands under a key does, exactly if two entries of
the settings have that key: each of them is found in some order.
-/

namespace Assay.Judge

open Runner (CommandRunner Host Registry Runner)
open Runner.Registry (Latest ofRunners)
open Settings (JudgeSettings LanguageSettings Visit)

/-- The runner of one entry of the settings. -/
def configured (host : Host) (judge : JudgeSettings) (e : String × LanguageSettings) : Runner :=
  (CommandRunner.mk e.1 e.2 judge).toRunner host

variable {host : Host} {settings : Settings} {visit : settings.Visit} {l : Language} {r : Runner}

theorem ofSettings_eq (host : Host) (settings : Settings) (visit : settings.Visit) :
    Registry.ofSettings host settings visit =
      ofRunners settings.judge.timeLimit (visit.order.map (configured host settings.judge)) := by
  unfold Registry.ofSettings ofRunners
  rw [List.foldl_map]
  rfl

/-- A registry lists the same keys whatever the order of the registrations is. -/
theorem languages_of_perm (timeLimit : Duration) {runners runners' : List Runner}
    (h : runners.Perm runners') :
    (ofRunners timeLimit runners).languages = (ofRunners timeLimit runners').languages := by
  have hsorted := (Registry.distinct_ofRunners timeLimit runners).pairwise_languages
  have hsorted' := (Registry.distinct_ofRunners timeLimit runners').pairwise_languages
  have hsame (key : String) : key ∈ (ofRunners timeLimit runners).languages ↔
      key ∈ (ofRunners timeLimit runners').languages := by
    simp only [mem_languages_ofRunners, h.mem_iff]
  have hperm : (ofRunners timeLimit runners).languages.Perm
      (ofRunners timeLimit runners').languages :=
    (List.perm_ext_iff_of_nodup (hsorted.imp fun hlt => String.ne_of_lt hlt)
      (hsorted'.imp fun hlt => String.ne_of_lt hlt)).mpr hsame
  refine hperm.eq_of_pairwise ?_ hsorted hsorted'
  exact fun a b _ _ hab hba => absurd hab (String.lt_asymm hba)

theorem resolve_ext {g g' : Registry} (h : ∀ r, resolve g l = .ok r ↔ resolve g' l = .ok r) :
    resolve g l = resolve g' l := by
  cases hg : resolve g l with
  | ok r => exact ((h r).mp hg).symm
  | error error =>
    cases hg' : resolve g' l with
    | ok r =>
      rw [(h r).mpr hg'] at hg
      cases hg
    | error error' => rw [(resolve_eq_error.mp hg).1, (resolve_eq_error.mp hg').1]

theorem exists_entry_of_resolve (h : resolve (Registry.ofSettings host settings visit) l = .ok r) :
    ∃ e ∈ settings.languages, languageKey e.1 = l.key ∧ configured host settings.judge e = r := by
  rw [ofSettings_eq, resolve_ofRunners_eq_ok] at h
  obtain ⟨hkey, before, after, hsplit, -⟩ := h
  have hmem : r ∈ visit.order.map (configured host settings.judge) := by simp [hsplit]
  obtain ⟨e, he, rfl⟩ := List.mem_map.mp hmem
  exact ⟨e, visit.perm.mem_iff.mp he, hkey, rfl⟩

/-- Every entry is the one that is found when it is visited last. -/
theorem exists_visit_of_mem (host : Host) {e : String × LanguageSettings}
    (he : e ∈ settings.languages) (hkey : languageKey e.1 = l.key) : ∃ visit : settings.Visit,
      resolve (Registry.ofSettings host settings visit) l =
        .ok (configured host settings.judge e) := by
  obtain ⟨before, after, hsplit⟩ := List.append_of_mem he
  have hperm : (before ++ after ++ [e]).Perm settings.languages := by
    rw [hsplit, List.append_assoc]
    exact (List.perm_append_singleton e after).append_left before
  refine ⟨⟨before ++ after ++ [e], hperm⟩, ?_⟩
  rw [ofSettings_eq, List.map_append, resolve_ofRunners_eq_ok]
  exact ⟨hkey, _, [], rfl, by simp⟩

/-- If only one entry has the key of a language, it is found in every order. -/
theorem resolve_of_unique {e : String × LanguageSettings} (he : e ∈ settings.languages)
    (hkey : languageKey e.1 = l.key)
    (hunique : ∀ e' ∈ settings.languages, languageKey e'.1 = l.key → e' = e) :
    resolve (Registry.ofSettings host settings visit) l =
      .ok (configured host settings.judge e) := by
  have hsome : ∃ r ∈ visit.order.map (configured host settings.judge), r.key = l.key :=
    ⟨_, List.mem_map_of_mem (visit.perm.mem_iff.mpr he), hkey⟩
  obtain ⟨r, hlatest⟩ := Registry.exists_latest_iff.mpr hsome
  have hr : resolve (Registry.ofSettings host settings visit) l = .ok r := by
    rw [ofSettings_eq]
    exact resolve_ofRunners_eq_ok.mpr hlatest
  obtain ⟨e', he', hkey', rfl⟩ := exists_entry_of_resolve hr
  rw [hr, hunique e' he' hkey']

/-- The order in which the languages of the settings are visited never changes which languages are
listed. Over all orders a language leads to the runners of exactly those entries that have its key,
so it leads to the same one in every order exactly if no two entries have that key. -/
theorem order_irrelevant_iff (host : Host) (settings : Settings)
    (hnames : (settings.languages.map Prod.fst).Nodup) :
    (∀ visit visit' : settings.Visit, (Registry.ofSettings host settings visit).languages =
      (Registry.ofSettings host settings visit').languages) ∧
    (∀ l r, (∃ visit, resolve (Registry.ofSettings host settings visit) l = .ok r) ↔
      ∃ e ∈ settings.languages, languageKey e.1 = l.key ∧
        (CommandRunner.mk e.1 e.2 settings.judge).toRunner host = r) ∧
    ∀ l, (∀ visit visit', resolve (Registry.ofSettings host settings visit) l =
        resolve (Registry.ofSettings host settings visit') l) ↔
      ∀ e ∈ settings.languages, ∀ e' ∈ settings.languages,
        languageKey e.1 = l.key → languageKey e'.1 = l.key → e = e' := by
  refine ⟨?_, ?_, ?_⟩
  · intro visit visit'
    rw [ofSettings_eq, ofSettings_eq]
    exact languages_of_perm _ ((visit.perm.trans visit'.perm.symm).map _)
  · intro l r
    constructor
    · rintro ⟨visit, hr⟩
      exact exists_entry_of_resolve hr
    · rintro ⟨e, he, hkey, rfl⟩
      exact exists_visit_of_mem host he hkey
  · intro l
    constructor
    · intro hsame e he e' he' hkey hkey'
      -- each entry is found in an order that ends with it; a runner has the name of its entry
      obtain ⟨visit, hr⟩ := exists_visit_of_mem host he hkey
      obtain ⟨visit', hr'⟩ := exists_visit_of_mem host he' hkey'
      rw [hsame visit visit', hr'] at hr
      have hname : e'.1 = e.1 := congrArg Runner.name (Except.ok.inj hr)
      exact List.inj_on_of_nodup_map hnames he he' hname.symm
    · intro hunique visit visit'
      refine resolve_ext fun r => ?_
      constructor
      · intro hr
        obtain ⟨e, he, hkey, rfl⟩ := exists_entry_of_resolve hr
        exact resolve_of_unique he hkey fun e' he' hkey' => hunique e' he' e he hkey' hkey
      · intro hr
        obtain ⟨e, he, hkey, rfl⟩ := exists_entry_of_resolve hr
        exact resolve_of_unique he hkey fun e' he' hkey' => hunique e' he' e he hkey' hkey

/-- A host on which no program ever ends. -/
def idleHost : Host := ⟨.empty, [], "run", fun _ _ _ => .ok none⟩

/-- One language under two spellings of its name, and another one. -/
def spellings : Settings where
  languages := [("Shell", .interpreted "1" ["sh", "main.sh"] "main.sh"),
    ("shell", .interpreted "2" ["dash", "main.sh"] "main.sh"),
    (" c", .interpreted "c11" ["tcc", "-run", "main.c"] "main.c")]
  judge := .standard
  draw := .standard

/-- The language with one spelling leads to the same runner in every order, the other one does
not. -/
theorem order_irrelevant_iff_spellings :
    (spellings.languages.map Prod.fst).Nodup ∧
    (∀ visit visit', resolve (Registry.ofSettings idleHost spellings visit) ⟨"C", ""⟩ =
      resolve (Registry.ofSettings idleHost spellings visit') ⟨"C", ""⟩) ∧
    ¬∀ visit visit', resolve (Registry.ofSettings idleHost spellings visit) ⟨"shell", ""⟩ =
      resolve (Registry.ofSettings idleHost spellings visit') ⟨"shell", ""⟩ := by
  have hnames : (spellings.languages.map Prod.fst).Nodup := by decide
  obtain ⟨-, -, hsame⟩ := order_irrelevant_iff idleHost spellings hnames
  refine ⟨hnames, (hsame _).mpr (by decide +kernel), fun h => ?_⟩
  have hunique := (hsame _).mp h
  exact absurd hunique (by decide +kernel)

/-- Visiting the same entries in the reverse order leads to another runner, of another version. -/
theorem order_matters : ∃ visit visit' : spellings.Visit,
    (spellings.languages.map Prod.fst).Nodup ∧
    (resolve (Registry.ofSettings idleHost spellings visit) ⟨"shell", ""⟩).map
      (fun r => (r.name, r.version)) = .ok ("shell", "2") ∧
    (resolve (Registry.ofSettings idleHost spellings visit') ⟨"shell", ""⟩).map
      (fun r => (r.name, r.version)) = .ok ("Shell", "1") := by
  refine ⟨.listed spellings, ⟨spellings.languages.reverse, List.reverse_perm _⟩, by decide, ?_, ?_⟩
  · decide +kernel
  · decide +kernel

end Assay.Judge
