import Assay.Judge.Report
import Assay.Proofs.Runner.Registry
import Assay.Proofs.Text.Lowercase

/-!
Which runner a language resolves to, after any registrations.
-/

namespace Assay

open Text (Blanks lowercase trimString)

/-- A key is its own key, also with blanks around it. Both halves of the normalisation are needed:
lowering may not bring blanks to the ends of a key, and may not change a key that is lowered. -/
theorem languageKey_between (before after : Blanks) (name : String) :
    languageKey (String.ofList (before ++ (languageKey name).toList ++ after)) =
      languageKey name := by
  have hkey : (languageKey name).toList = Text.lowerFrom [] (Text.trim name.toList) := by
    simp [languageKey, lowercase, trimString]
  have htrimmed : Text.Trimmed (languageKey name).toList := by
    rw [hkey]
    exact Text.trimmed_lowerFrom.2 (Text.trimmed_trim _)
  have htrim : Text.trim (before ++ (languageKey name).toList ++ after) =
      (languageKey name).toList := by
    rw [Text.trim_between, htrimmed.trim_eq]
  calc languageKey (String.ofList (before ++ (languageKey name).toList ++ after))
      = lowercase (languageKey name) := by
        rw [languageKey, trimString, String.toList_ofList, htrim, String.ofList_toList]
    _ = languageKey name := Text.lowercase_lowercase _

namespace Judge

open Runner (Registry Runner)
open Runner.Registry (Latest ofRunners)

variable {timeLimit : Duration} {runners : List Runner} {g : Registry} {l : Language} {r : Runner}

theorem resolve_eq_ok : resolve g l = .ok r ↔ g.entries.lookup l.key = some r := by
  unfold resolve Registry.find?
  cases g.entries.lookup l.key with
  | none => simp
  | some found => simp

theorem resolve_eq_error {error : Error} :
    resolve g l = .error error ↔ error = .unsupported l ∧ g.entries.lookup l.key = none := by
  unfold resolve Registry.find?
  cases g.entries.lookup l.key with
  | none => simp [eq_comm]
  | some found => simp

theorem resolve_ofRunners_eq_ok :
    resolve (ofRunners timeLimit runners) l = .ok r ↔ Latest runners l.key r := by
  rw [resolve_eq_ok, Registry.lookup_ofRunners_eq_some]

theorem mem_languages_ofRunners {key : String} :
    key ∈ (ofRunners timeLimit runners).languages ↔ ∃ r ∈ runners, r.key = key := by
  rw [Registry.mem_languages, ← Registry.exists_latest_iff]
  exact exists_congr fun r => Registry.lookup_ofRunners_eq_some

/-- A registry answers from the history of its registrations alone: the last runner whose name is
the same up to case and surrounding white space, and for want of one the error with the language
as it was given. The keys that are listed are names themselves, and lead to these runners. -/
theorem resolve_last_registered (timeLimit : Duration) (runners : List Runner) :
    (∀ l, (∃ r, resolve (ofRunners timeLimit runners) l = .ok r) ↔
      ∃ r ∈ runners, lowercase (trimString r.name) = lowercase (trimString l.name)) ∧
    (∀ l r, resolve (ofRunners timeLimit runners) l = .ok r ↔
      Latest runners (lowercase (trimString l.name)) r) ∧
    (∀ l error, resolve (ofRunners timeLimit runners) l = .error error ↔
      error = .unsupported l ∧
        ∀ r ∈ runners, lowercase (trimString r.name) ≠ lowercase (trimString l.name)) ∧
    (ofRunners timeLimit runners).languages.Pairwise (· < ·) ∧
    (∀ key, key ∈ (ofRunners timeLimit runners).languages ↔
      ∃ r ∈ runners, lowercase (trimString r.name) = key) ∧
    ∀ key ∈ (ofRunners timeLimit runners).languages, ∃ r, Latest runners key r ∧
      ∀ (before after : Blanks) (version : String),
        resolve (ofRunners timeLimit runners)
          ⟨String.ofList (before ++ key.toList ++ after), version⟩ = .ok r := by
  refine ⟨?_, fun l r => resolve_ofRunners_eq_ok, ?_,
    (Registry.distinct_ofRunners timeLimit runners).pairwise_languages,
    fun key => mem_languages_ofRunners, ?_⟩
  · intro l
    simp only [resolve_ofRunners_eq_ok]
    exact Registry.exists_latest_iff
  · intro l error
    rw [resolve_eq_error, Registry.lookup_ofRunners_eq_none]
    rfl
  · intro key hkey
    obtain ⟨named, hmem, rfl⟩ := mem_languages_ofRunners.1 hkey
    obtain ⟨r, hlatest⟩ := Registry.exists_latest_iff.2 ⟨named, hmem, rfl⟩
    refine ⟨r, hlatest, fun before after version => resolve_ofRunners_eq_ok.2 ?_⟩
    have hsame : Language.key ⟨String.ofList (before ++ named.key.toList ++ after), version⟩ =
        named.key := languageKey_between before after named.name
    rwa [hsame]

end Judge

end Assay
