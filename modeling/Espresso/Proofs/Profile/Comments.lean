import Espresso.Profile.Warning
import Espresso.Proofs.Profile.Acceptance
import Espresso.Proofs.Step.Repeats

/-!
# Comments

What a document without comments promises about its steps: no key has two values, and the channel
that the pump drives has a target.
-/

namespace Espresso

namespace Entry

variable {K : Type} [Vocabulary K] [DecidableEq K]

theorem length_values (key : K) (entries : List (Entry K)) :
    (values key entries).length = (entries.filterMap key?).count key := by
  induction entries with
  | nil => rfl
  | cons entry entries ih =>
    cases entry with
    | unknown name value =>
      rw [values_cons_unknown]
      exact ih
    | known found value =>
      have hkeys : (known found value :: entries).filterMap key? =
          found :: entries.filterMap key? := rfl
      rw [hkeys]
      by_cases hkey : found = key
      · subst hkey
        rw [values_cons_known, List.length_cons, List.count_cons_self, ih]
      · rw [values_cons_known_of_ne hkey, List.count_cons_of_ne hkey]
        exact ih

end Entry

namespace Step

/-- No key has two values, and the pump has a target. -/
structure Tidy (step : Step) : Prop where
  length_values_le : ∀ key, (step.values key).length ≤ 1
  targeted : ∀ pump, step.pump = .ok pump → ∃ target, step.target? pump = some target

theorem length_values_le_of_repeatWarnings {step : Step} (h : step.repeatWarnings = [])
    (key : StepKey) : (step.values key).length ≤ 1 := by
  unfold values
  rw [Entry.length_values]
  by_cases hmem : key ∈ step.knownKeys
  · have hnone := List.filterMap_eq_nil_iff.mp h key (List.mem_eraseDups.mpr hmem)
    dsimp only at hnone
    split at hnone
    · cases hnone
    · next hcount => exact Nat.not_lt.mp hcount
  · have hzero : step.knownKeys.count key = 0 := List.count_eq_zero.mpr hmem
    exact Nat.le_trans (Nat.le_of_eq hzero) (Nat.zero_le 1)

theorem exists_target_of_targetWarnings {step : Step} (h : step.targetWarnings = []) {pump : Pump}
    (hpump : step.pump = .ok pump) : ∃ target, step.target? pump = some target := by
  have hfirst : step.first? .pump = some pump := require_eq_ok_iff.mp hpump
  unfold targetWarnings at h
  rw [hfirst] at h
  dsimp only at h
  cases htarget : step.target? pump with
  | some target => exact ⟨target, rfl⟩
  | none =>
    rw [htarget] at h
    cases h

theorem tidy_of_warnings_eq_nil {step : Step} (h : step.warnings = []) : step.Tidy := by
  unfold warnings at h
  simp only [List.append_eq_nil_iff] at h
  obtain ⟨⟨⟨_, hrepeats⟩, htargets⟩, _⟩ := h
  exact ⟨length_values_le_of_repeatWarnings hrepeats,
    fun _ => exists_target_of_targetWarnings htargets⟩

end Step

namespace Checker

/-- The warnings about the steps are among those about the document. -/
theorem tidy_of_comments_eq_nil {checker : Checker} {text shot : String} {profile : Profile}
    {steps : List Step} (h : checker.comments text = []) (hparse : Profile.parse text = .ok profile)
    (hshot : profile.advancedShot? = some shot) (hread : Step.readAll shot = .ok steps) :
    ∀ step ∈ steps, step.Tidy := by
  intro step hstep
  obtain ⟨label, hlabelled⟩ := exists_label_of_mem hstep
  have hwarnings : checker.warnings text = [] := by
    unfold comments at h
    exact List.map_eq_nil_iff.mp h
  unfold warnings at hwarnings
  rw [hparse] at hwarnings
  have hshotWarnings : shotWarnings profile = [] := (List.append_eq_nil_iff.mp hwarnings).2
  unfold shotWarnings at hshotWarnings
  rw [hshot] at hshotWarnings
  dsimp only at hshotWarnings
  rw [hread] at hshotWarnings
  have hsteps := (List.append_eq_nil_iff.mp hshotWarnings).2
  exact Step.tidy_of_warnings_eq_nil
    (List.map_eq_nil_iff.mp (List.flatMap_eq_nil_iff.mp hsteps _ hlabelled))

end Checker

end Espresso
