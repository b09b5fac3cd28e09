import Espresso.Service.Report

/-!
# Repeated keys

All values of a key in their order, of which a look-up gives the first. Leaving out the entries
whose key stood before keeps that value and no other, so nothing that is only looked up can tell.
-/

namespace Espresso

namespace Entry

variable {K : Type} [Vocabulary K] [DecidableEq K]

def values (key : K) (entries : List (Entry K)) : List (Vocabulary.kind key).Value :=
  entries.filterMap (value? key)

theorem head?_values (key : K) (entries : List (Entry K)) :
    (values key entries).head? = first? key entries :=
  List.head?_filterMap

theorem any_value?_iff {key : K} {value : (Vocabulary.kind key).Value} {entries : List (Entry K)} :
    (entries.any fun entry => entry.value? key == some value) = true ↔
      value ∈ values key entries := by
  simp [values]

/-- The entries without the known ones whose key is `seen`, or stands before them. -/
def dropRepeats : List K → List (Entry K) → List (Entry K)
  | _, [] => []
  | seen, known key value :: entries =>
    if key ∈ seen then dropRepeats seen entries
    else known key value :: dropRepeats (key :: seen) entries
  | seen, unknown key value :: entries => unknown key value :: dropRepeats seen entries

theorem values_cons_known (key : K) (value : (Vocabulary.kind key).Value)
    (entries : List (Entry K)) :
    values key (known key value :: entries) = value :: values key entries := by
  unfold values
  rw [List.filterMap_cons_some (value?_known_self key value)]

theorem values_cons_known_of_ne {key other : K} (h : other ≠ key)
    (value : (Vocabulary.kind other).Value) (entries : List (Entry K)) :
    values key (known other value :: entries) = values key entries := by
  unfold values
  rw [List.filterMap_cons_none (value?_known_of_ne h value)]

theorem values_cons_unknown (key : K) (name value : String) (entries : List (Entry K)) :
    values key (unknown name value :: entries) = values key entries :=
  rfl

/-- The induction is on the entries, for whatever keys were seen before them. -/
theorem values_dropRepeats (key : K) (seen : List K) (entries : List (Entry K)) :
    values key (dropRepeats seen entries) =
      if key ∈ seen then [] else (values key entries).take 1 := by
  induction entries generalizing seen with
  | nil => simp [dropRepeats, values]
  | cons entry entries ih =>
    cases entry with
    | unknown name value =>
      rw [dropRepeats, values_cons_unknown, values_cons_unknown]
      exact ih seen
    | known found value =>
      rw [dropRepeats]
      by_cases hkey : found = key
      · subst hkey
        by_cases hseen : found ∈ seen
        · rw [if_pos hseen, ih, if_pos hseen, if_pos hseen]
        · rw [if_neg hseen, if_neg hseen, values_cons_known, values_cons_known, ih,
            if_pos List.mem_cons_self]
          simp
      · have hvalues := values_cons_known_of_ne hkey value
        by_cases hseen : found ∈ seen
        · rw [if_pos hseen, hvalues]
          exact ih seen
        · rw [if_neg hseen, hvalues, hvalues, ih]
          simp only [List.mem_cons, Ne.symm hkey, false_or]

theorem first?_dropRepeats (key : K) (entries : List (Entry K)) :
    first? key (dropRepeats [] entries) = first? key entries := by
  rw [← head?_values, ← head?_values, values_dropRepeats, if_neg List.not_mem_nil]
  cases values key entries <;> rfl

/-- The induction is on the entries, for whatever keys were seen before them. -/
theorem dropRepeats_sublist (seen : List K) (entries : List (Entry K)) :
    (dropRepeats seen entries).Sublist entries := by
  induction entries generalizing seen with
  | nil => exact .slnil
  | cons entry entries ih =>
    cases entry with
    | unknown name value => exact (ih seen).cons_cons _
    | known key value =>
      rw [dropRepeats]
      split
      · exact (ih seen).cons _
      · exact (ih _).cons_cons _

end Entry

namespace Step

def values (step : Step) (key : StepKey) : List (Vocabulary.kind key).Value :=
  Entry.values key step.properties

theorem head?_values (step : Step) (key : StepKey) :
    (step.values key).head? = step.first? key :=
  Entry.head?_values key step.properties

/-- A key that does not repeat has the value that is looked up, or none. -/
theorem values_eq_toList {step : Step} {key : StepKey} (h : (step.values key).length ≤ 1) :
    step.values key = (step.first? key).toList := by
  rw [← head?_values]
  cases hvalues : step.values key with
  | nil => rfl
  | cons value values =>
    rw [hvalues, List.length_cons] at h
    have hnil : values = [] := List.eq_nil_of_length_eq_zero (by omega)
    rw [hnil]
    rfl

def dropRepeats (step : Step) : Step :=
  ⟨Entry.dropRepeats [] step.properties⟩

variable (step : Step)

@[simp]
theorem values_dropRepeats (key : StepKey) :
    step.dropRepeats.values key = (step.values key).take 1 :=
  Entry.values_dropRepeats key [] step.properties

@[simp]
theorem first?_dropRepeats (key : StepKey) : step.dropRepeats.first? key = step.first? key :=
  Entry.first?_dropRepeats key step.properties

@[simp]
theorem require_dropRepeats (key : StepKey) : step.dropRepeats.require key = step.require key := by
  simp [require, place, shownName?, name?]

@[simp]
theorem seconds_dropRepeats : step.dropRepeats.seconds = step.seconds :=
  step.require_dropRepeats .seconds

@[simp]
theorem transition_dropRepeats : step.dropRepeats.transition = step.transition :=
  step.require_dropRepeats .transition

@[simp]
theorem pump_dropRepeats : step.dropRepeats.pump = step.pump :=
  step.require_dropRepeats .pump

@[simp]
theorem target?_dropRepeats (pump : Pump) : step.dropRepeats.target? pump = step.target? pump := by
  cases pump
  · exact step.first?_dropRepeats .flow
  · exact step.first?_dropRepeats .pressure

@[simp]
theorem threshold?_dropRepeats (exit : Exit) :
    step.dropRepeats.threshold? exit = step.threshold? exit := by
  cases exit
  · exact step.first?_dropRepeats .exitPressureUnder
  · exact step.first?_dropRepeats .exitPressureOver
  · exact step.first?_dropRepeats .exitFlowUnder
  · exact step.first?_dropRepeats .exitFlowOver

@[simp]
theorem exits_dropRepeats : step.dropRepeats.exits = step.exits := by
  unfold exits
  rw [first?_dropRepeats]

@[simp]
theorem exitType?_dropRepeats : step.dropRepeats.exitType? = step.exitType? :=
  step.first?_dropRepeats .exitType

@[simp]
theorem exitFlow?_dropRepeats : step.dropRepeats.exitFlow? = step.exitFlow? := by
  simp [exitFlow?]

end Step

theorem StepSummary.ofStep_dropRepeats (index : Nat) (step : Step) :
    ofStep index step.dropRepeats = ofStep index step := by
  have hname : step.dropRepeats.name? = step.name? := step.first?_dropRepeats .name
  have htemperature : (step.dropRepeats.first? .temperature : Option Float) =
    step.first? .temperature := step.first?_dropRepeats .temperature
  unfold ofStep
  simp [hname, htemperature]

/-- What a tool says about steps is looked up in them. -/
theorem StepSummary.ofSteps_dropRepeats (steps : List Step) :
    ofSteps (steps.map Step.dropRepeats) = ofSteps steps := by
  have hcounted : Text.counted (steps.map Step.dropRepeats) =
      (Text.counted steps).map (Prod.map id Step.dropRepeats) := by
    simp [Text.counted, List.zipIdx_map]
  unfold ofSteps
  rw [hcounted, List.mapM_map]
  congr 1
  funext indexed
  exact ofStep_dropRepeats indexed.1 indexed.2

end Espresso
