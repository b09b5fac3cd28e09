import Espresso.Proofs.Result
import Espresso.Trace.Timeline

/-!
# Runs

A step can run when it says how long it takes, how it reaches its target and what the pump drives.
These essentials are read off the step alone; the run before it decides only what the step draws.
So a list of steps can be traced exactly when each of them has its essentials, and the first step
that lacks one is what the trace fails with.
-/

namespace Espresso

/-- What a step has to say before it can run. -/
structure Step.Essentials where
  duration : Float
  transition : Transition
  pump : Pump

namespace Step

/-- Of several missing essentials the first in the order duration, transition, pump is reported. -/
def essentials (step : Step) : Except Missing Essentials := do
  let duration ← step.seconds
  let transition ← step.transition
  let pump ← step.pump
  return { duration, transition, pump }

theorem require_eq_ok_iff {step : Step} {key : StepKey} {value : (Vocabulary.kind key).Value} :
    step.require key = .ok value ↔ step.first? key = some value := by
  unfold require
  cases step.first? key <;> simp

theorem essentials_eq_ok_iff {step : Step} {essentials : Essentials} :
    step.essentials = .ok essentials ↔
      step.seconds = .ok essentials.duration ∧ step.transition = .ok essentials.transition ∧
        step.pump = .ok essentials.pump := by
  unfold Step.essentials
  simp only [bind_eq_ok_iff]
  constructor
  · rintro ⟨_, hseconds, _, htransition, _, hpump, hessentials⟩
    cases hessentials
    exact ⟨hseconds, htransition, hpump⟩
  · rintro ⟨hseconds, htransition, hpump⟩
    exact ⟨_, hseconds, _, htransition, _, hpump, rfl⟩

/-- The essentials of a step, and what it goes by if it lacks one of them, are looked up under four
keys. -/
theorem essentials_congr {first second : Step}
    (h : ∀ key ∈ [StepKey.name, .seconds, .transition, .pump],
      first.first? key = second.first? key) : first.essentials = second.essentials := by
  have hname : first.name? = second.name? := h .name (by simp)
  have hrequire (key : StepKey) (hkey : first.first? key = second.first? key) :
      first.require key = second.require key := by
    unfold require place shownName?
    rw [hkey, hname]
  have hseconds : first.seconds = second.seconds := hrequire .seconds (h .seconds (by simp))
  have htransition : first.transition = second.transition :=
    hrequire .transition (h .transition (by simp))
  have hpump : first.pump = second.pump := hrequire .pump (h .pump (by simp))
  unfold essentials
  rw [hseconds, htransition, hpump]

end Step

namespace Timeline

namespace Run

def phase (run : Run) (essentials : Step.Essentials) : Phase where
  span := ⟨run.timeline.elapsed, run.timeline.elapsed + essentials.duration⟩
  transition := essentials.transition
  pump := essentials.pump
  previousPump := run.pump
  correction := run.exitFlow

/-- The run after a step whose essentials are known. -/
def pass (run : Run) (step : Step) (essentials : Step.Essentials) : Run where
  timeline :=
    { step.properties.foldl (apply (run.phase essentials)) run.timeline with
      elapsed := run.timeline.elapsed + essentials.duration }
  pump := some essentials.pump
  exitFlow := step.exitFlow?

theorem advance_eq (run : Run) (step : Step) :
    run.advance step = step.essentials.map (run.pass step) := by
  unfold advance Step.essentials
  cases step.seconds with
  | error missing => rfl
  | ok duration =>
    cases step.transition with
    | error missing => rfl
    | ok transition =>
      cases step.pump with
      | error missing => rfl
      | ok pump => rfl

theorem advance_eq_ok {run : Run} {step : Step} {essentials : Step.Essentials}
    (h : step.essentials = .ok essentials) : run.advance step = .ok (run.pass step essentials) := by
  rw [advance_eq, h]
  rfl

theorem advance_eq_error {run : Run} {step : Step} {missing : Missing}
    (h : step.essentials = .error missing) : run.advance step = .error missing := by
  rw [advance_eq, h]
  rfl

/-- The run after all of the steps. -/
def through (run : Run) (steps : List Step) : Except Missing Run :=
  steps.foldlM advance run

@[simp]
theorem through_nil (run : Run) : run.through [] = .ok run :=
  rfl

theorem through_cons_of_ok {run : Run} {step : Step} {steps : List Step}
    {essentials : Step.Essentials} (h : step.essentials = .ok essentials) :
    run.through (step :: steps) = (run.pass step essentials).through steps := by
  unfold through
  rw [List.foldlM_cons, advance_eq_ok h]
  rfl

theorem through_cons_of_error {run : Run} {step : Step} {steps : List Step} {missing : Missing}
    (h : step.essentials = .error missing) : run.through (step :: steps) = .error missing := by
  unfold through
  rw [List.foldlM_cons, advance_eq_error h]
  rfl

/-- A run through a step and others after it. -/
theorem through_cons_eq_ok_iff {run final : Run} {step : Step} {steps : List Step} :
    run.through (step :: steps) = .ok final ↔
      ∃ essentials, step.essentials = .ok essentials ∧
        (run.pass step essentials).through steps = .ok final := by
  cases h : step.essentials with
  | error missing => simp [through_cons_of_error h]
  | ok essentials => simp [through_cons_of_ok h]

theorem through_append (run : Run) (front back : List Step) :
    run.through (front ++ back) = run.through front >>= fun middle => middle.through back :=
  List.foldlM_append

theorem through_append_of_ok {run middle : Run} {front : List Step}
    (h : run.through front = .ok middle) (back : List Step) :
    run.through (front ++ back) = middle.through back := by
  rw [through_append, h]
  rfl

theorem through_concat_of_ok {run middle : Run} {front : List Step} {step : Step}
    {essentials : Step.Essentials} (h : run.through front = .ok middle)
    (hessentials : step.essentials = .ok essentials) :
    run.through (front ++ [step]) = .ok (middle.pass step essentials) := by
  rw [through_append_of_ok h, through_cons_of_ok hessentials, through_nil]

/-- A run through steps comes to each of them and passes it. -/
theorem exists_pass_of_through {run final : Run} {front back : List Step} {step : Step}
    (h : run.through (front ++ step :: back) = .ok final) :
    ∃ middle essentials, run.through front = .ok middle ∧ step.essentials = .ok essentials ∧
      (middle.pass step essentials).through back = .ok final := by
  rw [through_append] at h
  obtain ⟨middle, hmiddle, hback⟩ := bind_eq_ok_iff.mp h
  obtain ⟨essentials, hessentials, hlater⟩ := through_cons_eq_ok_iff.mp hback
  exact ⟨middle, essentials, hmiddle, hessentials, hlater⟩

/-- What each step keeps, for the steps in front of it and the run that they led to, the steps keep
together. The induction is on the steps that are still to run. -/
theorem kept_through {kept : List Step → Run → Prop} {steps : List Step}
    (hpass : ∀ step ∈ steps, ∀ front run essentials, step.essentials = .ok essentials →
      kept front run → kept (front ++ [step]) (run.pass step essentials))
    {front : List Step} {run final : Run} (hrun : kept front run)
    (hfinal : run.through steps = .ok final) : kept (front ++ steps) final := by
  induction steps generalizing front run with
  | nil =>
    cases hfinal
    rwa [List.append_nil]
  | cons step steps ih =>
    obtain ⟨essentials, hessentials, hlater⟩ := through_cons_eq_ok_iff.mp hfinal
    have hnext := hpass step List.mem_cons_self front run essentials hessentials hrun
    rw [List.append_cons]
    exact ih (fun other hother => hpass other (List.mem_cons_of_mem _ hother)) hnext hlater

/-- Whether steps run does not depend on what ran before them. -/
theorem exists_through_eq_ok_iff (run : Run) {steps : List Step} :
    (∃ final, run.through steps = .ok final) ↔
      ∀ step ∈ steps, ∃ essentials, step.essentials = .ok essentials := by
  induction steps generalizing run with
  | nil => simp
  | cons step steps ih =>
    cases h : step.essentials with
    | error missing => simp [through_cons_of_error h, h]
    | ok essentials => simp [through_cons_of_ok h, h, ih]

end Run

theorem trace_eq (steps : List Step) :
    trace steps = ((Run.start.through steps).map Run.timeline).mapError .missing := by
  unfold trace ofSteps Run.through
  cases steps.foldlM Run.advance Run.start <;> rfl

theorem trace_eq_ok_iff {steps : List Step} {timeline : Timeline} :
    trace steps = .ok timeline ↔
      ∃ final, Run.start.through steps = .ok final ∧ final.timeline = timeline := by
  rw [trace_eq, mapError_eq_ok_iff, map_eq_ok_iff]

theorem exists_trace_eq_ok_iff {steps : List Step} :
    (∃ timeline, trace steps = .ok timeline) ↔
      ∀ step ∈ steps, ∃ essentials, step.essentials = .ok essentials := by
  rw [← Run.exists_through_eq_ok_iff Run.start]
  simp only [trace_eq_ok_iff]
  constructor
  · rintro ⟨timeline, final, hfinal, _⟩
    exact ⟨final, hfinal⟩
  · rintro ⟨final, hfinal⟩
    exact ⟨final.timeline, final, hfinal, rfl⟩

end Timeline

end Espresso
