import Espresso.Proofs.Step.Repeats
import Espresso.Proofs.Trace.Run
import Mathlib.Data.List.Forall2

/-!
# Channels

What a step does to each channel by itself. Only the values of a few keys matter: every temperature
is drawn in its turn, every target is drawn on the channel that is driven, and each of these
releases the other channel once more.
-/

namespace Espresso

theorem Trace.level?_eq_none_iff {trace : Trace} : trace.level? = none ↔ trace = [] :=
  Option.map_eq_none_iff.trans List.getLast?_eq_none_iff

def Pump.other : Pump → Pump
  | flow => pressure
  | pressure => flow

theorem Pump.ne_other (pump : Pump) : pump ≠ pump.other := by
  cases pump <;> decide

theorem Pump.eq_or_eq_other (pump channel : Pump) : channel = pump ∨ channel = pump.other := by
  cases pump <;> cases channel <;> decide

def Property.temperature? (property : Property) : Option Float :=
  property.value? StepKey.temperature

/-- The value of a property that is a target of the channel. -/
def Property.target? (channel : Pump) (property : Property) : Option Float :=
  match channel with
  | .flow => property.value? StepKey.flow
  | .pressure => property.value? StepKey.pressure

namespace Step

def temperatures (step : Step) : List Float :=
  step.properties.filterMap Property.temperature?

def targets (step : Step) (channel : Pump) : List Float :=
  step.properties.filterMap (Property.target? channel)

theorem temperatures_dropRepeats (step : Step) :
    step.dropRepeats.temperatures = step.temperatures.take 1 :=
  step.values_dropRepeats .temperature

theorem targets_dropRepeats (step : Step) (channel : Pump) :
    step.dropRepeats.targets channel = (step.targets channel).take 1 := by
  cases channel
  · exact step.values_dropRepeats .flow
  · exact step.values_dropRepeats .pressure

end Step

namespace Timeline

def channel (timeline : Timeline) : Pump → Trace
  | .flow => timeline.flow
  | .pressure => timeline.pressure

theorem ext_channel {first second : Timeline}
    (htemperature : first.temperature = second.temperature)
    (hchannel : ∀ channel, first.channel channel = second.channel channel)
    (helapsed : first.elapsed = second.elapsed) : first = second := by
  obtain ⟨temperature, pressure, flow, elapsed⟩ := first
  obtain rfl : flow = _ := hchannel .flow
  obtain rfl : pressure = _ := hchannel .pressure
  obtain rfl : temperature = _ := htemperature
  obtain rfl : elapsed = _ := helapsed
  rfl

namespace Phase

/-- Only a flow is corrected. -/
def drivenCorrection (phase : Phase) : Option Float :=
  match phase.pump with
  | .flow => phase.correction
  | .pressure => none

/-- A target is drawn on the driven channel. -/
def draw (phase : Phase) (trace : Trace) (target : Float) : Trace :=
  trace.drive phase.span target phase.transition phase.drivenCorrection

/-- The channel that is not driven is let go when it was driven before. -/
def release (phase : Phase) (trace : Trace) : Trace :=
  if phase.previousPump = some phase.pump.other then trace.dropToZero else trace

end Phase

section Apply

variable (phase : Phase) (timeline : Timeline)

theorem temperature_apply (property : Property) :
    (apply phase timeline property).temperature =
      match property.temperature? with
      | some target => timeline.temperature.regulate phase.span target
      | none => timeline.temperature := by
  obtain ⟨span, transition, pump, previousPump, correction⟩ := phase
  cases property with
  | unknown name value => rfl
  | known key value => cases pump <;> cases key <;> rfl

theorem channel_pump_apply (property : Property) :
    (apply phase timeline property).channel phase.pump =
      match property.target? phase.pump with
      | some target => phase.draw (timeline.channel phase.pump) target
      | none => timeline.channel phase.pump := by
  obtain ⟨span, transition, pump, previousPump, correction⟩ := phase
  cases property with
  | unknown name value => cases pump <;> rfl
  | known key value => cases pump <;> cases key <;> rfl

theorem channel_other_apply (property : Property) :
    (apply phase timeline property).channel phase.pump.other =
      match property.target? phase.pump with
      | some _ => phase.release (timeline.channel phase.pump.other)
      | none => timeline.channel phase.pump.other := by
  obtain ⟨span, transition, pump, previousPump, correction⟩ := phase
  cases property with
  | unknown name value => cases pump <;> rfl
  | known key value => cases pump <;> cases key <;> rfl

variable (step : Step)

theorem temperature_foldl_apply :
    (step.properties.foldl (apply phase) timeline).temperature =
      step.temperatures.foldl (fun trace target => trace.regulate phase.span target)
        timeline.temperature := by
  unfold Step.temperatures
  rw [List.foldl_filterMap, List.foldl_hom Timeline.temperature]
  intro timeline property
  rw [temperature_apply]
  cases property.temperature? <;> rfl

theorem channel_pump_foldl_apply :
    (step.properties.foldl (apply phase) timeline).channel phase.pump =
      (step.targets phase.pump).foldl phase.draw (timeline.channel phase.pump) := by
  unfold Step.targets
  rw [List.foldl_filterMap, ← List.foldl_hom (Timeline.channel · phase.pump)]
  intro timeline property
  rw [channel_pump_apply]
  cases property.target? phase.pump <;> rfl

theorem channel_other_foldl_apply :
    (step.properties.foldl (apply phase) timeline).channel phase.pump.other =
      (step.targets phase.pump).foldl (fun trace _ => phase.release trace)
        (timeline.channel phase.pump.other) := by
  unfold Step.targets
  rw [List.foldl_filterMap, ← List.foldl_hom (Timeline.channel · phase.pump.other)]
  intro timeline property
  rw [channel_other_apply]
  cases property.target? phase.pump <;> rfl

end Apply

namespace Run

variable (run : Run) (step : Step) (essentials : Step.Essentials)

theorem temperature_pass :
    (run.pass step essentials).timeline.temperature =
      step.temperatures.foldl
        (fun trace target => trace.regulate (run.phase essentials).span target)
        run.timeline.temperature :=
  temperature_foldl_apply (run.phase essentials) run.timeline step

theorem channel_pass (channel : Pump) :
    (run.pass step essentials).timeline.channel channel =
      (step.properties.foldl (apply (run.phase essentials)) run.timeline).channel channel := by
  cases channel <;> rfl

theorem channel_pump_pass :
    (run.pass step essentials).timeline.channel essentials.pump =
      (step.targets essentials.pump).foldl (run.phase essentials).draw
        (run.timeline.channel essentials.pump) := by
  rw [channel_pass]
  exact channel_pump_foldl_apply (run.phase essentials) run.timeline step

theorem channel_other_pass :
    (run.pass step essentials).timeline.channel essentials.pump.other =
      (step.targets essentials.pump).foldl (fun trace _ => (run.phase essentials).release trace)
        (run.timeline.channel essentials.pump.other) := by
  rw [channel_pass]
  exact channel_other_foldl_apply (run.phase essentials) run.timeline step

theorem eq_of_timeline_eq {first second : Run} (htimeline : first.timeline = second.timeline)
    (hpump : first.pump = second.pump) (hexitFlow : first.exitFlow = second.exitFlow) :
    first = second := by
  obtain ⟨timeline, pump, exitFlow⟩ := first
  obtain rfl : timeline = _ := htimeline
  obtain rfl : pump = _ := hpump
  obtain rfl : exitFlow = _ := hexitFlow
  rfl

/-- What a step draws is known from its temperatures and the targets of the driven channel. -/
theorem timeline_pass_congr {first second : Step}
    (htemperatures : first.temperatures = second.temperatures)
    (htargets : first.targets essentials.pump = second.targets essentials.pump) :
    (run.pass first essentials).timeline = (run.pass second essentials).timeline := by
  refine Timeline.ext_channel ?_ (fun channel => ?_) rfl
  · rw [temperature_pass, temperature_pass, htemperatures]
  · rcases essentials.pump.eq_or_eq_other channel with rfl | rfl
    · rw [channel_pump_pass, channel_pump_pass, htargets]
    · rw [channel_other_pass, channel_other_pass, htargets]

/-- All that a step does is known from its essentials, its temperatures, the targets of the driven
channel and the flow at which it may end early. -/
theorem advance_congr {first second : Step} (hessentials : first.essentials = second.essentials)
    (htemperatures : first.temperatures = second.temperatures)
    (htargets : ∀ pump, first.pump = .ok pump → first.targets pump = second.targets pump)
    (hexitFlow : first.exitFlow? = second.exitFlow?) (run : Run) :
    run.advance first = run.advance second := by
  cases h : first.essentials with
  | error missing => rw [advance_eq_error h, advance_eq_error (hessentials.symm.trans h)]
  | ok essentials =>
    obtain ⟨_, _, hpump⟩ := Step.essentials_eq_ok_iff.mp h
    have htimeline := timeline_pass_congr run essentials htemperatures (htargets _ hpump)
    rw [advance_eq_ok h, advance_eq_ok (hessentials.symm.trans h)]
    exact congrArg Except.ok (eq_of_timeline_eq htimeline rfl hexitFlow)

/-- Steps that do the same to every run can stand for one another. -/
theorem through_congr {first second : List Step}
    (h : List.Forall₂ (fun one other => ∀ run : Run, run.advance one = run.advance other) first
      second) (run : Run) : run.through first = run.through second := by
  induction h generalizing run with
  | nil => rfl
  | cons hstep _ ih =>
    unfold through at ih ⊢
    rw [List.foldlM_cons, List.foldlM_cons, hstep run]
    congr 1
    funext next
    exact ih next

end Run

end Timeline

end Espresso
