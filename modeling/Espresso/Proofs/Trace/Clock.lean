import Espresso.Proofs.Profile.Comments
import Espresso.Proofs.Trace.Channel
import Espresso.Proofs.Trace.Forward

/-!
# The clock of a run

When every step is tidy, the trace of a channel is up to the time of the clock while the pump drives
it, and empty or at zero while it does not. What a step draws is then known from the step, the clock
and the pump of the step before it.
-/

namespace Espresso

open Decimal

namespace Step

def seconds? (step : Step) : Option Float :=
  step.first? .seconds

def temperature? (step : Step) : Option Float :=
  step.first? .temperature

def pump? (step : Step) : Option Pump :=
  step.first? .pump

/-- The time that the step takes, if it says any, is not negative. -/
def Timed (step : Step) : Prop :=
  ∀ duration, step.seconds = .ok duration → IsMagnitude duration

/-- The time at which all of the steps are over. -/
def clock (steps : List Step) : Float :=
  (steps.filterMap seconds?).foldl (· + ·) 0.0

def lastPump? (steps : List Step) : Option Pump :=
  steps.getLast?.bind pump?

theorem clock_append_singleton {step : Step} {duration : Float} (front : List Step)
    (h : step.seconds = .ok duration) : clock (front ++ [step]) = clock front + duration := by
  have hfirst : step.seconds? = some duration := require_eq_ok_iff.mp h
  unfold clock
  rw [List.filterMap_append, List.foldl_append]
  simp [hfirst]

theorem lastPump?_append_singleton {step : Step} {pump : Pump} (front : List Step)
    (h : step.pump = .ok pump) : lastPump? (front ++ [step]) = some pump := by
  have hfirst : step.pump? = some pump := require_eq_ok_iff.mp h
  unfold lastPump?
  rw [List.getLast?_concat]
  exact hfirst

namespace Tidy

variable {step : Step}

theorem temperatures_eq (h : step.Tidy) : step.temperatures = step.temperature?.toList :=
  values_eq_toList (h.length_values_le .temperature)

theorem targets_eq (h : step.Tidy) (channel : Pump) :
    step.targets channel = (step.target? channel).toList := by
  cases channel with
  | flow => exact values_eq_toList (h.length_values_le .flow)
  | pressure => exact values_eq_toList (h.length_values_le .pressure)

theorem exists_targets_eq (h : step.Tidy) {pump : Pump} (hpump : step.pump = .ok pump) :
    ∃ target, step.target? pump = some target ∧ step.targets pump = [target] := by
  obtain ⟨target, htarget⟩ := h.targeted pump hpump
  refine ⟨target, htarget, ?_⟩
  rw [h.targets_eq, htarget]
  rfl

end Tidy

end Step

namespace Timeline

/-- What a step whose pump is `pump` adds to the timeline before it, when `previous` is the pump of
the step before. -/
structure Draws (step : Step) (pump : Pump) (previous : Option Pump) (span : Span)
    (before after : Timeline) : Prop where
  driven : ∃ target jumps last, step.target? pump = some target ∧
    after.channel pump = before.channel pump ++ jumps ++ [last] ∧
      Trace.Reaches span target jumps last
  released :
    if previous = some pump.other then
      ∃ level, after.channel pump.other =
        before.channel pump.other ++ [⟨span.start, level, span.start, 0.0⟩]
    else after.channel pump.other = before.channel pump.other
  idle : after.channel pump.other = [] ∨ (after.channel pump.other).level? = some 0.0
  temperature :
    match step.temperature? with
    | none => after.temperature = before.temperature
    | some target =>
      ∃ jumps, after.temperature =
          before.temperature ++ jumps ++ [⟨span.start, target, span.stop, target⟩] ∧
        jumps.length ≤ 1 ∧ ∀ jump ∈ jumps, jump.VerticalAt span.start

namespace Draws

variable {step : Step} {pump : Pump} {previous : Option Pump} {span : Span}
  {before after : Timeline}

theorem exists_last (h : Draws step pump previous span before after) :
    ∃ last, (after.channel pump).getLast? = some last ∧ last.x2 = span.stop := by
  obtain ⟨target, jumps, last, _, hdriven, hreaches⟩ := h.driven
  refine ⟨last, ?_, hreaches.x2_eq⟩
  rw [hdriven]
  exact List.getLast?_concat

theorem channel_forward (h : Draws step pump previous span before after)
    (hstart : IsMagnitude span.start) (hstop : IsMagnitude span.stop)
    (hle : span.start ≤ span.stop)
    (hforward : ∀ channel, (before.channel channel).Forward span.start) (channel : Pump) :
    (after.channel channel).Forward span.stop := by
  rcases pump.eq_or_eq_other channel with rfl | rfl
  · obtain ⟨target, jumps, last, _, hdriven, hreaches⟩ := h.driven
    rw [hdriven]
    exact (hforward channel).append_reaches hstart hstop hle hreaches
  · have hreleased := h.released
    split at hreleased
    · obtain ⟨level, heq⟩ := hreleased
      rw [heq]
      have hdrop : Trace.Forward span.start
          (before.channel pump.other ++ [⟨span.start, level, span.start, 0.0⟩]) :=
        (hforward pump.other).append_segment hstart hstart hstart.le_refl rfl rfl
      exact hdrop.later hstart hstop hle
    · rw [hreleased]
      exact (hforward pump.other).later hstart hstop hle

theorem temperature_forward (h : Draws step pump previous span before after)
    (hstart : IsMagnitude span.start) (hstop : IsMagnitude span.stop)
    (hle : span.start ≤ span.stop) (hforward : before.temperature.Forward span.start) :
    after.temperature.Forward span.stop := by
  have htemperature := h.temperature
  cases hvalue : step.temperature? with
  | none =>
    rw [hvalue] at htemperature
    rw [htemperature]
    exact hforward.later hstart hstop hle
  | some target =>
    rw [hvalue] at htemperature
    obtain ⟨jumps, heq, _, hvertical⟩ := htemperature
    rw [heq]
    have hreaches : Trace.Reaches span target jumps ⟨span.start, target, span.stop, target⟩ :=
      ⟨hvertical, rfl, rfl, rfl⟩
    exact hforward.append_reaches hstart hstop hle hreaches

end Draws

namespace Run

/-- What holds after the steps in front: the clock has summed up their times, no trace is beyond it,
the driven channel is up to it and the other one is at rest. -/
structure Follows (front : List Step) (run : Run) : Prop where
  elapsed_eq : run.timeline.elapsed = Step.clock front
  pump_eq : run.pump = Step.lastPump? front
  isMagnitude : IsMagnitude run.timeline.elapsed
  temperature_forward : run.timeline.temperature.Forward run.timeline.elapsed
  channel_forward : ∀ channel, (run.timeline.channel channel).Forward run.timeline.elapsed
  upToDate : ∀ pump, run.pump = some pump →
    ∃ last, (run.timeline.channel pump).getLast? = some last ∧ last.x2 = run.timeline.elapsed
  atRest : ∀ pump, run.pump ≠ some pump →
    run.timeline.channel pump = [] ∨ (run.timeline.channel pump).level? = some 0.0

theorem follows_start : Follows [] start where
  elapsed_eq := rfl
  pump_eq := rfl
  isMagnitude := .zero
  temperature_forward := .nil _
  channel_forward channel := by
    cases channel <;> exact .nil _
  upToDate pump h := by cases h
  atRest pump _ := by
    cases pump <;> exact .inl rfl

section Pass

variable {front : List Step} {run : Run} {step : Step} {essentials : Step.Essentials}

theorem exists_driven_pass (htidy : step.Tidy) (hpump : step.pump = .ok essentials.pump) :
    ∃ target jumps last, step.target? essentials.pump = some target ∧
      (run.pass step essentials).timeline.channel essentials.pump =
        run.timeline.channel essentials.pump ++ jumps ++ [last] ∧
      Trace.Reaches (run.phase essentials).span target jumps last := by
  obtain ⟨target, htarget, htargets⟩ := htidy.exists_targets_eq hpump
  obtain ⟨jumps, last, hdraw, hreaches⟩ :=
    (run.timeline.channel essentials.pump).exists_drive_eq (run.phase essentials).span target
      (run.phase essentials).transition (run.phase essentials).drivenCorrection
  refine ⟨target, jumps, last, htarget, ?_, hreaches⟩
  rw [channel_pump_pass, htargets]
  exact hdraw

theorem channel_other_pass_tidy (run : Run) (htidy : step.Tidy)
    (hpump : step.pump = .ok essentials.pump) :
    (run.pass step essentials).timeline.channel essentials.pump.other =
      if run.pump = some essentials.pump.other then
        (run.timeline.channel essentials.pump.other).dropToZero
      else run.timeline.channel essentials.pump.other := by
  obtain ⟨target, _, htargets⟩ := htidy.exists_targets_eq hpump
  rw [channel_other_pass, htargets]
  rfl

theorem temperature_pass_tidy (htidy : step.Tidy) :
    (run.pass step essentials).timeline.temperature =
      match step.temperature? with
      | none => run.timeline.temperature
      | some target =>
        run.timeline.temperature.regulate (run.phase essentials).span target := by
  rw [temperature_pass, htidy.temperatures_eq]
  cases step.temperature? <;> rfl

/-- What a tidy step draws on a run that follows from the steps in front of it. -/
theorem Follows.draws (hfollows : run.Follows front) (htidy : step.Tidy)
    (hpump : step.pump = .ok essentials.pump) :
    Draws step essentials.pump run.pump (run.phase essentials).span run.timeline
      (run.pass step essentials).timeline := by
  have hother := channel_other_pass_tidy run htidy hpump
  refine ⟨exists_driven_pass htidy hpump, ?_, ?_, ?_⟩
  · split
    · next hswitch =>
      obtain ⟨last, hlast, htime⟩ := hfollows.upToDate _ hswitch
      rw [hother, if_pos hswitch, Trace.dropToZero_eq hlast, htime]
      exact ⟨last.y2, rfl⟩
    · next hstays =>
      rw [hother, if_neg hstays]
  · by_cases hswitch : run.pump = some essentials.pump.other
    · obtain ⟨last, hlast, _⟩ := hfollows.upToDate _ hswitch
      rw [hother, if_pos hswitch, Trace.dropToZero_eq hlast]
      right
      unfold Trace.level?
      rw [List.getLast?_concat]
      rfl
    · rw [hother, if_neg hswitch]
      exact hfollows.atRest _ hswitch
  · rw [temperature_pass_tidy htidy]
    cases step.temperature? with
    | none => rfl
    | some target =>
      exact run.timeline.temperature.exists_regulate_eq (run.phase essentials).span target

/-- The invariant is kept: what is drawn starts at the clock and ends when the step is over. -/
theorem Follows.pass (hfollows : run.Follows front) (htidy : step.Tidy)
    (hessentials : step.essentials = .ok essentials)
    (hduration : IsMagnitude essentials.duration) :
    (run.pass step essentials).Follows (front ++ [step]) := by
  obtain ⟨hseconds, _, hpump⟩ := Step.essentials_eq_ok_iff.mp hessentials
  have hdraws := hfollows.draws htidy hpump
  have hstart : IsMagnitude (run.phase essentials).span.start := hfollows.isMagnitude
  have hstop : IsMagnitude (run.phase essentials).span.stop := hstart.add hduration
  have hle : (run.phase essentials).span.start ≤ (run.phase essentials).span.stop :=
    hstart.le_add hduration
  constructor
  · rw [Step.clock_append_singleton front hseconds, ← hfollows.elapsed_eq]
    rfl
  · rw [Step.lastPump?_append_singleton front hpump]
    rfl
  · exact hstop
  · exact hdraws.temperature_forward hstart hstop hle hfollows.temperature_forward
  · exact hdraws.channel_forward hstart hstop hle hfollows.channel_forward
  · intro pump hdrives
    obtain rfl : essentials.pump = pump := Option.some.inj hdrives
    exact hdraws.exists_last
  · intro pump hrests
    rcases essentials.pump.eq_or_eq_other pump with rfl | rfl
    · exact absurd rfl hrests
    · exact hdraws.idle

end Pass

theorem Follows.through {front steps : List Step} {run final : Run} (hfollows : run.Follows front)
    (htidy : ∀ step ∈ steps, step.Tidy) (htimed : ∀ step ∈ steps, step.Timed)
    (hfinal : run.through steps = .ok final) : final.Follows (front ++ steps) := by
  refine kept_through (fun step hstep front run essentials hessentials hrun => ?_) hfollows hfinal
  obtain ⟨hseconds, _, _⟩ := Step.essentials_eq_ok_iff.mp hessentials
  exact hrun.pass (htidy step hstep) hessentials (htimed step hstep essentials.duration hseconds)

end Run

/-- The timelines before and after each step of a run, and what the step draws between them. -/
theorem exists_draws_of_append {front back : List Step} {step : Step} {timeline : Timeline}
    (htidy : ∀ other ∈ front ++ step :: back, other.Tidy)
    (htimed : ∀ other ∈ front ++ step :: back, other.Timed)
    (htrace : trace (front ++ step :: back) = .ok timeline) :
    ∃ duration pump before after, step.seconds = .ok duration ∧ step.pump = .ok pump ∧
      trace front = .ok before ∧ trace (front ++ [step]) = .ok after ∧
      Draws step pump (Step.lastPump? front)
        ⟨Step.clock front, Step.clock front + duration⟩ before after := by
  have hessentials := exists_trace_eq_ok_iff.mp ⟨timeline, htrace⟩
  obtain ⟨essentials, hstep⟩ := hessentials step (by simp)
  obtain ⟨hseconds, _, hpump⟩ := Step.essentials_eq_ok_iff.mp hstep
  obtain ⟨before, hbefore⟩ := (Run.exists_through_eq_ok_iff Run.start).mpr
    fun other hother => hessentials other (List.mem_append_left _ hother)
  have hfollows := Run.follows_start.through
    (fun other hother => htidy other (List.mem_append_left _ hother))
    (fun other hother => htimed other (List.mem_append_left _ hother)) hbefore
  have hafter : Run.start.through (front ++ [step]) = .ok (before.pass step essentials) :=
    Run.through_concat_of_ok hbefore hstep
  have hdraws := hfollows.draws (htidy step (by simp)) hpump
  rw [hfollows.pump_eq] at hdraws
  refine ⟨essentials.duration, essentials.pump, before.timeline,
    (before.pass step essentials).timeline, hseconds, hpump,
    trace_eq_ok_iff.mpr ⟨before, hbefore, rfl⟩, trace_eq_ok_iff.mpr ⟨_, hafter, rfl⟩, ?_⟩
  have helapsed := hfollows.elapsed_eq
  rw [List.nil_append] at helapsed
  rw [← helapsed]
  exact hdraws

end Timeline

end Espresso
