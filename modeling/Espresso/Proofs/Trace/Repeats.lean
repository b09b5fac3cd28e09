import Espresso.Proofs.Trace.Channel
import Mathlib.Algebra.GroupWithZero.Nat

/-!
# Repeated targets

A look-up takes the first of several values, a trace draws them all. Two runs over the same steps,
one of them without the repeats, stay in step: the traces of both are empty together, and each
further value that a channel draws leaves the run without repeats at least a segment behind. So the
two draw the same exactly when no step repeats what its channels draw.
-/

namespace Espresso

namespace Trace

/-- The first trace has at least `lag` segments less, and is empty only together with the second. -/
structure Behind (lag : Nat) (kept full : Trace) : Prop where
  length_add_le : kept.length + lag ≤ full.length
  nil_iff : kept = [] ↔ full = []

theorem Behind.refl (trace : Trace) : Behind 0 trace trace :=
  ⟨Nat.le_refl _, Iff.rfl⟩

theorem length_regulate (trace : Trace) (span : Span) (target : Float) :
    (trace.regulate span target).length = trace.length + if trace = [] then 1 else 2 := by
  unfold regulate
  by_cases h : trace = []
  · rw [level?_eq_none_iff.mpr h]
    simp [h]
  · obtain ⟨level, hlevel⟩ := Option.ne_none_iff_exists'.mp (mt level?_eq_none_iff.mp h)
    rw [hlevel]
    simp [h, hold]

theorem length_drive (trace : Trace) (span : Span) (target : Float) (transition : Transition)
    (correction : Option Float) :
    (trace.drive span target transition correction).length =
      trace.length + if trace = [] then 2 else
        correction.toList.length +
          match transition with
          | .smooth => 1
          | .fast => 2 := by
  unfold drive
  by_cases h : trace = []
  · rw [level?_eq_none_iff.mpr h]
    simp [h, hold]
  · obtain ⟨level, hlevel⟩ := Option.ne_none_iff_exists'.mp (mt level?_eq_none_iff.mp h)
    rw [hlevel]
    cases correction <;> cases transition <;> simp [h, hold, ramp, correct]

theorem length_dropToZero (trace : Trace) :
    trace.dropToZero.length = trace.length + if trace = [] then 0 else 1 := by
  unfold dropToZero
  by_cases h : trace = []
  · simp [h]
  · rw [List.getLast?_eq_some_getLast h]
    simp [h]

/-- How many segments are drawn depends only on whether the trace is empty. -/
def Lengthens (draw : Trace → Trace) (cost : Bool → Nat) : Prop :=
  ∀ trace, (draw trace).length = trace.length + cost trace.isEmpty

theorem lengthens_regulate (span : Span) (target : Float) :
    Lengthens (fun trace => trace.regulate span target) fun empty => if empty then 1 else 2 := by
  intro trace
  rw [length_regulate]
  cases trace <;> rfl

theorem lengthens_drive (span : Span) (target : Float) (transition : Transition)
    (correction : Option Float) :
    Lengthens (fun trace => trace.drive span target transition correction) fun empty =>
      if empty then 2 else
        correction.toList.length +
          match transition with
          | .smooth => 1
          | .fast => 2 := by
  intro trace
  rw [length_drive]
  cases trace <;> rfl

theorem lengthens_dropToZero : Lengthens dropToZero fun empty => if empty then 0 else 1 := by
  intro trace
  rw [length_dropToZero]
  cases trace <;> rfl

section Behind

variable {draw : Trace → Float → Trace} {cost : Bool → Nat} {lag : Nat} {kept full : Trace}

theorem Behind.mono {less : Nat} (h : Behind lag kept full) (hle : less ≤ lag) :
    Behind less kept full :=
  ⟨by have := h.length_add_le; omega, h.nil_iff⟩

theorem Behind.isEmpty_eq (h : Behind lag kept full) : kept.isEmpty = full.isEmpty := by
  rw [Bool.eq_iff_iff, List.isEmpty_iff, List.isEmpty_iff]
  exact h.nil_iff

theorem Lengthens.eq_nil_iff {step : Trace → Trace} (hstep : Lengthens step cost) (trace : Trace) :
    step trace = [] ↔ trace = [] ∧ cost true = 0 := by
  rw [← List.length_eq_zero_iff, hstep, Nat.add_eq_zero_iff, List.length_eq_zero_iff]
  constructor
  · rintro ⟨rfl, hcost⟩
    exact ⟨rfl, hcost⟩
  · rintro ⟨rfl, hcost⟩
    exact ⟨rfl, hcost⟩

theorem Behind.draw_both {step : Trace → Trace} (hstep : Lengthens step cost)
    (h : Behind lag kept full) : Behind lag (step kept) (step full) := by
  constructor
  · have hlength := h.length_add_le
    rw [hstep, hstep, h.isEmpty_eq]
    omega
  · rw [hstep.eq_nil_iff, hstep.eq_nil_iff, h.nil_iff]

/-- Only the second trace goes on, which needs that it is not started by that. -/
theorem Behind.draw_right {step : Trace → Trace} (hstep : Lengthens step cost)
    (h : Behind lag kept full) (hstarted : kept = [] → cost true = 0) :
    Behind (lag + min (cost true) (cost false)) kept (step full) := by
  have hlength := h.length_add_le
  constructor
  · rw [hstep]
    cases hempty : full.isEmpty with
    | true => omega
    | false => omega
  · rw [hstep.eq_nil_iff, ← h.nil_iff]
    exact ⟨fun hkept => ⟨hkept, hstarted hkept⟩, And.left⟩

/-- The induction is on the targets that only the second trace draws. -/
theorem Behind.foldl_right (hdraw : ∀ target, Lengthens (draw · target) cost)
    (h : Behind lag kept full) (hstarted : kept = [] → cost true = 0) (targets : List Float) :
    Behind (lag + targets.length * min (cost true) (cost false)) kept
      (targets.foldl draw full) := by
  induction targets generalizing full lag with
  | nil => simpa using h
  | cons target targets ih =>
    have hnext := ih (h.draw_right (hdraw target) hstarted)
    rw [List.foldl_cons]
    refine hnext.mono ?_
    rw [List.length_cons, Nat.add_mul]
    omega

/-- The first trace draws only the first target. -/
theorem Behind.foldl_take_one (hdraw : ∀ target, Lengthens (draw · target) cost)
    (h : Behind lag kept full) (targets : List Float) :
    Behind (lag + (targets.length - 1) * min (cost true) (cost false))
      ((targets.take 1).foldl draw kept) (targets.foldl draw full) := by
  cases targets with
  | nil => simpa using h
  | cons target targets =>
    have hfirst := h.draw_both (hdraw target)
    have hrest := hfirst.foldl_right hdraw
      (fun hnil => (((hdraw target).eq_nil_iff kept).mp hnil).2) targets
    simpa using hrest

end Behind

end Trace

namespace Timeline.Phase

variable {lag : Nat} {kept full : Trace} (phase : Phase)

theorem behind_regulate (h : Trace.Behind lag kept full) (targets : List Float) :
    Trace.Behind (lag + (targets.length - 1))
      ((targets.take 1).foldl (fun trace target => trace.regulate phase.span target) kept)
      (targets.foldl (fun trace target => trace.regulate phase.span target) full) := by
  have hlengthens := fun target => Trace.lengthens_regulate phase.span target
  exact (h.foldl_take_one hlengthens targets).mono (by simp)

theorem behind_draw (h : Trace.Behind lag kept full) (targets : List Float) :
    Trace.Behind (lag + (targets.length - 1)) ((targets.take 1).foldl phase.draw kept)
      (targets.foldl phase.draw full) := by
  have hlengthens := fun target => Trace.lengthens_drive phase.span target phase.transition
    phase.drivenCorrection
  refine (h.foldl_take_one hlengthens targets).mono ?_
  refine Nat.add_le_add_left (Nat.le_mul_of_pos_right _ ?_) _
  cases phase.transition <;> simp

theorem behind_release (h : Trace.Behind lag kept full) (targets : List Float) :
    Trace.Behind lag ((targets.take 1).foldl (fun trace _ => phase.release trace) kept)
      (targets.foldl (fun trace _ => phase.release trace) full) := by
  unfold release
  by_cases hswitch : phase.previousPump = some phase.pump.other
  · simp only [hswitch, if_true]
    exact (h.foldl_take_one (fun _ => Trace.lengthens_dropToZero) targets).mono (by omega)
  · have hstay : ∀ (targets : List Float) (trace : Trace),
        targets.foldl (fun trace _ => trace) trace = trace := by
      intro targets
      induction targets with
      | nil => exact fun _ => rfl
      | cons target targets ih => exact ih
    simp only [hswitch, if_false, hstay]
    exact h

end Timeline.Phase

/-- How many of the values that a step draws are repeats. -/
def Step.repeatedDraws (step : Step) : Nat :=
  (step.temperatures.length - 1) +
    match step.pump with
    | .ok pump => (step.targets pump).length - 1
    | .error _ => 0

/-- Each channel that the step draws on has at most one value. -/
def Step.DrawsOnce (step : Step) : Prop :=
  step.temperatures.length ≤ 1 ∧ ∀ pump, step.pump = .ok pump → (step.targets pump).length ≤ 1

theorem Step.repeatedDraws_eq_zero_iff (step : Step) :
    step.repeatedDraws = 0 ↔ step.DrawsOnce := by
  unfold repeatedDraws DrawsOnce
  cases step.pump with
  | error missing => simp [Nat.sub_eq_zero_iff_le]
  | ok pump => simp [Nat.sub_eq_zero_iff_le]

theorem Step.essentials_dropRepeats (step : Step) :
    step.dropRepeats.essentials = step.essentials := by
  simp [essentials]

namespace Timeline.Run

/-- Two runs that differ only in their traces, where the first has at least `lag` segments less. -/
structure Behind (lag : Nat) (kept full : Run) : Prop where
  pump_eq : kept.pump = full.pump
  exitFlow_eq : kept.exitFlow = full.exitFlow
  elapsed_eq : kept.timeline.elapsed = full.timeline.elapsed
  exists_lags : ∃ (warmed : Nat) (driven : Pump → Nat),
    warmed + driven .flow + driven .pressure = lag ∧
      Trace.Behind warmed kept.timeline.temperature full.timeline.temperature ∧
        ∀ channel, Trace.Behind (driven channel) (kept.timeline.channel channel)
          (full.timeline.channel channel)

theorem Behind.refl (run : Run) : Behind 0 run run :=
  ⟨rfl, rfl, rfl, 0, fun _ => 0, rfl, .refl _, fun _ => .refl _⟩

variable {lag : Nat} {kept full : Run}

theorem Behind.phase_eq (h : Behind lag kept full) (essentials : Step.Essentials) :
    kept.phase essentials = full.phase essentials := by
  unfold phase
  rw [h.pump_eq, h.exitFlow_eq, h.elapsed_eq]

/-- A step leaves the run without repeats as many segments further behind as it has repeats. -/
theorem Behind.pass (h : Behind lag kept full) (step : Step) {essentials : Step.Essentials}
    (hpump : step.pump = .ok essentials.pump) :
    Behind (lag + step.repeatedDraws) (kept.pass step.dropRepeats essentials)
      (full.pass step essentials) := by
  obtain ⟨warmed, driven, hlag, hwarmed, hdriven⟩ := h.exists_lags
  have hphase := h.phase_eq essentials
  refine ⟨rfl, step.exitFlow?_dropRepeats, ?_, warmed + (step.temperatures.length - 1),
    fun channel => driven channel +
      if channel = essentials.pump then (step.targets channel).length - 1 else 0, ?_, ?_, ?_⟩
  · show kept.timeline.elapsed + _ = full.timeline.elapsed + _
    rw [h.elapsed_eq]
  · unfold Step.repeatedDraws
    rw [hpump]
    cases essentials.pump <;> simp <;> omega
  · rw [temperature_pass, temperature_pass, Step.temperatures_dropRepeats, hphase]
    exact (full.phase essentials).behind_regulate hwarmed step.temperatures
  · intro channel
    rcases essentials.pump.eq_or_eq_other channel with rfl | rfl
    all_goals dsimp only
    · rw [channel_pump_pass, channel_pump_pass, Step.targets_dropRepeats, hphase, if_pos rfl]
      exact (full.phase essentials).behind_draw (hdriven essentials.pump) _
    · rw [channel_other_pass, channel_other_pass, Step.targets_dropRepeats, hphase,
        if_neg essentials.pump.ne_other.symm]
      exact (full.phase essentials).behind_release (hdriven essentials.pump.other) _

/-- The induction is on the steps, with the lag of each added to that of the ones before it. -/
theorem Behind.through (h : Behind lag kept full) {steps : List Step} {final : Run}
    (hfinal : full.through steps = .ok final) :
    ∃ less, kept.through (steps.map Step.dropRepeats) = .ok less ∧
      Behind (lag + (steps.map Step.repeatedDraws).sum) less final := by
  induction steps generalizing lag kept full with
  | nil =>
    cases hfinal
    exact ⟨kept, rfl, h⟩
  | cons step steps ih =>
    obtain ⟨essentials, hessentials, hlater⟩ := through_cons_eq_ok_iff.mp hfinal
    obtain ⟨_, _, hpump⟩ := Step.essentials_eq_ok_iff.mp hessentials
    obtain ⟨less, hless, hbehind⟩ := ih (h.pass step hpump) hlater
    refine ⟨less, ?_, ?_⟩
    · rw [List.map_cons, through_cons_of_ok (step.essentials_dropRepeats.trans hessentials)]
      exact hless
    · rw [List.map_cons, List.sum_cons, ← Nat.add_assoc]
      exact hbehind

theorem through_map_dropRepeats_error {run other : Run} {steps : List Step} {missing : Missing}
    (h : run.through steps = .error missing) :
    other.through (steps.map Step.dropRepeats) = .error missing := by
  induction steps generalizing run other with
  | nil => cases h
  | cons step steps ih =>
    have hsame := step.essentials_dropRepeats
    cases hessentials : step.essentials with
    | error lacking =>
      rw [through_cons_of_error hessentials] at h
      cases h
      rw [List.map_cons, through_cons_of_error (hsame.trans hessentials)]
    | ok essentials =>
      rw [through_cons_of_ok hessentials] at h
      rw [List.map_cons, through_cons_of_ok (hsame.trans hessentials)]
      exact ih h

/-- A run with itself lags behind by nothing. -/
theorem Behind.lag_eq_zero (h : Behind lag full full) : lag = 0 := by
  obtain ⟨warmed, driven, hlag, hwarmed, hdriven⟩ := h.exists_lags
  have htemperature := hwarmed.length_add_le
  have hflow := (hdriven .flow).length_add_le
  have hpressure := (hdriven .pressure).length_add_le
  omega

theorem advance_dropRepeats {step : Step} (honce : step.DrawsOnce) (run : Run) :
    run.advance step.dropRepeats = run.advance step := by
  refine advance_congr step.essentials_dropRepeats ?_ (fun pump hpump => ?_)
    step.exitFlow?_dropRepeats run
  · rw [Step.temperatures_dropRepeats]
    exact List.take_of_length_le honce.1
  · rw [Step.targets_dropRepeats]
    rw [Step.pump_dropRepeats] at hpump
    exact List.take_of_length_le (honce.2 _ hpump)

theorem through_map_dropRepeats (run : Run) {steps : List Step}
    (honce : ∀ step ∈ steps, step.DrawsOnce) :
    run.through (steps.map Step.dropRepeats) = run.through steps := by
  refine through_congr (List.forall₂_map_left_iff.mpr (List.forall₂_same.mpr ?_)) run
  intro step hstep
  exact advance_dropRepeats (honce step hstep)

end Timeline.Run

namespace Timeline

theorem trace_map_dropRepeats_elapsed (steps : List Step) :
    (trace (steps.map Step.dropRepeats)).map elapsed = (trace steps).map elapsed := by
  rw [trace_eq, trace_eq]
  cases h : Run.start.through steps with
  | error missing =>
    rw [Run.through_map_dropRepeats_error h]
  | ok final =>
    obtain ⟨less, hless, hbehind⟩ := (Run.Behind.refl Run.start).through h
    rw [hless]
    exact congrArg Except.ok hbehind.elapsed_eq

theorem drawsOnce_of_trace_eq {steps : List Step} {timeline : Timeline}
    (htrace : trace steps = .ok timeline)
    (hsame : trace (steps.map Step.dropRepeats) = trace steps) :
    ∀ step ∈ steps, step.DrawsOnce := by
  obtain ⟨final, hfinal, rfl⟩ := trace_eq_ok_iff.mp htrace
  obtain ⟨less, hless, hbehind⟩ := (Run.Behind.refl Run.start).through hfinal
  have htimeline : less.timeline = final.timeline := by
    obtain ⟨other, hother, hequal⟩ := trace_eq_ok_iff.mp (hsame.trans htrace)
    rw [hless] at hother
    cases hother
    exact hequal
  have hrun : less = final :=
    Run.eq_of_timeline_eq htimeline hbehind.pump_eq hbehind.exitFlow_eq
  rw [hrun] at hbehind
  have hsum : (steps.map Step.repeatedDraws).sum = 0 := by
    have hlag := hbehind.lag_eq_zero
    omega
  intro step hstep
  rw [← Step.repeatedDraws_eq_zero_iff]
  exact List.sum_eq_zero_iff_forall_eq_nat.mp hsum _ (List.mem_map_of_mem hstep)

/-- **Repeated keys.** Without its repeats a step is looked up in and summarised as before, and
steps take as long or fail alike. They draw the same exactly when no step repeats what it draws. -/
theorem trace_map_dropRepeats_eq_iff (steps : List Step) :
    ((∀ step ∈ steps,
        step.dropRepeats.seconds = step.seconds ∧
          step.dropRepeats.transition = step.transition ∧
            step.dropRepeats.pump = step.pump ∧ step.dropRepeats.exitFlow? = step.exitFlow?) ∧
      StepSummary.ofSteps (steps.map Step.dropRepeats) = StepSummary.ofSteps steps ∧
        (trace (steps.map Step.dropRepeats)).map elapsed = (trace steps).map elapsed) ∧
    (trace (steps.map Step.dropRepeats) = trace steps ↔
      (∃ failure, trace steps = .error failure) ∨ ∀ step ∈ steps, step.DrawsOnce) := by
  refine ⟨⟨fun step _ => ⟨step.seconds_dropRepeats, step.transition_dropRepeats,
    step.pump_dropRepeats, step.exitFlow?_dropRepeats⟩, StepSummary.ofSteps_dropRepeats steps,
    trace_map_dropRepeats_elapsed steps⟩, ?_⟩
  cases htrace : trace steps with
  | error failure =>
    have helapsed := trace_map_dropRepeats_elapsed steps
    rw [htrace] at helapsed
    cases hkept : trace (steps.map Step.dropRepeats) with
    | error other =>
      rw [hkept] at helapsed
      cases helapsed
      simp
    | ok timeline =>
      rw [hkept] at helapsed
      cases helapsed
  | ok timeline =>
    simp only [reduceCtorEq, exists_false, false_or]
    constructor
    · intro hsame
      exact drawsOnce_of_trace_eq htrace (hsame.trans htrace.symm)
    · intro honce
      rw [trace_eq, Run.through_map_dropRepeats _ honce, ← trace_eq]
      exact htrace

/-- A second temperature in one step is drawn as a jump from the first. -/
theorem not_forall_trace_map_dropRepeats_eq :
    ¬ ∀ steps, trace (steps.map Step.dropRepeats) = trace steps := by
  intro h
  have hsame := congrArg Except.toOption (h [⟨[.known .seconds (10.0 : Float),
    .known .transition Transition.fast, .known .pump Pump.flow,
    .known .temperature (90.0 : Float), .known .temperature (91.0 : Float)]⟩])
  revert hsame
  decide +kernel

end Timeline

end Espresso
