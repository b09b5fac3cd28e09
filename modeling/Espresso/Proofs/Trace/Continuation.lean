import Espresso.Proofs.Trace.Channel

/-!
# Going on with a trace

What steps draw is only ever added to, and all that is added depends on a little of what is there:
the time, where each trace has got to, and the pump and the exit on flow of the last step. So the
trace of some steps is the front of the trace with more steps behind them, and two lists of steps
that leave the same behind are gone on with in the same way.
-/

namespace Espresso

namespace Trace

/-- The time and the value that a trace has got to. -/
def tip? (trace : Trace) : Option (Float × Float) :=
  trace.getLast?.map fun last => (last.x2, last.y2)

theorem tip?_append (front back : Trace) : tip? (front ++ back) = back.tip?.or front.tip? := by
  unfold tip?
  rw [List.getLast?_append, Option.map_or]

theorem tip?_of_getLast?_eq {first second : Trace} (h : first.getLast? = second.getLast?) :
    first.tip? = second.tip? := by
  unfold tip?
  rw [h]

/-- A change that appends to a trace, of which it knows only where it has got to. -/
def Appends (change : Trace → Trace) : Prop :=
  ∃ added : Option (Float × Float) → Trace, ∀ trace, change trace = trace ++ added trace.tip?

theorem Appends.refl : Appends id :=
  ⟨fun _ => [], fun trace => (List.append_nil trace).symm⟩

theorem Appends.comp {first second : Trace → Trace} (hfirst : Appends first)
    (hsecond : Appends second) : Appends fun trace => second (first trace) := by
  obtain ⟨added, hadded⟩ := hfirst
  obtain ⟨more, hmore⟩ := hsecond
  refine ⟨fun tip? => added tip? ++ more ((added tip?).tip?.or tip?), fun trace => ?_⟩
  calc second (first trace)
      = first trace ++ more (first trace).tip? := hmore (first trace)
    _ = trace ++ (added trace.tip? ++ more ((added trace.tip?).tip?.or trace.tip?)) := by
        rw [hadded, tip?_append, List.append_assoc]

theorem Appends.foldl {α : Type} {draw : Trace → α → Trace}
    (hdraw : ∀ item, Appends fun trace => draw trace item) (items : List α) :
    Appends fun trace => items.foldl draw trace := by
  induction items with
  | nil => exact .refl
  | cons item items ih => exact (hdraw item).comp ih

theorem appends_dropToZero : Appends dropToZero := by
  refine ⟨fun tip? => (tip?.map fun tip => ⟨tip.1, tip.2, tip.1, 0.0⟩).toList, fun trace => ?_⟩
  unfold dropToZero tip?
  cases trace.getLast? <;> simp

/-- What is added to a temperature trace that has got to `tip?`. -/
def regulated (span : Span) (target : Float) : Option (Float × Float) → Trace
  | none => [⟨span.start, target, span.stop, target⟩]
  | some tip => hold [] span tip.2 target

theorem appends_regulate (span : Span) (target : Float) :
    Appends fun trace => trace.regulate span target := by
  refine ⟨regulated span target, fun trace => ?_⟩
  unfold regulate level? tip?
  dsimp only
  cases trace.getLast? <;> rfl

/-- What is added to a driven trace that has got to `tip?`. -/
def driven (span : Span) (target : Float) (transition : Transition) (correction : Option Float) :
    Option (Float × Float) → Trace
  | none => hold [] span 0.0 target
  | some tip =>
    let (jumps, previous) := correct [] span tip.2 correction
    match transition with
    | .smooth => jumps.ramp span previous target
    | .fast => jumps.hold span previous target

theorem drive_eq_append_driven (trace : Trace) (span : Span) (target : Float)
    (transition : Transition) (correction : Option Float) :
    trace.drive span target transition correction =
      trace ++ driven span target transition correction trace.tip? := by
  unfold drive level? tip?
  cases trace.getLast? with
  | none => rfl
  | some last => cases correction <;> cases transition <;> simp [driven, correct, hold, ramp]

theorem appends_drive (span : Span) (target : Float) (transition : Transition)
    (correction : Option Float) :
    Appends fun trace => trace.drive span target transition correction :=
  ⟨driven span target transition correction,
    fun trace => trace.drive_eq_append_driven span target transition correction⟩

end Trace

/-- What is traced. -/
inductive Quantity where
  | temperature
  | pressure
  | flow
  deriving DecidableEq

namespace Timeline

def curve (timeline : Timeline) : Quantity → Trace
  | .temperature => timeline.temperature
  | .pressure => timeline.pressure
  | .flow => timeline.flow

/-- Both are at the same time, and each of their traces ends with the same segment. -/
structure EndsAlike (first second : Timeline) : Prop where
  elapsed_eq : first.elapsed = second.elapsed
  getLast?_eq : ∀ quantity, (first.curve quantity).getLast? = (second.curve quantity).getLast?

theorem endsAlike_iff {first second : Timeline} :
    EndsAlike first second ↔ first.elapsed = second.elapsed ∧
      first.temperature.getLast? = second.temperature.getLast? ∧
        first.pressure.getLast? = second.pressure.getLast? ∧
          first.flow.getLast? = second.flow.getLast? := by
  constructor
  · rintro ⟨helapsed, hlast⟩
    exact ⟨helapsed, hlast .temperature, hlast .pressure, hlast .flow⟩
  · rintro ⟨helapsed, htemperature, hpressure, hflow⟩
    refine ⟨helapsed, fun quantity => ?_⟩
    cases quantity with
    | temperature => exact htemperature
    | pressure => exact hpressure
    | flow => exact hflow

instance (first second : Timeline) : Decidable (EndsAlike first second) :=
  decidable_of_iff' _ endsAlike_iff

/-- Both are at the same time, and each of their traces has got to the same point. -/
structure Level (first second : Timeline) : Prop where
  elapsed_eq : first.elapsed = second.elapsed
  tip?_eq : ∀ quantity, (first.curve quantity).tip? = (second.curve quantity).tip?

theorem EndsAlike.level {first second : Timeline} (h : EndsAlike first second) :
    Level first second :=
  ⟨h.elapsed_eq, fun quantity => Trace.tip?_of_getLast?_eq (h.getLast?_eq quantity)⟩

namespace Phase

/-- What a step makes of the trace of a channel. -/
def redraw (phase : Phase) (step : Step) (channel : Pump) (trace : Trace) : Trace :=
  if channel = phase.pump then (step.targets phase.pump).foldl phase.draw trace
  else (step.targets phase.pump).foldl (fun trace _ => phase.release trace) trace

theorem appends_redraw (phase : Phase) (step : Step) (channel : Pump) :
    Trace.Appends (phase.redraw step channel) := by
  unfold redraw
  by_cases hdriven : channel = phase.pump
  · simp only [if_pos hdriven]
    apply Trace.Appends.foldl
    intro target
    exact Trace.appends_drive phase.span target phase.transition phase.drivenCorrection
  · simp only [if_neg hdriven]
    apply Trace.Appends.foldl
    intro _
    unfold release
    by_cases hswitch : phase.previousPump = some phase.pump.other
    · simp only [if_pos hswitch]
      exact Trace.appends_dropToZero
    · simp only [if_neg hswitch]
      exact .refl

end Phase

namespace Run

theorem channel_pass_eq_redraw (run : Run) (step : Step) (essentials : Step.Essentials)
    (channel : Pump) :
    (run.pass step essentials).timeline.channel channel =
      (run.phase essentials).redraw step channel (run.timeline.channel channel) := by
  unfold Phase.redraw
  rcases essentials.pump.eq_or_eq_other channel with rfl | rfl
  · rw [channel_pump_pass]
    exact (if_pos rfl).symm
  · rw [channel_other_pass]
    exact (if_neg essentials.pump.ne_other.symm).symm

/-- How a step changes a trace depends on the phase alone. -/
theorem exists_appends_pass (step : Step) (essentials : Step.Essentials) (phase : Phase)
    (quantity : Quantity) :
    ∃ change, Trace.Appends change ∧ ∀ run : Run, run.phase essentials = phase →
      (run.pass step essentials).timeline.curve quantity =
        change (run.timeline.curve quantity) := by
  have hchannel (channel : Pump) (run : Run) (hphase : run.phase essentials = phase) :
      (run.pass step essentials).timeline.channel channel =
        phase.redraw step channel (run.timeline.channel channel) := by
    rw [channel_pass_eq_redraw, hphase]
  cases quantity with
  | temperature =>
    refine ⟨fun trace => step.temperatures.foldl
      (fun trace target => trace.regulate phase.span target) trace, ?_, ?_⟩
    · exact Trace.Appends.foldl (Trace.appends_regulate phase.span) step.temperatures
    · intro run hphase
      rw [← hphase]
      exact run.temperature_pass step essentials
  | pressure => exact ⟨_, phase.appends_redraw step .pressure, hchannel .pressure⟩
  | flow => exact ⟨_, phase.appends_redraw step .flow, hchannel .flow⟩

/-- No step after the two runs can tell them apart. -/
structure Abreast (first second : Run) : Prop where
  timeline : first.timeline.Level second.timeline
  pump_eq : first.pump = second.pump
  exitFlow_eq : first.exitFlow = second.exitFlow

/-- Every trace of either run has been appended the same. -/
def GrowsAlike (first second firstLater secondLater : Run) : Prop :=
  ∀ quantity, ∃ added,
    firstLater.timeline.curve quantity = first.timeline.curve quantity ++ added ∧
      secondLater.timeline.curve quantity = second.timeline.curve quantity ++ added

theorem GrowsAlike.refl (first second : Run) : GrowsAlike first second first second :=
  fun _ => ⟨[], (List.append_nil _).symm, (List.append_nil _).symm⟩

theorem GrowsAlike.trans {first second firstLater secondLater firstLast secondLast : Run}
    (hbefore : GrowsAlike first second firstLater secondLater)
    (hafter : GrowsAlike firstLater secondLater firstLast secondLast) :
    GrowsAlike first second firstLast secondLast := by
  intro quantity
  obtain ⟨added, hfirst, hsecond⟩ := hbefore quantity
  obtain ⟨more, hfirstMore, hsecondMore⟩ := hafter quantity
  refine ⟨added ++ more, ?_, ?_⟩
  · rw [hfirstMore, hfirst, List.append_assoc]
  · rw [hsecondMore, hsecond, List.append_assoc]

namespace Abreast

variable {first second : Run}

theorem refl (run : Run) : Abreast run run :=
  ⟨⟨rfl, fun _ => rfl⟩, rfl, rfl⟩

theorem phase_eq (h : Abreast first second) (essentials : Step.Essentials) :
    first.phase essentials = second.phase essentials := by
  unfold phase
  rw [h.timeline.elapsed_eq, h.pump_eq, h.exitFlow_eq]

theorem growsAlike_pass (h : Abreast first second) (step : Step) (essentials : Step.Essentials) :
    GrowsAlike first second (first.pass step essentials) (second.pass step essentials) := by
  intro quantity
  obtain ⟨change, ⟨added, hadded⟩, hchange⟩ :=
    exists_appends_pass step essentials (second.phase essentials) quantity
  refine ⟨added (second.timeline.curve quantity).tip?, ?_, ?_⟩
  · rw [hchange first (h.phase_eq essentials), hadded, h.timeline.tip?_eq]
  · rw [hchange second rfl, hadded]

theorem pass (h : Abreast first second) (step : Step) (essentials : Step.Essentials) :
    Abreast (first.pass step essentials) (second.pass step essentials) := by
  refine ⟨⟨?_, fun quantity => ?_⟩, rfl, rfl⟩
  · show first.timeline.elapsed + _ = second.timeline.elapsed + _
    rw [h.timeline.elapsed_eq]
  · obtain ⟨added, hfirst, hsecond⟩ := h.growsAlike_pass step essentials quantity
    rw [hfirst, hsecond, Trace.tip?_append, Trace.tip?_append, h.timeline.tip?_eq]

/-- The induction is on the steps; what each of them appends is appended to both. -/
theorem through (h : Abreast first second) (steps : List Step) :
    (∃ missing, first.through steps = .error missing ∧ second.through steps = .error missing) ∨
      ∃ firstLater secondLater, first.through steps = .ok firstLater ∧
        second.through steps = .ok secondLater ∧ Abreast firstLater secondLater ∧
          GrowsAlike first second firstLater secondLater := by
  induction steps generalizing first second with
  | nil => exact .inr ⟨first, second, rfl, rfl, h, .refl first second⟩
  | cons step steps ih =>
    cases hessentials : step.essentials with
    | error missing =>
      exact .inl ⟨missing, through_cons_of_error hessentials, through_cons_of_error hessentials⟩
    | ok essentials =>
      rw [through_cons_of_ok hessentials, through_cons_of_ok hessentials]
      have hgrows := h.growsAlike_pass step essentials
      rcases ih (h.pass step essentials) with hfails |
        ⟨firstLater, secondLater, hfirst, hsecond, habreast, hlater⟩
      · exact .inl hfails
      · exact .inr ⟨firstLater, secondLater, hfirst, hsecond, habreast, hgrows.trans hlater⟩

end Abreast

theorem prefix_of_through {run later : Run} {steps : List Step}
    (h : run.through steps = .ok later) (quantity : Quantity) :
    run.timeline.curve quantity <+: later.timeline.curve quantity := by
  rcases (Abreast.refl run).through steps with ⟨missing, hfails, _⟩ | ⟨found, _, hfound, _, _, hgrows⟩
  · rw [h] at hfails
    cases hfails
  · rw [h] at hfound
    cases hfound
    obtain ⟨added, hadded, _⟩ := hgrows quantity
    exact ⟨added, hadded.symm⟩

/-- The times of the steps are added one by one, in their order. -/
theorem exists_elapsed_eq_of_through {run later : Run} {steps : List Step}
    (h : run.through steps = .ok later) :
    ∃ durations, steps.mapM Step.seconds = .ok durations ∧
      later.timeline.elapsed = durations.foldl (· + ·) run.timeline.elapsed := by
  induction steps generalizing run with
  | nil =>
    cases h
    exact ⟨[], rfl, rfl⟩
  | cons step steps ih =>
    obtain ⟨essentials, hessentials, hlater⟩ := through_cons_eq_ok_iff.mp h
    obtain ⟨hseconds, _, _⟩ := Step.essentials_eq_ok_iff.mp hessentials
    obtain ⟨durations, hdurations, helapsed⟩ := ih hlater
    refine ⟨essentials.duration :: durations, ?_, helapsed⟩
    rw [List.mapM_cons, hseconds, hdurations]
    rfl

end Run

end Timeline

/-- What the last step leaves to the one after it: its pump, and the flow at which it may end
early. -/
def Step.legacy? (steps : List Step) : Option (Except Missing Pump × Option Float) :=
  steps.getLast?.map fun step => (step.pump, step.exitFlow?)

namespace Timeline

namespace Run

theorem legacy?_of_through {steps : List Step} {run : Run}
    (h : start.through steps = .ok run) :
    (Step.legacy? steps = none ∧ run.pump = none ∧ run.exitFlow = none) ∨
      ∃ pump, Step.legacy? steps = some (.ok pump, run.exitFlow) ∧ run.pump = some pump := by
  rcases List.eq_nil_or_concat' steps with rfl | ⟨front, step, rfl⟩
  · cases h
    exact .inl ⟨rfl, rfl, rfl⟩
  · rw [through_append] at h
    obtain ⟨before, _, hstep⟩ := bind_eq_ok_iff.mp h
    obtain ⟨essentials, hessentials, hlast⟩ := through_cons_eq_ok_iff.mp hstep
    obtain ⟨_, _, hpump⟩ := Step.essentials_eq_ok_iff.mp hessentials
    cases hlast
    refine .inr ⟨essentials.pump, ?_, rfl⟩
    unfold Step.legacy?
    rw [List.getLast?_concat, Option.map_some, hpump]
    rfl

theorem abreast_of_legacy?_eq {front other : List Step} {run otherRun : Run}
    (hrun : start.through front = .ok run) (hother : start.through other = .ok otherRun)
    (hends : run.timeline.EndsAlike otherRun.timeline)
    (hlegacy : Step.legacy? front = Step.legacy? other) : Abreast run otherRun := by
  rcases legacy?_of_through hrun with ⟨hnone, hpump, hexitFlow⟩ | ⟨pump, hsome, hpump⟩
  · rcases legacy?_of_through hother with ⟨_, hpump', hexitFlow'⟩ | ⟨pump', hsome', _⟩
    · exact ⟨hends.level, hpump.trans hpump'.symm, hexitFlow.trans hexitFlow'.symm⟩
    · rw [hnone, hsome'] at hlegacy
      cases hlegacy
  · rcases legacy?_of_through hother with ⟨hnone', _, _⟩ | ⟨pump', hsome', hpump'⟩
    · rw [hsome, hnone'] at hlegacy
      cases hlegacy
    · rw [hsome, hsome'] at hlegacy
      injection hlegacy with hpair
      injection hpair with hpumps hexitFlows
      cases hpumps
      exact ⟨hends.level, hpump.trans hpump'.symm, hexitFlows⟩

end Run

theorem trace_append_of_error {front : List Step} {failure : Failure}
    (h : trace front = .error failure) (back : List Step) :
    trace (front ++ back) = .error failure := by
  rw [trace_eq] at h ⊢
  rw [Run.through_append]
  cases hfront : Run.start.through front with
  | error missing =>
    rw [hfront] at h
    exact h
  | ok run =>
    rw [hfront] at h
    cases h

theorem trace_append_of_through {front : List Step} {run : Run}
    (h : Run.start.through front = .ok run) (back : List Step) :
    trace (front ++ back) = ((run.through back).map Run.timeline).mapError .missing := by
  rw [trace_eq, Run.through_append_of_ok h]

/-- **Going on with a trace.** The trace of the steps in front is kept when others follow, and the
time goes on by their times one by one; a failure in front stays what it is. Of what is in front,
the steps behind notice the time, the last segment of each trace and what the last step left. -/
theorem trace_append_continues :
    (∀ front back whole, trace (front ++ back) = .ok whole →
      ∃ part, trace front = .ok part ∧
        (∀ quantity, part.curve quantity <+: whole.curve quantity) ∧
          ∃ durations, back.mapM Step.seconds = .ok durations ∧
            whole.elapsed = durations.foldl (· + ·) part.elapsed) ∧
    (∀ front back failure, trace front = .error failure →
      trace (front ++ back) = .error failure) ∧
    ∀ front other part otherPart, trace front = .ok part → trace other = .ok otherPart →
      part.EndsAlike otherPart → Step.legacy? front = Step.legacy? other → ∀ back,
        (∃ failure, trace (front ++ back) = .error failure ∧
          trace (other ++ back) = .error failure) ∨
        ∃ whole otherWhole, trace (front ++ back) = .ok whole ∧
          trace (other ++ back) = .ok otherWhole ∧ whole.elapsed = otherWhole.elapsed ∧
            ∀ quantity, ∃ added, whole.curve quantity = part.curve quantity ++ added ∧
              otherWhole.curve quantity = otherPart.curve quantity ++ added := by
  refine ⟨?_, ?_, ?_⟩
  · intro front back whole hwhole
    obtain ⟨final, hfinal, rfl⟩ := trace_eq_ok_iff.mp hwhole
    rw [Run.through_append] at hfinal
    obtain ⟨run, hrun, hback⟩ := bind_eq_ok_iff.mp hfinal
    exact ⟨run.timeline, trace_eq_ok_iff.mpr ⟨run, hrun, rfl⟩, Run.prefix_of_through hback,
      Run.exists_elapsed_eq_of_through hback⟩
  · intro front back failure hfailure
    exact trace_append_of_error hfailure back
  · intro front other part otherPart hpart hotherPart hends hlegacy back
    obtain ⟨run, hrun, rfl⟩ := trace_eq_ok_iff.mp hpart
    obtain ⟨otherRun, hotherRun, rfl⟩ := trace_eq_ok_iff.mp hotherPart
    have habreast := Run.abreast_of_legacy?_eq hrun hotherRun hends hlegacy
    rw [trace_append_of_through hrun, trace_append_of_through hotherRun]
    rcases habreast.through back with ⟨missing, hfails, hotherFails⟩ |
      ⟨later, otherLater, hlater, hotherLater, hstill, hgrows⟩
    · rw [hfails, hotherFails]
      exact .inl ⟨.missing missing, rfl, rfl⟩
    · rw [hlater, hotherLater]
      exact .inr ⟨later.timeline, otherLater.timeline, rfl, rfl, hstill.timeline.elapsed_eq, hgrows⟩

/-- A flow step at the temperature and the flow. -/
def soak (temperature flow : Float) : Step :=
  ⟨[.known .seconds (10.0 : Float), .known .transition Transition.fast, .known .pump Pump.flow,
    .known .temperature temperature, .known .flow flow]⟩

def warmStart : List Step :=
  [soak 90.0 4.0, soak 92.0 2.0]

/-- Another way to the same end. -/
def coolStart : List Step :=
  [soak 88.0 6.0, soak 92.0 2.0]

theorem exists_trace_starts :
    ∃ part otherPart, trace warmStart = .ok part ∧ trace coolStart = .ok otherPart ∧
      part ≠ otherPart ∧ part.EndsAlike otherPart := by
  have htraces : ((trace warmStart).toOption.any fun part =>
      (trace coolStart).toOption.any fun otherPart =>
        decide (part ≠ otherPart ∧ part.EndsAlike otherPart)) = true := by
    decide +kernel
  simp only [Option.any_eq_true, toOption_eq_some_iff, decide_eq_true_eq] at htraces
  obtain ⟨part, hpart, otherPart, hotherPart, hends⟩ := htraces
  exact ⟨part, otherPart, hpart, hotherPart, hends⟩

theorem exists_trace_starts_append :
    ∃ part otherPart whole otherWhole,
      trace warmStart = .ok part ∧ trace coolStart = .ok otherPart ∧
      part ≠ otherPart ∧ part.EndsAlike otherPart ∧
      trace (warmStart ++ [soak 93.0 1.0]) = .ok whole ∧
      trace (coolStart ++ [soak 93.0 1.0]) = .ok otherWhole ∧
      (∀ quantity, part.curve quantity <+: whole.curve quantity) ∧
      (∀ quantity, ∃ added, whole.curve quantity = part.curve quantity ++ added ∧
        otherWhole.curve quantity = otherPart.curve quantity ++ added) ∧
      trace ([⟨[]⟩] ++ warmStart) = .error (.missing ⟨"seconds", "step"⟩) := by
  obtain ⟨part, otherPart, hpart, hotherPart, hne, hends⟩ := exists_trace_starts
  have hessentials : ∀ step ∈ warmStart ++ [soak 93.0 1.0],
      ∃ essentials, step.essentials = .ok essentials := by
    simp only [warmStart, List.cons_append, List.nil_append, List.forall_mem_cons]
    exact ⟨⟨⟨_, _, _⟩, rfl⟩, ⟨⟨_, _, _⟩, rfl⟩, ⟨⟨_, _, _⟩, rfl⟩, by simp⟩
  obtain ⟨whole, hwhole⟩ := exists_trace_eq_ok_iff.mpr hessentials
  obtain ⟨found, hfound, hprefix, _⟩ := trace_append_continues.1 _ _ _ hwhole
  rw [hpart] at hfound
  cases hfound
  have hfails : trace [⟨[]⟩] = .error (.missing ⟨"seconds", "step"⟩) := rfl
  have hbare := trace_append_continues.2.1 _ warmStart _ hfails
  have hlegacy : Step.legacy? warmStart = Step.legacy? coolStart := by
    simp [Step.legacy?, warmStart, coolStart]
  rcases trace_append_continues.2.2 _ _ part otherPart hpart hotherPart hends hlegacy
      [soak 93.0 1.0] with ⟨failure, hfailure, _⟩ | ⟨again, otherWhole, hagain, hotherWhole, _, hadded⟩
  · rw [hwhole] at hfailure
    cases hfailure
  · rw [hwhole] at hagain
    cases hagain
    exact ⟨part, otherPart, whole, otherWhole, hpart, hotherPart, hne, hends, hwhole, hotherWhole,
      hprefix, hadded, hbare⟩

end Timeline

end Espresso
