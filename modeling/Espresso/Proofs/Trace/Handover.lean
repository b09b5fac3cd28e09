import Espresso.Proofs.Trace.Continuity
import Mathlib.Data.List.Induction

/-!
# Handing over

The pump drives one channel at a time. A step without a target for this channel changes neither
channel. A step with targets draws them where it drives, and if the step before it drove the other
channel, that one drops to zero where its trace ended: once for each of the targets, since every
target takes the pump over anew.
-/

namespace Espresso

namespace Trace

variable {α : Type}

/-- The induction is on the items: whatever was dropped, the trace ends at the time it ended at. -/
theorem exists_foldl_dropToZero_eq {trace : Trace} {last : Segment}
    (hlast : trace.getLast? = some last) (items : List α) :
    ∃ drops, items.foldl (fun trace _ => trace.dropToZero) trace = trace ++ drops ∧
      drops.length = items.length ∧ (∀ drop ∈ drops, drop.VerticalAt last.x2) ∧
        drops.head? = items.head?.map fun _ => ⟨last.x2, last.y2, last.x2, 0.0⟩ := by
  induction items generalizing trace last with
  | nil => exact ⟨[], by simp⟩
  | cons item items ih =>
    obtain ⟨drops, hdrops, hlength, hvertical, _⟩ :=
      ih (List.getLast?_concat (a := ⟨last.x2, last.y2, last.x2, 0.0⟩) (l := trace))
    refine ⟨⟨last.x2, last.y2, last.x2, 0.0⟩ :: drops, ?_, ?_, ?_, rfl⟩
    · rw [List.foldl_cons, dropToZero_eq hlast, hdrops, ← List.append_cons]
    · rw [List.length_cons, List.length_cons, hlength]
    · intro drop hdrop
      rcases List.mem_cons.mp hdrop with rfl | hlater
      · exact ⟨rfl, rfl⟩
      · exact hvertical drop hlater

end Trace

namespace Timeline

/-- The timelines before and after the step that follows those in front. -/
structure Around (front : List Step) (step : Step) (before after : Timeline) : Prop where
  before_eq : trace front = .ok before
  after_eq : trace (front ++ [step]) = .ok after

/-- What a step over by `stop` does to the channels, when `previous` is the pump of the step before
it. -/
structure HandsOver (step : Step) (pump : Pump) (previous : Option Pump) (stop : Float)
    (before after : Timeline) : Prop where
  idle : step.targets pump = [] → ∀ channel, after.channel channel = before.channel channel
  driven : ∀ target, (step.targets pump).getLast? = some target →
    ∃ added last, after.channel pump = before.channel pump ++ added ++ [last] ∧
      last.x2 = stop ∧ last.y2 = target
  kept : ¬ (previous = some pump.other ∧ before.channel pump.other ≠ []) →
    after.channel pump.other = before.channel pump.other
  dropped : step.targets pump ≠ [] → previous = some pump.other →
    ∀ last, (before.channel pump.other).getLast? = some last →
      ∃ drops, after.channel pump.other = before.channel pump.other ++ drops ∧
        drops.length = (step.targets pump).length ∧ (∀ drop ∈ drops, drop.VerticalAt last.x2) ∧
          drops.head? = some ⟨last.x2, last.y2, last.x2, 0.0⟩

namespace Phase

variable (phase : Phase)

theorem exists_foldl_draw_eq (trace : Trace) {targets : List Float}
    {target : Float} (htarget : targets.getLast? = some target) :
    ∃ added last, targets.foldl phase.draw trace = trace ++ added ++ [last] ∧
      last.x2 = phase.span.stop ∧ last.y2 = target := by
  obtain ⟨earlier, rfl⟩ := List.getLast?_eq_some_iff.mp htarget
  have happends : Trace.Appends fun trace => earlier.foldl phase.draw trace := by
    apply Trace.Appends.foldl
    intro target
    exact Trace.appends_drive phase.span target phase.transition phase.drivenCorrection
  obtain ⟨added, hadded⟩ := happends
  have hearlier : earlier.foldl phase.draw trace = trace ++ added trace.tip? := hadded trace
  obtain ⟨jumps, last, hdraw, hreaches⟩ := (earlier.foldl phase.draw trace).exists_drive_eq
    phase.span target phase.transition phase.drivenCorrection
  refine ⟨added trace.tip? ++ jumps, last, ?_, hreaches.x2_eq, hreaches.y2_eq⟩
  calc (earlier ++ [target]).foldl phase.draw trace
      = phase.draw (earlier.foldl phase.draw trace) target := List.foldl_concat ..
    _ = earlier.foldl phase.draw trace ++ jumps ++ [last] := hdraw
    _ = trace ++ (added trace.tip? ++ jumps) ++ [last] := by
      rw [hearlier, List.append_assoc trace]

/-- A step keeps the channel that it does not drive, unless that one has something to drop. -/
theorem foldl_release_of_not {trace : Trace} {α : Type} (items : List α)
    (h : ¬ (phase.previousPump = some phase.pump.other ∧ trace ≠ [])) :
    items.foldl (fun trace _ => phase.release trace) trace = trace := by
  refine List.foldl_fixed' (fun _ => ?_) items
  unfold Phase.release
  split
  · next hswitch =>
    have hempty : trace = [] := by
      by_contra hne
      exact h ⟨hswitch, hne⟩
    rw [hempty]
    rfl
  · rfl

theorem exists_foldl_release_eq {trace : Trace} {last : Segment} {α : Type}
    (items : List α) (hswitch : phase.previousPump = some phase.pump.other)
    (hlast : trace.getLast? = some last) :
    ∃ drops, items.foldl (fun trace _ => phase.release trace) trace = trace ++ drops ∧
      drops.length = items.length ∧ (∀ drop ∈ drops, drop.VerticalAt last.x2) ∧
        drops.head? = items.head?.map fun _ => ⟨last.x2, last.y2, last.x2, 0.0⟩ := by
  have hrelease (trace : Trace) : phase.release trace = trace.dropToZero := if_pos hswitch
  simp only [hrelease]
  exact Trace.exists_foldl_dropToZero_eq hlast items

end Phase

namespace Run

theorem handsOver_pass (run : Run) (step : Step) (essentials : Step.Essentials) :
    HandsOver step essentials.pump run.pump (run.phase essentials).span.stop run.timeline
      (run.pass step essentials).timeline := by
  have hdriven := run.channel_pump_pass step essentials
  have hother := run.channel_other_pass step essentials
  constructor
  · intro hnone channel
    rw [hnone] at hdriven hother
    rcases essentials.pump.eq_or_eq_other channel with rfl | rfl
    · exact hdriven
    · exact hother
  · intro target htarget
    rw [hdriven]
    exact (run.phase essentials).exists_foldl_draw_eq _ htarget
  · intro hkept
    rw [hother]
    exact (run.phase essentials).foldl_release_of_not _ hkept
  · intro htargets hswitch last hlast
    obtain ⟨drops, hdrops, hlength, hvertical, hhead⟩ :=
      (run.phase essentials).exists_foldl_release_eq (step.targets essentials.pump) hswitch hlast
    refine ⟨drops, hother.trans hdrops, hlength, hvertical, ?_⟩
    rw [hhead, List.head?_eq_some_head htargets, Option.map_some]

theorem pump_eq_of_through {front : List Step} {run : Run} (h : start.through front = .ok run) :
    run.pump = Step.lastPump? front := by
  unfold Step.lastPump?
  rcases legacy?_of_through h with ⟨hnone, hpump, _⟩ | ⟨pump, hsome, hpump⟩
  · rw [hpump, Option.map_eq_none_iff.mp hnone]
    rfl
  · obtain ⟨last, hlast, hleft⟩ := Option.map_eq_some_iff.mp hsome
    have hfirst : last.pump? = some pump := Step.require_eq_ok_iff.mp (congrArg Prod.fst hleft)
    rw [hpump, hlast]
    exact hfirst.symm

theorem elapsed_eq_of_through {front : List Step} {run : Run}
    (h : start.through front = .ok run) : run.timeline.elapsed = Step.clock front :=
  (drawsOn_start.through h).elapsed_eq

theorem span_phase_of_through {front : List Step} {run : Run} {step : Step}
    {essentials : Step.Essentials} (hrun : start.through front = .ok run)
    (hessentials : step.essentials = .ok essentials) :
    (run.phase essentials).span = ⟨Step.clock front, Step.clock (front ++ [step])⟩ := by
  rw [← elapsed_eq_of_through hrun,
    ← elapsed_eq_of_through (through_concat_of_ok hrun hessentials)]
  rfl

theorem around_of_through {front : List Step} {run : Run} {step : Step}
    {essentials : Step.Essentials} (hrun : start.through front = .ok run)
    (hessentials : step.essentials = .ok essentials) :
    Around front step run.timeline (run.pass step essentials).timeline :=
  ⟨trace_eq_ok_iff.mpr ⟨run, hrun, rfl⟩,
    trace_eq_ok_iff.mpr ⟨_, through_concat_of_ok hrun hessentials, rfl⟩⟩

end Run

theorem curve_ofChannel (timeline : Timeline) (channel : Pump) :
    timeline.curve (.ofChannel channel) = timeline.channel channel := by
  cases channel <;> rfl

/-- Every segment is drawn by one of the steps. The induction takes the steps from the end: what the
last one did not draw was there before it. -/
theorem exists_around_of_prefix {steps : List Step} {timeline : Timeline}
    (h : trace steps = .ok timeline) {quantity : Quantity} {earlier : Trace} {segment : Segment}
    (hsegment : earlier ++ [segment] <+: timeline.curve quantity) :
    ∃ front step back before after, steps = front ++ step :: back ∧
      Around front step before after ∧ before.curve quantity <+: earlier ∧
        earlier ++ [segment] <+: after.curve quantity := by
  induction steps using List.reverseRecOn generalizing timeline with
  | nil =>
    cases h
    have hempty : Run.start.timeline.curve quantity = [] := by cases quantity <;> rfl
    rw [hempty] at hsegment
    exact absurd (List.prefix_nil.mp hsegment) (List.concat_ne_nil _ _)
  | append_singleton front step ih =>
    obtain ⟨final, hfinal, rfl⟩ := trace_eq_ok_iff.mp h
    obtain ⟨run, essentials, hrun, hessentials, hlast⟩ := Run.exists_pass_of_through hfinal
    cases hlast
    obtain ⟨_, _, hpump⟩ := Step.essentials_eq_ok_iff.mp hessentials
    by_cases hold : earlier ++ [segment] <+: run.timeline.curve quantity
    · obtain ⟨others, other, between, before, after, rfl, hfound⟩ :=
        ih (trace_eq_ok_iff.mpr ⟨run, hrun, rfl⟩) hold
      exact ⟨others, other, between ++ [step], before, after, by simp, hfound⟩
    · refine ⟨front, step, [], _, _, rfl, Run.around_of_through hrun hessentials, ?_, hsegment⟩
      have hbefore : run.timeline.curve quantity <+:
          (run.pass step essentials).timeline.curve quantity :=
        (Run.grows_pass hpump quantity).isPrefix
      rcases List.prefix_or_prefix_of_prefix hbefore hsegment with hshort | hlong
      · rcases List.prefix_concat_iff.mp hshort with heq | hprefix
        · exact absurd (heq ▸ List.prefix_refl _) hold
        · exact hprefix
      · exact absurd hlong hold

/-- A trace comes to each of its steps with a run and passes it. -/
theorem exists_around_pass {front back : List Step} {step : Step} {timeline : Timeline}
    (h : trace (front ++ step :: back) = .ok timeline) :
    ∃ run essentials, Run.start.through front = .ok run ∧ step.essentials = .ok essentials ∧
      Around front step run.timeline (run.pass step essentials).timeline := by
  obtain ⟨final, hfinal, _⟩ := trace_eq_ok_iff.mp h
  obtain ⟨run, essentials, hrun, hessentials, _⟩ := Run.exists_pass_of_through hfinal
  exact ⟨run, essentials, hrun, hessentials, Run.around_of_through hrun hessentials⟩

theorem exists_handsOver {front back : List Step} {step : Step} {timeline : Timeline}
    (h : trace (front ++ step :: back) = .ok timeline) :
    ∃ pump before after, step.pump = .ok pump ∧ Around front step before after ∧
      HandsOver step pump (Step.lastPump? front) (Step.clock (front ++ [step])) before after := by
  obtain ⟨run, essentials, hrun, hessentials, haround⟩ := exists_around_pass h
  obtain ⟨_, _, hpump⟩ := Step.essentials_eq_ok_iff.mp hessentials
  have hhandsOver := run.handsOver_pass step essentials
  rw [Run.pump_eq_of_through hrun, Run.span_phase_of_through hrun hessentials] at hhandsOver
  exact ⟨essentials.pump, _, _, hpump, haround, hhandsOver⟩

theorem HandsOver.pump_or_previous {step : Step} {pump channel : Pump} {previous : Option Pump}
    {stop : Float} {before after : Timeline} (h : HandsOver step pump previous stop before after)
    (hchanged : after.channel channel ≠ before.channel channel) :
    pump = channel ∨ previous = some channel := by
  rcases pump.eq_or_eq_other channel with rfl | rfl
  · exact .inl rfl
  · by_contra hneither
    exact hchanged (h.kept fun hboth => hneither (.inr hboth.1))

/-- **Handing over.** Whatever steps are traced, a step without a target for its pump changes
neither channel. One with targets leads the channel that it drives to the last of them by its end,
and it keeps the other channel, unless the step before it drove that one and its trace has begun:
then this trace drops as often as there are targets, where it ended. So a channel is drawn on by
those steps only that drive it or come right after one that did. -/
theorem handsOver_of_trace {steps : List Step} {timeline : Timeline}
    (h : trace steps = .ok timeline) :
    (∀ front step back, steps = front ++ step :: back →
      ∃ pump before after, step.pump = .ok pump ∧ Around front step before after ∧
        HandsOver step pump (Step.lastPump? front) (Step.clock (front ++ [step])) before after) ∧
    ∀ channel earlier segment later, timeline.channel channel = earlier ++ segment :: later →
      ∃ front step back before after, steps = front ++ step :: back ∧
        Around front step before after ∧ before.channel channel <+: earlier ∧
          earlier ++ [segment] <+: after.channel channel ∧
            (step.pump = .ok channel ∨ Step.lastPump? front = some channel) := by
  constructor
  · rintro front step back rfl
    exact exists_handsOver h
  · intro channel earlier segment later hchannel
    have hsegment : earlier ++ [segment] <+: timeline.curve (.ofChannel channel) := by
      rw [curve_ofChannel, hchannel]
      exact ⟨later, List.append_assoc earlier [segment] later⟩
    obtain ⟨front, step, back, before, after, rfl, haround, hbefore, hafter⟩ :=
      exists_around_of_prefix h hsegment
    rw [curve_ofChannel] at hbefore hafter
    refine ⟨front, step, back, before, after, rfl, haround, hbefore, hafter, ?_⟩
    have hchanged : after.channel channel ≠ before.channel channel := by
      intro hsame
      have hlength := (hafter.trans (hsame ▸ hbefore)).length_le
      rw [List.length_append, List.length_singleton] at hlength
      omega
    obtain ⟨pump, _, _, hpump, haround', hhandsOver⟩ := exists_handsOver h
    cases haround.before_eq.symm.trans haround'.before_eq
    cases haround.after_eq.symm.trans haround'.after_eq
    rcases hhandsOver.pump_or_previous hchanged with rfl | hprevious
    · exact .inl hpump
    · exact .inr hprevious

/-- A pressure step with two targets. -/
def press : Step :=
  ⟨[.known .seconds (5.0 : Float), .known .transition Transition.fast, .known .pump Pump.pressure,
    .known .pressure (6.0 : Float), .known .pressure (9.0 : Float)]⟩

/-- The timeline of a single flow step. -/
def soaked : Timeline where
  temperature := [⟨0.0, 90.0, 10.0, 90.0⟩]
  pressure := []
  flow := [⟨0.0, 0.0, 0.0, 4.0⟩, ⟨0.0, 4.0, 10.0, 4.0⟩]
  elapsed := 10.0

/-- After the flow step the flow drops twice, and the pressure gets to its second target. -/
theorem handsOver_soak_press :
    ∃ timeline drops added last, trace [soak 90.0 4.0, press] = .ok timeline ∧
      timeline.flow = soaked.flow ++ drops ∧ drops.length = 2 ∧
      drops.head? = some ⟨10.0, 4.0, 10.0, 0.0⟩ ∧
      timeline.pressure = added ++ [last] ∧ last.x2 = 15.0 ∧ last.y2 = 9.0 := by
  have hsoaked : trace [soak 90.0 4.0] = .ok soaked :=
    toOption_eq_some_iff.mp (by decide +kernel)
  have hessentials : ∀ step ∈ [soak 90.0 4.0, press],
      ∃ essentials, step.essentials = .ok essentials := by
    simp only [List.forall_mem_cons]
    exact ⟨⟨⟨_, _, _⟩, rfl⟩, ⟨⟨_, _, _⟩, rfl⟩, by simp⟩
  obtain ⟨timeline, htimeline⟩ := exists_trace_eq_ok_iff.mpr hessentials
  obtain ⟨pump, before, after, hpump, haround, hhandsOver⟩ :=
    (handsOver_of_trace htimeline).1 [soak 90.0 4.0] press [] rfl
  cases hpump
  cases haround.before_eq.symm.trans hsoaked
  cases haround.after_eq.symm.trans htimeline
  obtain ⟨added, last, hpressure, hstop, htarget⟩ := hhandsOver.driven 9.0 rfl
  obtain ⟨drops, hflow, hlength, _, hhead⟩ :=
    hhandsOver.dropped (List.cons_ne_nil _ _) rfl ⟨0.0, 4.0, 10.0, 4.0⟩ rfl
  have hclock : Step.clock [soak 90.0 4.0, press] = 15.0 := by decide +kernel
  exact ⟨timeline, drops, added, last, htimeline, hflow, hlength, hhead, hpressure,
    hstop.trans hclock, htarget⟩

end Timeline

end Espresso
