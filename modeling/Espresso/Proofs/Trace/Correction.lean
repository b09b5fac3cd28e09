import Espresso.Proofs.Trace.Handover
import Espresso.Proofs.Trace.Relevance

/-!
# Corrections

A flow step after a step that may end early on a flow starts with a jump to that flow, as long as
the flow has begun. This is all that an exit does to a trace. Two lists of steps that differ in the
exit of one step draw the same, but for the flow of the step right after it: this one gets to its
target at its end from whatever flow it started with.
-/

namespace Espresso

/-! ### Exits on flow -/

namespace Step

/-- The step may end early on a flow, and this is the flow. -/
def EndsOnFlow (step : Step) (threshold : Float) : Prop :=
  step.first? .exitIf = some true ∧ ∃ exit : Exit, (exit = .flowOver ∨ exit = .flowUnder) ∧
    step.exitType? = some exit ∧ step.threshold? exit = some threshold

theorem exitFlow?_eq_some_iff {step : Step} {threshold : Float} :
    step.exitFlow? = some threshold ↔ step.EndsOnFlow threshold := by
  have hexits : step.exits = true ↔ step.first? .exitIf = some true := beq_iff_eq
  unfold exitFlow? EndsOnFlow
  rw [← hexits]
  cases step.exits with
  | false => simp
  | true =>
    cases htype : step.exitType? with
    | none => simp
    | some exit => cases exit <;> simp

end Step

/-! ### The way to a target -/

namespace Trace

/-- A step gets to its target by a ramp, or by a jump that it holds. -/
def way (span : Span) (transition : Transition) (previous target : Float) : Trace :=
  match transition with
  | .smooth => [⟨span.start, previous, span.stop, target⟩]
  | .fast => [⟨span.start, previous, span.start, target⟩, ⟨span.start, target, span.stop, target⟩]

theorem length_way (span : Span) (transition : Transition) (previous other target : Float) :
    (way span transition previous target).length = (way span transition other target).length := by
  cases transition <;> rfl

/-- A jump in front makes the way longer, whatever it leads to. -/
theorem way_ne_cons (span : Span) (transition : Transition) (previous other target : Float)
    (jump : Segment) :
    way span transition previous target ≠ jump :: way span transition other target := by
  intro heq
  have hlength := congrArg List.length heq
  rw [List.length_cons, length_way span transition previous other] at hlength
  omega

/-- What a flow step from a value on adds to its trace. -/
structure StartsFrom (front : List Step) (span : Span) (transition : Transition) (target : Float)
    (flow added : Trace) : Prop where
  corrected_iff : ∀ threshold,
    (∃ level, flow.level? = some level ∧ added =
      ⟨span.start, level, span.start, threshold⟩ :: way span transition threshold target) ↔
      flow ≠ [] ∧ ∃ last, front.getLast? = some last ∧ last.EndsOnFlow threshold
  uncorrected : ∀ level, flow.level? = some level →
    (∀ last, front.getLast? = some last → ∀ threshold, ¬ last.EndsOnFlow threshold) →
      added = way span transition level target
  begun : flow = [] → added = way span .fast 0.0 target

namespace StartsFrom

variable {front : List Step} {span : Span} {transition : Transition} {target level : Float}
  {flow : Trace}

theorem of_empty : StartsFrom front span transition target [] (way span .fast 0.0 target) where
  corrected_iff threshold := by
    constructor
    · rintro ⟨level, hlevel, _⟩
      cases hlevel
    · rintro ⟨hbegun, _⟩
      exact absurd rfl hbegun
  uncorrected level hlevel := by cases hlevel
  begun _ := rfl

theorem of_straight (hlevel : flow.level? = some level)
    (hexit : ∀ last, front.getLast? = some last → ∀ threshold, ¬ last.EndsOnFlow threshold) :
    StartsFrom front span transition target flow (way span transition level target) where
  corrected_iff threshold := by
    constructor
    · rintro ⟨_, _, hjump⟩
      exact (way_ne_cons _ _ _ _ _ _ hjump).elim
    · rintro ⟨_, last, hlast, hends⟩
      exact absurd hends (hexit last hlast threshold)
  uncorrected other hother _ := by
    cases hlevel.symm.trans hother
    rfl
  begun hempty := by
    rw [hempty] at hlevel
    cases hlevel

theorem of_corrected {correction : Float} {last : Step} (hlevel : flow.level? = some level)
    (hlast : front.getLast? = some last) (hends : last.EndsOnFlow correction) :
    StartsFrom front span transition target flow
      (⟨span.start, level, span.start, correction⟩ :: way span transition correction target) where
  corrected_iff threshold := by
    constructor
    · rintro ⟨_, _, hjump⟩
      simp only [List.cons.injEq, Segment.mk.injEq] at hjump
      obtain rfl := hjump.1.2.2.2
      refine ⟨?_, last, hlast, hends⟩
      rintro rfl
      cases hlevel
    · rintro ⟨_, other, hother, hthreshold⟩
      cases hlast.symm.trans hother
      rw [← Step.exitFlow?_eq_some_iff] at hends hthreshold
      cases hends.symm.trans hthreshold
      exact ⟨level, hlevel, rfl⟩
  uncorrected _ _ hexit := absurd hends (hexit last hlast correction)
  begun hempty := by
    rw [hempty] at hlevel
    cases hlevel

end StartsFrom

theorem startsFrom_driven {front : List Step} {correction : Option Float}
    (hcorrection : ∀ threshold, correction = some threshold ↔
      ∃ last, front.getLast? = some last ∧ last.EndsOnFlow threshold)
    (span : Span) (transition : Transition) (target : Float) (flow : Trace) :
    StartsFrom front span transition target flow
      (driven span target transition correction flow.tip?) := by
  cases hflow : flow.getLast? with
  | none =>
    obtain rfl := List.getLast?_eq_none_iff.mp hflow
    exact .of_empty
  | some last =>
    have hlevel : flow.level? = some last.y2 := Option.map_eq_some_iff.mpr ⟨last, hflow, rfl⟩
    have htip : flow.tip? = some (last.x2, last.y2) :=
      Option.map_eq_some_iff.mpr ⟨last, hflow, rfl⟩
    rw [htip]
    cases correction with
    | none =>
      have hway : driven span target transition none (some (last.x2, last.y2)) =
          way span transition last.y2 target := by cases transition <;> rfl
      rw [hway]
      refine .of_straight hlevel fun previous hprevious threshold hends => ?_
      cases (hcorrection threshold).mpr ⟨previous, hprevious, hends⟩
    | some correction =>
      have hjump : driven span target transition (some correction) (some (last.x2, last.y2)) =
          ⟨span.start, last.y2, span.start, correction⟩ ::
            way span transition correction target := by
        cases transition <;> rfl
      obtain ⟨previous, hprevious, hends⟩ := (hcorrection correction).mp rfl
      rw [hjump]
      exact .of_corrected hlevel hprevious hends

end Trace

namespace Timeline

namespace Run

theorem exitFlow_eq_some_iff_of_through {front : List Step} {run : Run}
    (h : start.through front = .ok run) (threshold : Float) :
    run.exitFlow = some threshold ↔
      ∃ last, front.getLast? = some last ∧ last.EndsOnFlow threshold := by
  simp only [← Step.exitFlow?_eq_some_iff]
  rcases legacy?_of_through h with ⟨hnone, _, hexitFlow⟩ | ⟨pump, hsome, _⟩
  · rw [hexitFlow, Option.map_eq_none_iff.mp hnone]
    simp
  · obtain ⟨last, hlast, hleft⟩ := Option.map_eq_some_iff.mp hsome
    have hexitFlow : last.exitFlow? = run.exitFlow := congrArg Prod.snd hleft
    rw [← hexitFlow, hlast]
    simp

theorem flow_pass_of_targets_eq {run : Run} {step : Step} {essentials : Step.Essentials}
    {target : Float} (hpump : essentials.pump = .flow) (htargets : step.targets .flow = [target]) :
    (run.pass step essentials).timeline.flow = run.timeline.flow ++
      Trace.driven (run.phase essentials).span target essentials.transition run.exitFlow
        run.timeline.flow.tip? := by
  obtain ⟨duration, transition, pump⟩ := essentials
  obtain rfl : pump = .flow := hpump
  have hflow := run.channel_pump_pass step ⟨duration, transition, .flow⟩
  rw [htargets] at hflow
  rw [← Trace.drive_eq_append_driven]
  exact hflow

end Run

/-- A flow step to a single target, in a list that can be traced. -/
theorem exists_startsFrom {front back : List Step} {step : Step} {timeline : Timeline}
    {target : Float} (h : trace (front ++ step :: back) = .ok timeline)
    (hpump : step.pump = .ok .flow) (htargets : step.targets .flow = [target]) :
    ∃ transition before after added, step.transition = .ok transition ∧
      Around front step before after ∧ after.flow = before.flow ++ added ∧
        Trace.StartsFrom front ⟨Step.clock front, Step.clock (front ++ [step])⟩ transition target
          before.flow added := by
  obtain ⟨run, essentials, hrun, hessentials, haround⟩ := exists_around_pass h
  obtain ⟨_, htransition, hdrives⟩ := Step.essentials_eq_ok_iff.mp hessentials
  have hflow : essentials.pump = .flow := Except.ok.inj (hdrives.symm.trans hpump)
  refine ⟨essentials.transition, _, _, _, htransition, haround,
    Run.flow_pass_of_targets_eq hflow htargets, ?_⟩
  rw [Run.span_phase_of_through hrun hessentials]
  exact Trace.startsFrom_driven (Run.exitFlow_eq_some_iff_of_through hrun) _ _ _ _

end Timeline

/-! ### Steps that differ in their exits -/

/-- The keys that say whether, on what and at which value a step may end early. -/
def StepKey.ofExit : StepKey → Bool
  | .exitIf | .exitType => true
  | .exitFlowOver | .exitFlowUnder | .exitPressureOver | .exitPressureUnder => true
  | _ => false

/-- What is left of a step without all that it says of exits. -/
def Step.withoutExits (step : Step) : List Property :=
  step.properties.filter fun property => !property.key?.any StepKey.ofExit

theorem Step.values_withoutExits (step : Step) {key : StepKey} (hkey : key.ofExit = false) :
    Entry.values key step.withoutExits = step.values key := by
  show _ = Entry.values key step.properties
  unfold Step.withoutExits Entry.values
  rw [List.filterMap_filter]
  congr 1
  funext property
  by_cases hexit : property.key?.any StepKey.ofExit = true
  · have hne : property.key? ≠ some key := by
      intro hsome
      rw [hsome, Option.any_some, hkey] at hexit
      cases hexit
    rw [Entry.value?_eq_none_of_key?_ne hne, ite_self]
  · rw [Bool.not_eq_true] at hexit
    rw [hexit]
    rfl

/-- Both steps give the same values to every key that is not about exits. -/
def Step.AlikeButExit (first second : Step) : Prop :=
  ∀ key, key.ofExit = false → first.values key = second.values key

namespace Step.AlikeButExit

variable {first second : Step}

theorem of_withoutExits_eq (h : first.withoutExits = second.withoutExits) :
    first.AlikeButExit second := by
  intro key hkey
  rw [← values_withoutExits first hkey, h, values_withoutExits second hkey]

theorem first?_eq (h : first.AlikeButExit second) {key : StepKey} (hkey : key.ofExit = false) :
    first.first? key = second.first? key := by
  rw [← head?_values, ← head?_values, h key hkey]

theorem essentials_eq (h : first.AlikeButExit second) : first.essentials = second.essentials := by
  apply essentials_congr
  intro key hkey
  simp only [List.mem_cons, List.not_mem_nil, or_false] at hkey
  rcases hkey with rfl | rfl | rfl | rfl
  all_goals exact h.first?_eq rfl

theorem timeline_pass_eq (h : first.AlikeButExit second) (run : Timeline.Run)
    (essentials : Step.Essentials) :
    (run.pass first essentials).timeline = (run.pass second essentials).timeline := by
  apply Timeline.Run.timeline_pass_congr
  · exact h .temperature rfl
  · cases essentials.pump with
    | flow => exact h .flow rfl
    | pressure => exact h .pressure rfl

end Step.AlikeButExit

namespace Timeline

/-- The same run with another exit of the step before. -/
def Run.withExit (run : Run) (exitFlow : Option Float) : Run :=
  { run with exitFlow := exitFlow }

namespace Phase

variable (phase : Phase)

/-- However it starts, a driven channel gets to the last target at the end of the step. -/
theorem tip?_foldl_draw (targets : List Float) (trace : Trace) :
    (targets.foldl phase.draw trace).tip? =
      (targets.getLast?.map fun target => (phase.span.stop, target)).or trace.tip? := by
  cases htarget : targets.getLast? with
  | none =>
    rw [List.getLast?_eq_none_iff.mp htarget]
    rfl
  | some target =>
    obtain ⟨added, last, hdraw, hstop, hvalue⟩ := phase.exists_foldl_draw_eq trace htarget
    rw [hdraw, Trace.tip?_append]
    simp [Trace.tip?, hstop, hvalue]

end Phase

namespace Run

variable (run : Run) (exitFlow : Option Float) (step : Step) (essentials : Step.Essentials)

theorem channel_pass_withExit {channel : Pump} (h : channel = .flow → essentials.pump ≠ .flow) :
    ((run.withExit exitFlow).pass step essentials).timeline.channel channel =
      (run.pass step essentials).timeline.channel channel := by
  rcases essentials.pump.eq_or_eq_other channel with rfl | rfl
  · have hdraw : ((run.withExit exitFlow).phase essentials).draw = (run.phase essentials).draw := by
      obtain ⟨duration, transition, pump⟩ := essentials
      cases pump with
      | flow => exact absurd rfl (h rfl)
      | pressure => rfl
    rw [channel_pump_pass, channel_pump_pass, hdraw]
    rfl
  · rw [channel_other_pass, channel_other_pass]
    rfl

theorem curve_pass_withExit {quantity : Quantity} (h : quantity ≠ .flow) :
    ((run.withExit exitFlow).pass step essentials).timeline.curve quantity =
      (run.pass step essentials).timeline.curve quantity := by
  cases quantity with
  | temperature =>
    show ((run.withExit exitFlow).pass step essentials).timeline.temperature =
      (run.pass step essentials).timeline.temperature
    rw [temperature_pass, temperature_pass]
    rfl
  | pressure =>
    have hpressure : Pump.pressure = .flow → essentials.pump ≠ .flow := nofun
    exact channel_pass_withExit run exitFlow step essentials hpressure
  | flow => exact absurd rfl h

theorem tip?_flow_pass_withExit :
    (((run.withExit exitFlow).pass step essentials).timeline.channel .flow).tip? =
      ((run.pass step essentials).timeline.channel .flow).tip? := by
  by_cases hpump : essentials.pump = .flow
  · rw [← hpump, channel_pump_pass, channel_pump_pass, Phase.tip?_foldl_draw,
      Phase.tip?_foldl_draw]
    rfl
  · rw [channel_pass_withExit run exitFlow step essentials fun _ => hpump]

theorem abreast_pass_withExit :
    Abreast (run.pass step essentials) ((run.withExit exitFlow).pass step essentials) := by
  refine ⟨⟨rfl, fun quantity => ?_⟩, rfl, rfl⟩
  by_cases hflow : quantity = .flow
  · rw [hflow]
    exact (tip?_flow_pass_withExit run exitFlow step essentials).symm
  · rw [curve_pass_withExit run exitFlow step essentials hflow]

end Run

section Other

variable {front rest back : List Step} {one other next : Step} {timeline : Timeline}

theorem Run.through_withExit {run : Run} (h : one.AlikeButExit other)
    (hrun : start.through (front ++ [one]) = .ok run) :
    start.through (front ++ [other]) = .ok (run.withExit other.exitFlow?) := by
  obtain ⟨before, essentials, hbefore, hessentials, hpass⟩ := exists_pass_of_through hrun
  cases hpass
  rw [through_concat_of_ok hbefore (h.essentials_eq.symm.trans hessentials)]
  exact congrArg Except.ok (eq_of_timeline_eq (h.timeline_pass_eq before essentials).symm rfl rfl)

/-- After one step more the two runs go on alike, and only their flows may be different. -/
theorem Run.exists_abreast {final : Run} (h : one.AlikeButExit other)
    (hfinal : start.through (front ++ one :: next :: rest) = .ok final) :
    ∃ first second, start.through (front ++ [one, next]) = .ok first ∧
      start.through (front ++ [other, next]) = .ok second ∧ first.through rest = .ok final ∧
        Abreast first second ∧
          ∀ quantity, quantity ≠ .flow →
            first.timeline.curve quantity = second.timeline.curve quantity := by
  rw [List.append_cons] at hfinal
  obtain ⟨run, essentials, hrun, hessentials, hrest⟩ := exists_pass_of_through hfinal
  have hother := through_withExit h hrun
  refine ⟨run.pass next essentials, (run.withExit other.exitFlow?).pass next essentials,
    ?_, ?_, hrest, abreast_pass_withExit run _ next essentials, fun quantity hquantity =>
      (curve_pass_withExit run _ next essentials hquantity).symm⟩
  · rw [List.append_cons]
    exact through_concat_of_ok hrun hessentials
  · rw [List.append_cons]
    exact through_concat_of_ok hother hessentials

/-- Runs that are abreast come to each step abreast. -/
theorem Run.Abreast.exists_of_through {first second final : Run} (h : first.Abreast second)
    (hfinal : first.through (front ++ next :: rest) = .ok final) :
    ∃ firstThere secondThere essentials, first.through front = .ok firstThere ∧
      second.through front = .ok secondThere ∧ next.essentials = .ok essentials ∧
        firstThere.Abreast secondThere := by
  obtain ⟨firstThere, essentials, hfirst, hessentials, _⟩ := exists_pass_of_through hfinal
  rcases h.through front with ⟨missing, hfails, _⟩ | ⟨found, secondThere, hfound, hsecond, hthere, _⟩
  · cases hfirst.symm.trans hfails
  · cases hfirst.symm.trans hfound
    exact ⟨firstThere, secondThere, essentials, hfirst, hsecond, hessentials, hthere⟩

/-- The segments that the step at the index draws of a curve. -/
def Adds (steps : List Step) (index : Nat) (quantity : Quantity) (added : Trace) : Prop :=
  ∃ front step back before after, steps = front ++ step :: back ∧ front.length = index ∧
    Around front step before after ∧ after.curve quantity = before.curve quantity ++ added

theorem exists_around {front back : List Step} {step : Step}
    (h : trace (front ++ step :: back) = .ok timeline) (quantity : Quantity) :
    ∃ before after added, Around front step before after ∧
      after.curve quantity = before.curve quantity ++ added := by
  obtain ⟨run, essentials, _, _, haround⟩ := exists_around_pass h
  obtain ⟨added, hadded, _⟩ := (Run.Abreast.refl run).growsAlike_pass step essentials quantity
  exact ⟨_, _, added, haround, hadded⟩

theorem exists_split_of_lt {α : Type} {items : List α} {index : Nat} (h : index < items.length) :
    ∃ front item back, items = front ++ item :: back ∧ front.length = index := by
  refine ⟨items.take index, items[index], items.drop (index + 1), ?_, ?_⟩
  · rw [List.getElem_cons_drop, List.take_append_drop]
  · exact List.length_take_of_le (Nat.le_of_lt h)

/-- A step in front of the one that differs. -/
theorem exists_adds_of_before {earlier later : List Step} {step : Step}
    (htrace : trace (earlier ++ step :: later ++ one :: back) = .ok timeline)
    (quantity : Quantity) :
    ∃ added, Adds (earlier ++ step :: later ++ one :: back) earlier.length quantity added ∧
      Adds (earlier ++ step :: later ++ other :: back) earlier.length quantity added := by
  have hsplit (last : Step) : earlier ++ step :: later ++ last :: back =
      earlier ++ step :: (later ++ last :: back) := by simp
  rw [hsplit] at htrace
  obtain ⟨before, after, added, haround, hadded⟩ := exists_around htrace quantity
  exact ⟨added, ⟨_, _, _, before, after, hsplit one, rfl, haround, hadded⟩,
    ⟨_, _, _, before, after, hsplit other, rfl, haround, hadded⟩⟩

/-- The step itself. -/
theorem exists_adds_of_alikeButExit (h : one.AlikeButExit other)
    (htrace : trace (front ++ one :: back) = .ok timeline) (quantity : Quantity) :
    ∃ added, Adds (front ++ one :: back) front.length quantity added ∧
      Adds (front ++ other :: back) front.length quantity added := by
  obtain ⟨before, after, added, haround, hadded⟩ := exists_around htrace quantity
  have hother : Around front other before after := by
    obtain ⟨run, hrun, rfl⟩ := trace_eq_ok_iff.mp haround.after_eq
    exact ⟨haround.before_eq, trace_eq_ok_iff.mpr ⟨_, Run.through_withExit h hrun, rfl⟩⟩
  exact ⟨added, ⟨_, _, _, before, after, rfl, rfl, haround, hadded⟩,
    ⟨_, _, _, before, after, rfl, rfl, hother, hadded⟩⟩

/-- A step behind the one right after. -/
theorem exists_adds_of_after {earlier later : List Step} {step : Step} (h : one.AlikeButExit other)
    (htrace : trace (front ++ one :: next :: (earlier ++ step :: later)) = .ok timeline)
    (quantity : Quantity) :
    ∃ added, Adds (front ++ one :: next :: (earlier ++ step :: later))
        (front.length + 2 + earlier.length) quantity added ∧
      Adds (front ++ other :: next :: (earlier ++ step :: later))
        (front.length + 2 + earlier.length) quantity added := by
  have hsplit (item : Step) : front ++ item :: next :: (earlier ++ step :: later) =
      front ++ [item, next] ++ earlier ++ step :: later := by simp
  have hlength (item : Step) :
      (front ++ [item, next] ++ earlier).length = front.length + 2 + earlier.length := by
    rw [List.length_append, List.length_append, List.length_cons, List.length_singleton]
  obtain ⟨final, hfinal, rfl⟩ := trace_eq_ok_iff.mp htrace
  obtain ⟨first, second, hfirst, hsecond, hlater, habreast, _⟩ := Run.exists_abreast h hfinal
  obtain ⟨firstThere, secondThere, essentials, hfirstThere, hsecondThere, hessentials, hthere⟩ :=
    habreast.exists_of_through hlater
  rw [← Run.through_append_of_ok hfirst] at hfirstThere
  rw [← Run.through_append_of_ok hsecond] at hsecondThere
  obtain ⟨added, hadded, hotherAdded⟩ := hthere.growsAlike_pass step essentials quantity
  exact ⟨added,
    ⟨_, _, _, _, _, hsplit one, hlength one, Run.around_of_through hfirstThere hessentials, hadded⟩,
    ⟨_, _, _, _, _, hsplit other, hlength other,
      Run.around_of_through hsecondThere hessentials, hotherAdded⟩⟩

/-- The cases are the steps in front, the step itself, and the ones from the second after it on. -/
theorem exists_adds (h : one.AlikeButExit other)
    (htrace : trace (front ++ one :: back) = .ok timeline) {index : Nat}
    (hindex : index < (front ++ one :: back).length) (hnext : index ≠ front.length + 1)
    (quantity : Quantity) :
    ∃ added, Adds (front ++ one :: back) index quantity added ∧
      Adds (front ++ other :: back) index quantity added := by
  rw [List.length_append, List.length_cons] at hindex
  rcases Nat.lt_trichotomy index front.length with hlt | rfl | hgt
  · obtain ⟨earlier, step, later, rfl, rfl⟩ := exists_split_of_lt hlt
    exact exists_adds_of_before htrace quantity
  · exact exists_adds_of_alikeButExit h htrace quantity
  · cases back with
    | nil =>
      rw [List.length_nil] at hindex
      omega
    | cons next rest =>
      rw [List.length_cons] at hindex
      obtain ⟨offset, rfl⟩ := Nat.exists_eq_add_of_le (show front.length + 2 ≤ index by omega)
      obtain ⟨earlier, step, later, rfl, rfl⟩ :=
        exists_split_of_lt (show offset < rest.length by omega)
      exact exists_adds_of_after h htrace quantity

theorem exists_trace_of_alikeButExit (h : one.AlikeButExit other)
    (htrace : trace (front ++ one :: back) = .ok timeline) :
    ∃ otherTimeline, trace (front ++ other :: back) = .ok otherTimeline ∧
      otherTimeline.elapsed = timeline.elapsed ∧
        ∀ quantity, quantity ≠ .flow → otherTimeline.curve quantity = timeline.curve quantity := by
  obtain ⟨final, hfinal, rfl⟩ := trace_eq_ok_iff.mp htrace
  cases back with
  | nil =>
    exact ⟨final.timeline, trace_eq_ok_iff.mpr ⟨_, Run.through_withExit h hfinal, rfl⟩, rfl,
      fun _ _ => rfl⟩
  | cons next rest =>
    obtain ⟨first, second, hfirst, hsecond, hrest, habreast, hcurve⟩ :=
      Run.exists_abreast h hfinal
    rcases habreast.through rest with ⟨missing, hfails, _⟩ |
      ⟨found, otherFinal, hfound, hotherFinal, hends, hgrows⟩
    · cases hrest.symm.trans hfails
    · cases hrest.symm.trans hfound
      have hother : Run.start.through (front ++ other :: next :: rest) = .ok otherFinal := by
        rw [List.append_cons, List.append_cons, List.append_assoc front]
        exact (Run.through_append_of_ok hsecond rest).trans hotherFinal
      refine ⟨otherFinal.timeline, trace_eq_ok_iff.mpr ⟨_, hother, rfl⟩,
        hends.timeline.elapsed_eq.symm, fun quantity hquantity => ?_⟩
      obtain ⟨added, hadded, hotherAdded⟩ := hgrows quantity
      rw [hadded, hotherAdded, hcurve quantity hquantity]

end Other

/-- **The correction.** A flow step to a single target sets out with a jump to the flow that the
step before it may end early on, as long as the flow has begun, and otherwise it goes straight from
the flow that there is. And an exit does nothing more than this: steps that differ in the exit of
one of them all have a trace if one list has, with the same temperature, pressure and time, and each
step but the one right after draws the same flow. -/
theorem corrects_and_confines :
    (∀ front step back timeline target, trace (front ++ step :: back) = .ok timeline →
      step.pump = .ok .flow → step.targets .flow = [target] →
        ∃ transition before after added, step.transition = .ok transition ∧
          Around front step before after ∧ after.flow = before.flow ++ added ∧
            Trace.StartsFrom front ⟨Step.clock front, Step.clock (front ++ [step])⟩ transition
              target before.flow added) ∧
    ∀ front one other back timeline, one.AlikeButExit other →
      trace (front ++ one :: back) = .ok timeline →
        ∃ otherTimeline, trace (front ++ other :: back) = .ok otherTimeline ∧
          otherTimeline.temperature = timeline.temperature ∧
          otherTimeline.pressure = timeline.pressure ∧
          otherTimeline.elapsed = timeline.elapsed ∧
            ∀ index, index < (front ++ one :: back).length → index ≠ front.length + 1 →
              ∃ added, Adds (front ++ one :: back) index .flow added ∧
                Adds (front ++ other :: back) index .flow added := by
  constructor
  · intro front step back timeline target htrace hpump htargets
    exact exists_startsFrom htrace hpump htargets
  · intro front one other back timeline halike htrace
    obtain ⟨otherTimeline, hother, helapsed, hcurve⟩ := exists_trace_of_alikeButExit halike htrace
    refine ⟨otherTimeline, hother, hcurve .temperature nofun, hcurve .pressure nofun, helapsed,
      fun index hindex hnext => exists_adds halike htrace hindex hnext .flow⟩

/-- A flow step that may end early on a flow. -/
def fade (threshold : Float) : Step :=
  ⟨(soak 90.0 4.0).properties ++ [.known .exitIf true, .known .exitType Exit.flowOver,
    .known .exitFlowOver threshold]⟩

/-- The flow step after the one that may end at a flow of 3 jumps to it. Without the exit there is
the same pressure, and the flow drops the same after both flow steps. -/
theorem corrects_and_confines_fade :
    ∃ before after timeline otherTimeline added,
      Around [fade 3.0] (soak 90.0 2.0) before after ∧
      after.flow = before.flow ++
        ⟨10.0, 4.0, 10.0, 3.0⟩ :: Trace.way ⟨10.0, 20.0⟩ .fast 3.0 2.0 ∧
      trace [fade 3.0, soak 90.0 2.0, press] = .ok timeline ∧
      trace [soak 90.0 4.0, soak 90.0 2.0, press] = .ok otherTimeline ∧
      otherTimeline.pressure = timeline.pressure ∧
      Adds [fade 3.0, soak 90.0 2.0, press] 2 .flow added ∧
      Adds [soak 90.0 4.0, soak 90.0 2.0, press] 2 .flow added := by
  have hessentials : ∀ step ∈ [fade 3.0, soak 90.0 2.0, press],
      ∃ essentials, step.essentials = .ok essentials := by
    simp only [List.forall_mem_cons]
    exact ⟨⟨⟨_, _, _⟩, rfl⟩, ⟨⟨_, _, _⟩, rfl⟩, ⟨⟨_, _, _⟩, rfl⟩, by simp⟩
  obtain ⟨timeline, htimeline⟩ := exists_trace_eq_ok_iff.mpr hessentials
  have halike : (fade 3.0).AlikeButExit (soak 90.0 4.0) := .of_withoutExits_eq rfl
  obtain ⟨transition, before, after, corrected, htransition, haround, hafter, hstarts⟩ :=
    corrects_and_confines.1 [fade 3.0] (soak 90.0 2.0) [press] timeline 2.0 htimeline rfl rfl
  cases htransition
  obtain ⟨otherTimeline, hother, _, hpressure, _, hadds⟩ :=
    corrects_and_confines.2 [] (fade 3.0) (soak 90.0 4.0) [soak 90.0 2.0, press] timeline halike
      htimeline
  obtain ⟨added, hadded, hotherAdded⟩ := hadds 2 (by decide) (by decide)
  have hstart : Step.clock [fade 3.0] = 10.0 := by decide +kernel
  have hstop : Step.clock [fade 3.0, soak 90.0 2.0] = 20.0 := by decide +kernel
  have hsoaked : trace [fade 3.0] = .ok soaked := toOption_eq_some_iff.mp (by decide +kernel)
  cases haround.before_eq.symm.trans hsoaked
  have hexit : (fade 3.0).EndsOnFlow 3.0 := ⟨rfl, .flowOver, .inl rfl, rfl, rfl⟩
  obtain ⟨level, hlevel, hjump⟩ :=
    (hstarts.corrected_iff 3.0).mpr ⟨List.cons_ne_nil _ _, _, rfl, hexit⟩
  cases hlevel
  rw [hjump, hstart] at hafter
  refine ⟨soaked, after, timeline, otherTimeline, added, haround, ?_, htimeline, hother, hpressure,
    hadded, hotherAdded⟩
  rw [hafter, ← hstop]
  rfl

end Timeline

end Espresso
