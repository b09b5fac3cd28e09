import Espresso.Proofs.Trace.Clock
import Espresso.Proofs.Trace.Continuation

/-!
# Continuity

Every segment of a trace goes on where the one before it ended. It is a jump, or a line through the
whole time of one step, to a value which that step gives; and on such a line the value changes only
where a smooth step draws it on a trace that has begun.

Holding, ramping, correcting and dropping each look up anew where the trace stands. So what they
have in common is said of one segment and of the trace that it is put behind.
-/

namespace Espresso

namespace Quantity

def ofChannel : Pump → Quantity
  | .flow => .flow
  | .pressure => .pressure

theorem ofChannel_ne_temperature (channel : Pump) : ofChannel channel ≠ .temperature := by
  cases channel <;> decide

end Quantity

/-- The values that a step gives a curve: its temperatures, or its targets for the channel that it
drives. -/
def Step.sources (step : Step) : Quantity → List Float
  | .temperature => step.temperatures
  | .pressure => if step.pump? = some .pressure then step.targets .pressure else []
  | .flow => if step.pump? = some .flow then step.targets .flow else []

theorem Step.sources_ofChannel {step : Step} {pump : Pump} (h : step.pump = .ok pump) :
    step.sources (.ofChannel pump) = step.targets pump := by
  have hpump : step.pump? = some pump := require_eq_ok_iff.mp h
  cases pump <;> exact if_pos hpump

namespace Trace

/-- The second trace is the first one with segments put behind it, each of them where it fits. -/
inductive Grows (fits : Trace → Segment → Prop) (before : Trace) : Trace → Prop
  | refl : Grows fits before before
  | put {after : Trace} {segment : Segment} :
      Grows fits before after → fits after segment → Grows fits before (after ++ [segment])

namespace Grows

variable {fits : Trace → Segment → Prop} {before middle after : Trace}

theorem trans (hbefore : Grows fits before middle) (hafter : Grows fits middle after) :
    Grows fits before after := by
  induction hafter with
  | refl => exact hbefore
  | put _ hfits ih => exact .put ih hfits

theorem foldl {α : Type} {draw : Trace → α → Trace} {items : List α}
    (hdraw : ∀ item ∈ items, ∀ trace, Grows fits trace (draw trace item)) (trace : Trace) :
    Grows fits trace (items.foldl draw trace) := by
  induction items generalizing trace with
  | nil => exact .refl
  | cons item items ih =>
    apply (hdraw item List.mem_cons_self trace).trans
    exact ih (fun other hother => hdraw other (List.mem_cons_of_mem _ hother)) _

theorem isPrefix (h : Grows fits before after) : before <+: after := by
  induction h with
  | refl => exact List.prefix_refl before
  | put _ _ ih => exact ih.trans (List.prefix_append _ _)

/-- A segment was there before, or it was put behind what stands in front of it. -/
theorem fits_of_append (h : Grows fits before after) {earlier later : Trace} {segment : Segment}
    (hafter : after = earlier ++ segment :: later) :
    (∃ rest, before = earlier ++ segment :: rest) ∨ before <+: earlier ∧ fits earlier segment := by
  induction h generalizing later with
  | refl => exact .inl ⟨later, hafter⟩
  | @put after last hgrows hfits ih =>
    rcases List.eq_nil_or_concat' later with rfl | ⟨others, other, rfl⟩
    · obtain ⟨rfl, hsegment⟩ := List.append_inj' hafter rfl
      cases hsegment
      exact .inr ⟨hgrows.isPrefix, hfits⟩
    · rw [← List.cons_append, ← List.append_assoc] at hafter
      exact ih (List.append_inj' hafter rfl).1

end Grows

end Trace

/-- What a step draws a curve with. -/
structure Stroke where
  quantity : Quantity
  span : Span
  transition : Transition
  sources : List Float

namespace Stroke

variable {stroke : Stroke} {trace : Trace} {previous target : Float}

/-- A line through the time of the step to one of its values. -/
structure Leads (stroke : Stroke) (earlier : Trace) (segment : Segment) : Prop where
  x1_eq : segment.x1 = stroke.span.start
  x2_eq : segment.x2 = stroke.span.stop
  source : segment.y2 ∈ stroke.sources
  sloped : segment.y1 ≠ segment.y2 →
    stroke.quantity ≠ .temperature ∧ stroke.transition = .smooth ∧ earlier ≠ []

/-- A segment goes on where the trace stands; the first one of a channel rises from zero. -/
structure Fits (stroke : Stroke) (earlier : Trace) (segment : Segment) : Prop where
  joined : ∀ last, earlier.getLast? = some last → segment.y1 = last.y2
  rising : stroke.quantity ≠ .temperature → earlier = [] →
    segment.x1 = segment.x2 ∧ segment.y1 = 0.0
  vertical_or_leads : segment.x1 = segment.x2 ∨ stroke.Leads earlier segment

/-- The trace has got to the value. A channel that was never driven is at zero. -/
structure Stands (stroke : Stroke) (trace : Trace) (value : Float) : Prop where
  joined : ∀ last, trace.getLast? = some last → value = last.y2
  rising : stroke.quantity ≠ .temperature → trace = [] → value = 0.0

theorem stands_of_level? (h : trace.level? = some previous) : stroke.Stands trace previous := by
  obtain ⟨last, hlast, rfl⟩ := Option.map_eq_some_iff.mp h
  constructor
  · intro other hother
    rw [hlast] at hother
    cases hother
    rfl
  · rintro _ rfl
    cases hlast

theorem stands_concat (trace : Trace) (segment : Segment) :
    stroke.Stands (trace ++ [segment]) segment.y2 := by
  constructor
  · intro last hlast
    rw [List.getLast?_concat] at hlast
    cases hlast
    rfl
  · intro _ hnil
    exact absurd hnil (List.concat_ne_nil segment trace)

theorem fits_jump (h : stroke.Stands trace previous) (time value : Float) :
    stroke.Fits trace ⟨time, previous, time, value⟩ :=
  ⟨h.joined, fun hquantity hnil => ⟨rfl, h.rising hquantity hnil⟩, .inl rfl⟩

/-- A value is held on a trace that has begun, or from the first on if it is a temperature. -/
theorem fits_level (h : stroke.Stands trace target) (htarget : target ∈ stroke.sources)
    (hbegun : stroke.quantity ≠ .temperature → trace ≠ []) :
    stroke.Fits trace ⟨stroke.span.start, target, stroke.span.stop, target⟩ := by
  refine ⟨h.joined, fun hquantity hnil => absurd hnil (hbegun hquantity), .inr ?_⟩
  exact ⟨rfl, rfl, htarget, fun hsloped => absurd rfl hsloped⟩

theorem fits_slope (h : stroke.Stands trace previous) (htarget : target ∈ stroke.sources)
    (hquantity : stroke.quantity ≠ .temperature) (hsmooth : stroke.transition = .smooth)
    (hbegun : trace ≠ []) :
    stroke.Fits trace ⟨stroke.span.start, previous, stroke.span.stop, target⟩ := by
  refine ⟨h.joined, fun _ hnil => absurd hnil hbegun, .inr ?_⟩
  exact ⟨rfl, rfl, htarget, fun _ => ⟨hquantity, hsmooth, hbegun⟩⟩

theorem grows_hold (h : stroke.Stands trace previous) (htarget : target ∈ stroke.sources) :
    trace.Grows stroke.Fits (trace.hold stroke.span previous target) := by
  have hjump := Trace.Grows.put .refl (fits_jump h stroke.span.start target)
  have hhold := hjump.put
    (fits_level (stands_concat _ _) htarget fun _ => List.concat_ne_nil _ trace)
  unfold Trace.hold
  rw [List.append_cons]
  exact hhold

theorem grows_correct (h : stroke.Stands trace previous) (hbegun : trace ≠ [])
    (correction : Option Float) {corrected : Trace × Float}
    (hcorrected : trace.correct stroke.span previous correction = corrected) :
    trace.Grows stroke.Fits corrected.1 ∧ stroke.Stands corrected.1 corrected.2 ∧
      corrected.1 ≠ [] := by
  cases correction with
  | none =>
    cases hcorrected
    exact ⟨.refl, h, hbegun⟩
  | some correction =>
    cases hcorrected
    exact ⟨.put .refl (fits_jump h _ _), stands_concat _ _, List.concat_ne_nil _ trace⟩

theorem grows_drive (trace : Trace) (hquantity : stroke.quantity ≠ .temperature)
    (htarget : target ∈ stroke.sources) (correction : Option Float) :
    trace.Grows stroke.Fits (trace.drive stroke.span target stroke.transition correction) := by
  unfold Trace.drive
  cases hlevel : trace.level? with
  | none =>
    obtain rfl := Trace.level?_eq_none_iff.mp hlevel
    exact grows_hold ⟨nofun, fun _ _ => rfl⟩ htarget
  | some level =>
    have hbegun : trace ≠ [] := by
      intro hempty
      rw [Trace.level?_eq_none_iff.mpr hempty] at hlevel
      cases hlevel
    dsimp only
    generalize hcorrected : trace.correct stroke.span level correction = corrected
    obtain ⟨hgrows, hstands, hgoesOn⟩ :=
      grows_correct (stands_of_level? hlevel) hbegun correction hcorrected
    cases htransition : stroke.transition with
    | smooth => exact hgrows.put (fits_slope hstands htarget hquantity htransition hgoesOn)
    | fast => exact hgrows.trans (grows_hold hstands htarget)

theorem grows_regulate (trace : Trace) (hquantity : stroke.quantity = .temperature)
    (htarget : target ∈ stroke.sources) :
    trace.Grows stroke.Fits (trace.regulate stroke.span target) := by
  unfold Trace.regulate
  cases hlevel : trace.level? with
  | none =>
    obtain rfl := Trace.level?_eq_none_iff.mp hlevel
    exact .put .refl (fits_level ⟨nofun, fun hne => absurd hquantity hne⟩ htarget
      fun hne => absurd hquantity hne)
  | some level => exact grows_hold (stands_of_level? hlevel) htarget

theorem grows_dropToZero (trace : Trace) : trace.Grows stroke.Fits trace.dropToZero := by
  cases hlast : trace.getLast? with
  | none =>
    unfold Trace.dropToZero
    rw [hlast]
    exact .refl
  | some last =>
    have hlevel : trace.level? = some last.y2 := Option.map_eq_some_iff.mpr ⟨last, hlast, rfl⟩
    rw [Trace.dropToZero_eq hlast]
    exact .put .refl (fits_jump (stands_of_level? hlevel) last.x2 0.0)

end Stroke

namespace Timeline

namespace Run

def stroke (run : Run) (step : Step) (essentials : Step.Essentials) (quantity : Quantity) :
    Stroke where
  quantity := quantity
  span := (run.phase essentials).span
  transition := essentials.transition
  sources := step.sources quantity

variable {run : Run} {step : Step} {essentials : Step.Essentials}

theorem grows_channel_pass (hpump : step.pump = .ok essentials.pump) (channel : Pump) :
    (run.timeline.channel channel).Grows (run.stroke step essentials (.ofChannel channel)).Fits
      ((run.pass step essentials).timeline.channel channel) := by
  rcases essentials.pump.eq_or_eq_other channel with rfl | rfl
  · rw [channel_pump_pass]
    refine .foldl (fun target htarget trace => ?_) _
    rw [← Step.sources_ofChannel hpump] at htarget
    exact Stroke.grows_drive trace (Quantity.ofChannel_ne_temperature essentials.pump) htarget _
  · rw [channel_other_pass]
    refine .foldl (fun _ _ trace => ?_) _
    unfold Phase.release
    split
    · exact Stroke.grows_dropToZero trace
    · exact .refl

/-- All that a step draws fits where it is put. -/
theorem grows_pass (hpump : step.pump = .ok essentials.pump) (quantity : Quantity) :
    (run.timeline.curve quantity).Grows (run.stroke step essentials quantity).Fits
      ((run.pass step essentials).timeline.curve quantity) := by
  cases quantity with
  | temperature =>
    show Trace.Grows _ _ (run.pass step essentials).timeline.temperature
    rw [temperature_pass]
    exact .foldl (fun target htarget trace => Stroke.grows_regulate trace rfl htarget) _
  | pressure => exact grows_channel_pass hpump .pressure
  | flow => exact grows_channel_pass hpump .flow

end Run

/-- The step after those in front draws the segment behind the earlier ones. It leads through the
time of the step to a value of the step, and level unless the step is smooth and the curve, of
pressure or of flow, has begun. -/
structure DrawnBy (front : List Step) (step : Step) (quantity : Quantity) (earlier : Trace)
    (segment : Segment) : Prop where
  placed : ∃ before after, trace front = .ok before ∧ trace (front ++ [step]) = .ok after ∧
    before.curve quantity <+: earlier ∧ earlier ++ [segment] <+: after.curve quantity
  x1_eq : segment.x1 = Step.clock front
  x2_eq : segment.x2 = Step.clock (front ++ [step])
  source : segment.y2 ∈ step.sources quantity
  sloped : segment.y1 ≠ segment.y2 →
    quantity ≠ .temperature ∧ step.transition = .ok .smooth ∧ earlier ≠ []

/-- The segment goes on where the earlier ones ended, and the first one of a channel rises from
zero. It is vertical, or one of the steps draws it. -/
structure Continuous (steps : List Step) (quantity : Quantity) (earlier : Trace)
    (segment : Segment) : Prop where
  joined : ∀ last, earlier.getLast? = some last → segment.y1 = last.y2
  rising : quantity ≠ .temperature → earlier = [] → segment.x1 = segment.x2 ∧ segment.y1 = 0.0
  vertical_or_drawn : segment.x1 = segment.x2 ∨
    ∃ front step back, steps = front ++ step :: back ∧
      DrawnBy front step quantity earlier segment

theorem Continuous.append {steps : List Step} {quantity : Quantity} {earlier : Trace}
    {segment : Segment} (h : Continuous steps quantity earlier segment) (more : List Step) :
    Continuous (steps ++ more) quantity earlier segment := by
  refine ⟨h.joined, h.rising, h.vertical_or_drawn.imp id ?_⟩
  rintro ⟨front, step, back, rfl, hdrawn⟩
  exact ⟨front, step, back ++ more, by simp, hdrawn⟩

namespace Run

/-- The steps have led to the run, the clock has summed up their times, and all that they have drawn
is continuous. -/
structure DrawsOn (front : List Step) (run : Run) : Prop where
  through_eq : start.through front = .ok run
  elapsed_eq : run.timeline.elapsed = Step.clock front
  continuous : ∀ quantity earlier segment later,
    run.timeline.curve quantity = earlier ++ segment :: later →
      Continuous front quantity earlier segment

theorem drawsOn_start : DrawsOn [] start where
  through_eq := rfl
  elapsed_eq := rfl
  continuous quantity earlier segment later h := by
    have hempty : start.timeline.curve quantity = [] := by cases quantity <;> rfl
    rw [hempty] at h
    exact absurd h.symm (List.append_ne_nil_of_right_ne_nil _ (List.cons_ne_nil _ _))

theorem DrawsOn.pass {front : List Step} {run : Run} {step : Step} {essentials : Step.Essentials}
    (h : run.DrawsOn front) (hessentials : step.essentials = .ok essentials) :
    (run.pass step essentials).DrawsOn (front ++ [step]) := by
  obtain ⟨hseconds, htransition, hpump⟩ := Step.essentials_eq_ok_iff.mp hessentials
  have hthrough : start.through (front ++ [step]) = .ok (run.pass step essentials) :=
    through_concat_of_ok h.through_eq hessentials
  have hclock : Step.clock front + essentials.duration = Step.clock (front ++ [step]) :=
    (Step.clock_append_singleton front hseconds).symm
  have helapsed : (run.pass step essentials).timeline.elapsed = Step.clock (front ++ [step]) := by
    rw [← hclock, ← h.elapsed_eq]
    rfl
  refine ⟨hthrough, helapsed, fun quantity earlier segment later hcurve => ?_⟩
  rcases (grows_pass hpump quantity).fits_of_append hcurve with ⟨rest, hbefore⟩ | ⟨hbefore, hfits⟩
  · exact (h.continuous quantity earlier segment rest hbefore).append [step]
  · refine ⟨hfits.joined, hfits.rising, hfits.vertical_or_leads.imp id fun hleads => ?_⟩
    refine ⟨front, step, [], rfl, ?_, ?_, ?_, hleads.source, ?_⟩
    · refine ⟨run.timeline, (run.pass step essentials).timeline,
        trace_eq_ok_iff.mpr ⟨run, h.through_eq, rfl⟩, trace_eq_ok_iff.mpr ⟨_, hthrough, rfl⟩,
        hbefore, ?_⟩
      rw [hcurve]
      exact ⟨later, List.append_assoc earlier [segment] later⟩
    · exact hleads.x1_eq.trans h.elapsed_eq
    · exact hleads.x2_eq.trans helapsed
    · intro hsloped
      obtain ⟨hquantity, hsmooth, hbegun⟩ := hleads.sloped hsloped
      exact ⟨hquantity, htransition.trans (congrArg Except.ok hsmooth), hbegun⟩

theorem DrawsOn.through {front steps : List Step} {run final : Run} (h : run.DrawsOn front)
    (hfinal : run.through steps = .ok final) : final.DrawsOn (front ++ steps) :=
  kept_through (fun _ _ _ _ _ hessentials hdraws => hdraws.pass hessentials) h hfinal

end Run

/-- **Continuity of traces.** Whatever steps are traced, each segment of each curve goes on where
the one before it ended; a channel starts with a jump from zero; and what is no jump leads from the
start of one step to its end and to a value of this step. Only a smooth step changes the value on
the way, and only on a channel that has begun. -/
theorem continuous_of_trace {steps : List Step} {timeline : Timeline}
    (h : trace steps = .ok timeline) (quantity : Quantity) {earlier later : Trace}
    {segment : Segment} (hcurve : timeline.curve quantity = earlier ++ segment :: later) :
    Continuous steps quantity earlier segment := by
  obtain ⟨final, hfinal, rfl⟩ := trace_eq_ok_iff.mp h
  have hdraws := Run.drawsOn_start.through hfinal
  rw [List.nil_append] at hdraws
  exact hdraws.continuous quantity earlier segment later hcurve

/-- The second step goes back in time and has two targets. -/
def unevenSteps : List Step :=
  [soak 90.0 4.0,
    ⟨[.known .seconds (-3.0 : Float), .known .transition Transition.smooth, .known .pump Pump.flow,
      .known .flow (2.0 : Float), .known .flow (3.0 : Float)]⟩]

theorem continuous_unevenSteps :
    ∃ timeline earlier, trace unevenSteps = .ok timeline ∧
      timeline.curve .flow = earlier ++ [⟨10.0, 2.0, 7.0, 3.0⟩] ∧ earlier.length = 3 ∧
        Continuous unevenSteps .flow earlier ⟨10.0, 2.0, 7.0, 3.0⟩ := by
  have hflow : (trace unevenSteps).toOption.map (·.curve .flow) =
      some ([⟨0.0, 0.0, 0.0, 4.0⟩, ⟨0.0, 4.0, 10.0, 4.0⟩, ⟨10.0, 4.0, 7.0, 2.0⟩] ++
        [⟨10.0, 2.0, 7.0, 3.0⟩]) := by
    decide +kernel
  obtain ⟨timeline, htimeline, hcurve⟩ := Option.map_eq_some_iff.mp hflow
  have htrace := toOption_eq_some_iff.mp htimeline
  exact ⟨timeline, _, htrace, hcurve, rfl, continuous_of_trace htrace .flow hcurve⟩

end Timeline

end Espresso
