import Espresso.Proofs.Trace.Channel

/-!
# What a trace depends on

Of the properties of a step only some can show in a trace: its essentials and its name, its
temperatures, what makes up its exit on flow, and the targets of the channel that its pump drives.
Each of these counts with all of its values in their order, and the order between different keys
does not. Steps that agree on them can stand for one another, in front of and behind any others.
-/

namespace Espresso

namespace Entry

variable {K : Type} [Vocabulary K] [DecidableEq K] {key : K}

theorem key?_eq_some_of_value? {entry : Entry K} {value : (Vocabulary.kind key).Value}
    (h : entry.value? key = some value) : entry.key? = some key := by
  cases entry with
  | unknown name text => cases h
  | known found other =>
    by_cases hfound : found = key
    · exact congrArg some hfound
    · rw [value?_known_of_ne hfound] at h
      cases h

theorem value?_eq_none_of_key?_ne {entry : Entry K} (h : entry.key? ≠ some key) :
    entry.value? key = none := by
  refine Option.eq_none_iff_forall_ne_some.mpr fun value hvalue => ?_
  exact h (key?_eq_some_of_value? hvalue)

theorem values_append (key : K) (front back : List (Entry K)) :
    values key (front ++ back) = values key front ++ values key back :=
  List.filterMap_append

theorem values_cons_of_key?_ne {entry : Entry K} (h : entry.key? ≠ some key)
    (entries : List (Entry K)) : values key (entry :: entries) = values key entries := by
  unfold values
  rw [List.filterMap_cons_none (value?_eq_none_of_key?_ne h)]

/-- Two neighbours of different keys may change places. -/
theorem values_swap {one other : Entry K} (h : one.key? = some key → other.key? ≠ some key)
    (entries : List (Entry K)) :
    values key (one :: other :: entries) = values key (other :: one :: entries) := by
  have happend (first second : Entry K) : values key (first :: second :: entries) =
      values key [first] ++ (values key [second] ++ values key entries) := by
    rw [← values_append, ← values_append]
    rfl
  rw [happend, happend]
  by_cases hone : one.key? = some key
  · rw [values_cons_of_key?_ne (h hone)]
    rfl
  · rw [values_cons_of_key?_ne hone]
    rfl

end Entry

namespace Step

/-- The keys whose values can show in a trace. A target does so on the channel that the pump drives,
and would on either as long as there is no pump. -/
def Heeds (step : Step) : StepKey → Prop
  | .seconds | .transition | .pump | .temperature | .name => True
  | .exitIf | .exitType | .exitFlowOver | .exitFlowUnder => True
  | .flow => step.pump ≠ .ok .pressure
  | .pressure => step.pump ≠ .ok .flow
  | .volume | .weight | .sensor | .maxFlowOrPressure | .maxFlowOrPressureRange => False
  | .exitPressureOver | .exitPressureUnder => False

/-- Both steps give the same values to every key that the first one heeds. -/
def Alike (first second : Step) : Prop :=
  ∀ key, first.Heeds key → first.values key = second.values key

namespace Alike

variable {first second : Step}

theorem refl (step : Step) : step.Alike step :=
  fun _ _ => rfl

theorem first?_eq (h : first.Alike second) (key : StepKey) (hkey : first.Heeds key) :
    first.first? key = second.first? key := by
  rw [← head?_values, ← head?_values, h key hkey]

theorem essentials_eq (h : first.Alike second) : first.essentials = second.essentials := by
  apply essentials_congr
  intro key hkey
  simp only [List.mem_cons, List.not_mem_nil, or_false] at hkey
  rcases hkey with rfl | rfl | rfl | rfl
  all_goals exact h.first?_eq _ trivial

/-- An exit on pressure has no flow, so its threshold is not asked for. -/
theorem exitFlow?_eq (h : first.Alike second) : first.exitFlow? = second.exitFlow? := by
  have hexits : first.exits = second.exits := by
    unfold exits
    rw [h.first?_eq .exitIf trivial]
  have htype : first.exitType? = second.exitType? := h.first?_eq .exitType trivial
  have hover : first.threshold? .flowOver = second.threshold? .flowOver :=
    h.first?_eq .exitFlowOver trivial
  have hunder : first.threshold? .flowUnder = second.threshold? .flowUnder :=
    h.first?_eq .exitFlowUnder trivial
  unfold exitFlow?
  rw [hexits, htype, hover, hunder]

theorem temperatures_eq (h : first.Alike second) : first.temperatures = second.temperatures :=
  h .temperature trivial

theorem targets_eq (h : first.Alike second) {pump : Pump} (hpump : first.pump = .ok pump) :
    first.targets pump = second.targets pump := by
  cases pump with
  | flow =>
    have hheeds : first.Heeds .flow := by simp [Heeds, hpump]
    exact h .flow hheeds
  | pressure =>
    have hheeds : first.Heeds .pressure := by simp [Heeds, hpump]
    exact h .pressure hheeds

/-- To every run a step does what a step like it does. -/
theorem advance_eq (h : first.Alike second) (run : Timeline.Run) :
    run.advance first = run.advance second := by
  apply Timeline.Run.advance_congr
  · exact h.essentials_eq
  · exact h.temperatures_eq
  · intro pump hpump
    exact h.targets_eq hpump
  · exact h.exitFlow?_eq

end Alike

theorem alike_swap {one other : Property}
    (h : ∀ key, one.key? = some key → other.key? ≠ some key) (front back : List Property) :
    Alike ⟨front ++ one :: other :: back⟩ ⟨front ++ other :: one :: back⟩ := by
  intro key _
  unfold values
  rw [Entry.values_append, Entry.values_append, Entry.values_swap (h key)]

theorem alike_insert {property : Property} {front back : List Property}
    (h : ∀ key, property.key? = some key → ¬ Heeds ⟨front ++ back⟩ key) :
    Alike ⟨front ++ back⟩ ⟨front ++ property :: back⟩ := by
  intro key hkey
  have hother : property.key? ≠ some key := fun hproperty => h key hproperty hkey
  unfold values
  rw [Entry.values_append, Entry.values_append, Entry.values_cons_of_key?_ne hother]

end Step

namespace Timeline

theorem trace_congr {first second : List Step} (h : List.Forall₂ Step.Alike first second) :
    trace first = trace second := by
  have hadvance := h.imp fun _ _ halike => halike.advance_eq
  rw [trace_eq, trace_eq, Run.through_congr hadvance]

theorem trace_congr_at {first second : Step} (h : first.Alike second) (before after : List Step) :
    trace (before ++ first :: after) = trace (before ++ second :: after) := by
  have hsame (steps : List Step) : List.Forall₂ Step.Alike steps steps :=
    List.forall₂_same.mpr fun step _ => .refl step
  exact trace_congr (List.rel_append (hsame before) (.cons h (hsame after)))

/-- **What a trace depends on.** Steps that are alike one by one have the same trace, or fail alike.
So within a step two neighbours of different keys may change places, and a property may be put in or
left out whose key nobody knows or the step does not heed. -/
theorem trace_eq_of_alike :
    (∀ first second, List.Forall₂ Step.Alike first second → trace first = trace second) ∧
    (∀ (one other : Property) (front back : List Property) (before after : List Step),
      (∀ key, one.key? = some key → other.key? ≠ some key) →
        trace (before ++ ⟨front ++ one :: other :: back⟩ :: after) =
          trace (before ++ ⟨front ++ other :: one :: back⟩ :: after)) ∧
    ∀ (property : Property) (front back : List Property) (before after : List Step),
      (∀ key, property.key? = some key → ¬ Step.Heeds ⟨front ++ back⟩ key) →
        trace (before ++ ⟨front ++ property :: back⟩ :: after) =
          trace (before ++ ⟨front ++ back⟩ :: after) := by
  refine ⟨?_, ?_, ?_⟩
  · intro first second halike
    exact trace_congr halike
  · intro one other front back before after hkeys
    exact trace_congr_at (Step.alike_swap hkeys front back) before after
  · intro property front back before after hkeys
    exact (trace_congr_at (Step.alike_insert hkeys) before after).symm

/-- What a flow step with two targets and a name says, in some order. -/
def infusion : List Property :=
  [.known .seconds (10.0 : Float), .known .name "fill", .known .transition Transition.smooth,
    .known .pump Pump.flow, .known .flow (4.0 : Float), .known .temperature (90.0 : Float),
    .known .flow (2.0 : Float)]

/-- The same in another order, with a key nobody knows and a target of the other channel. -/
def shuffledInfusion : List Property :=
  [.known .pressure (9.0 : Float), .known .temperature (90.0 : Float), .known .flow (4.0 : Float),
    .unknown "popup" "stir", .known .flow (2.0 : Float), .known .pump Pump.flow,
    .known .transition Transition.smooth, .known .name "fill", .known .seconds (10.0 : Float)]

theorem trace_shuffledInfusion :
    List.Forall₂ Step.Alike [⟨infusion⟩] [⟨shuffledInfusion⟩] ∧
      trace [⟨infusion⟩] = trace [⟨shuffledInfusion⟩] ∧
        trace [⟨.known .name "fill" :: .known .seconds (10.0 : Float) :: infusion.drop 2⟩] =
          trace [⟨infusion⟩] ∧
        trace [⟨.known .pressure (9.0 : Float) :: infusion⟩] = trace [⟨infusion⟩] := by
  have halike : Step.Alike ⟨infusion⟩ ⟨shuffledInfusion⟩ := by
    intro key hkey
    cases key with
    | pressure => exact absurd rfl hkey
    | volume | weight | sensor | maxFlowOrPressure | maxFlowOrPressureRange => cases hkey
    | exitPressureOver | exitPressureUnder => cases hkey
    | seconds | transition | pump | temperature | name | flow | exitIf | exitType | exitFlowOver
    | exitFlowUnder => decide +kernel
  have hboth : List.Forall₂ Step.Alike [⟨infusion⟩] [⟨shuffledInfusion⟩] := .cons halike .nil
  refine ⟨hboth, trace_eq_of_alike.1 [⟨infusion⟩] [⟨shuffledInfusion⟩] hboth, ?_, ?_⟩
  · refine trace_eq_of_alike.2.1 (.known .name "fill") (.known .seconds (10.0 : Float)) []
      (infusion.drop 2) [] [] ?_
    intro key hname hseconds
    cases hname
    cases hseconds
  · refine trace_eq_of_alike.2.2 (.known .pressure (9.0 : Float)) [] infusion [] [] ?_
    intro key hpressure hheeds
    cases hpressure
    exact hheeds rfl

end Timeline

end Espresso
