import Espresso.Step
import Espresso.Trace.Segment

/-!
# Timelines

What a list of steps does over time: the temperature throughout, pressure and flow while the pump
drives them. The steps are run one after another; all that the next one needs is the timeline so
far, the pump of the last one and the flow at which that one could end early.
-/

namespace Espresso

structure Timeline where
  temperature : Trace
  pressure : Trace
  flow : Trace
  elapsed : Float
  deriving DecidableEq

namespace Timeline

def empty : Timeline where
  temperature := []
  pressure := []
  flow := []
  elapsed := 0.0

/-- The state of a run between two steps. -/
structure Run where
  timeline : Timeline
  pump : Option Pump
  exitFlow : Option Float
  deriving DecidableEq

def Run.start : Run where
  timeline := empty
  pump := none
  exitFlow := none

/-- What holds for all properties of one step while it runs. -/
structure Phase where
  span : Span
  transition : Transition
  pump : Pump
  previousPump : Option Pump
  correction : Option Float

/-- A target counts on the channel that the pump drives. Taking it over from the other channel lets
that one drop to zero. -/
def apply (phase : Phase) (timeline : Timeline) : Property → Timeline
  | .known .temperature target =>
    { timeline with temperature := timeline.temperature.regulate phase.span target }
  | .known .pressure target =>
    if phase.pump = .pressure then
      { timeline with
        flow :=
          if phase.previousPump = some .flow then timeline.flow.dropToZero else timeline.flow
        pressure := timeline.pressure.drive phase.span target phase.transition none }
    else timeline
  | .known .flow target =>
    if phase.pump = .flow then
      { timeline with
        pressure :=
          if phase.previousPump = some .pressure then timeline.pressure.dropToZero
          else timeline.pressure
        flow := timeline.flow.drive phase.span target phase.transition phase.correction }
    else timeline
  | _ => timeline

def Run.advance (run : Run) (step : Step) : Except Missing Run := do
  let duration ← step.seconds
  let transition ← step.transition
  let pump ← step.pump
  let stop := run.timeline.elapsed + duration
  let phase : Phase :=
    { span := ⟨run.timeline.elapsed, stop⟩
      transition := transition
      pump := pump
      previousPump := run.pump
      correction := run.exitFlow }
  let timeline := step.properties.foldl (apply phase) run.timeline
  return { timeline := { timeline with elapsed := stop }
           pump := some pump
           exitFlow := step.exitFlow? }

def ofSteps (steps : List Step) : Except Missing Timeline := do
  let run ← steps.foldlM Run.advance Run.start
  return run.timeline

def trace (steps : List Step) : Except Failure Timeline :=
  (ofSteps steps).mapError .missing

end Timeline

end Espresso
