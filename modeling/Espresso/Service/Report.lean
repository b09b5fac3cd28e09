import Espresso.Json
import Espresso.Preset.Basic
import Espresso.Profile.Warning
import Espresso.Trace.Timeline

/-!
# Reports

What the service answers about a list of steps: the timeline, and a summary of every step.
-/

namespace Espresso

structure StepSummary where
  index : Nat
  name? : Option String
  seconds : Float
  pump : Pump
  transition : Transition
  target? : Option Float
  temperature? : Option Float
  exitType? : Option Exit
  deriving DecidableEq

/-- The exit is shown only for a step that may end early. -/
def StepSummary.ofStep (index : Nat) (step : Step) : Except Missing StepSummary := do
  let pump ← step.pump
  let seconds ← step.seconds
  let transition ← step.transition
  return {
    index, seconds, pump, transition
    name? := step.name?
    target? := step.target? pump
    temperature? := step.first? .temperature
    exitType? := if step.exits then step.exitType? else none }

def StepSummary.ofSteps (steps : List Step) : Except Missing (List StepSummary) :=
  (Text.counted steps).mapM fun (index, step) => ofStep index step

/-- A preset has a name; a document may have warnings. -/
structure Report where
  timeline : Timeline
  steps : List StepSummary
  name? : Option String
  title? : Option String
  warnings : List String
  deriving DecidableEq

structure Heading where
  name : String
  title : String
  deriving DecidableEq, Repr

structure Verdict where
  valid : Bool
  errors : List String
  warnings : List String
  deriving DecidableEq, Repr

def Verdict.message (verdict : Verdict) : String :=
  if verdict.valid then "Profile is valid"
  else
    let count := verdict.errors.length
    s!"Profile has {count} validation error(s)"

def Preset.heading (preset : Preset) : Heading :=
  ⟨preset.name, preset.title⟩

def Heading.toJson (heading : Heading) : Json :=
  .object [("name", .text heading.name), ("title", .text heading.title)]

def Segment.toJson (segment : Segment) : Json :=
  .array [.number segment.x1, .number segment.y1, .number segment.x2, .number segment.y2]

def Timeline.toJson (timeline : Timeline) : Json :=
  .object
    [("temperature", .array (timeline.temperature.map Segment.toJson)),
      ("pressure", .array (timeline.pressure.map Segment.toJson)),
      ("flow", .array (timeline.flow.map Segment.toJson)),
      ("elapsed_time", .number timeline.elapsed)]

/-- A preset together with its timeline. -/
def Preset.toJson (preset : Preset) (timeline : Timeline) : Json :=
  .object
    [("name", .text preset.name), ("title", .text preset.title), ("notes", .text preset.notes),
      ("advanced_shot", .text preset.advancedShot), ("analysis", timeline.toJson)]

end Espresso
