import Espresso.Entry
import Espresso.Failure

/-!
# Steps

One timed phase of a shot, as its properties in the order they were written. A look-up gives the
first value of a key. The duration, the transition and the pump of a step must be there when they
are asked for.
-/

namespace Espresso

structure Step where
  properties : List Property

namespace Step

def first? (step : Step) (key : StepKey) : Option (Vocabulary.kind key).Value :=
  Entry.first? key step.properties

def name? (step : Step) : Option String :=
  step.first? .name

/-- The name, when the step has one that is not empty. -/
def shownName? (step : Step) : Option String :=
  step.name?.filter fun name => name != ""

def place (step : Step) : String :=
  match step.shownName? with
  | some name => s!"step '{name}'"
  | none => "step"

def require (step : Step) (key : StepKey) : Except Missing (Vocabulary.kind key).Value :=
  match step.first? key with
  | some value => .ok value
  | none => .error ⟨key.tag, step.place⟩

def seconds (step : Step) : Except Missing Float :=
  step.require .seconds

def transition (step : Step) : Except Missing Transition :=
  step.require .transition

def pump (step : Step) : Except Missing Pump :=
  step.require .pump

/-- Whether the step may end early. -/
def exits (step : Step) : Bool :=
  step.first? .exitIf == some true

/-- The target of the channel that `pump` drives. -/
def target? (step : Step) : Pump → Option Float
  | .flow => step.first? .flow
  | .pressure => step.first? .pressure

/-- The threshold of an exit. -/
def threshold? (step : Step) : Exit → Option Float
  | .pressureUnder => step.first? .exitPressureUnder
  | .pressureOver => step.first? .exitPressureOver
  | .flowUnder => step.first? .exitFlowUnder
  | .flowOver => step.first? .exitFlowOver

def exitType? (step : Step) : Option Exit :=
  step.first? .exitType

/-- The flow at which the step may end early. An exit on pressure has none. -/
def exitFlow? (step : Step) : Option Float :=
  if step.exits then
    match step.exitType? with
    | some .flowOver => step.threshold? .flowOver
    | some .flowUnder => step.threshold? .flowUnder
    | _ => none
  else none

def unknownKeys (step : Step) : List String :=
  step.properties.filterMap Entry.unknownKey?

end Step

end Espresso
