import Espresso.Profile.Problem

/-!
# Warnings

What looks wrong in a document that can be read all the same: keys nobody knows, repeated
properties, a pump without a target, exits that cannot happen or are switched off.
-/

namespace Espresso

/-- The key of the threshold of an exit. -/
def Exit.thresholdKey : Exit → StepKey
  | pressureUnder => .exitPressureUnder
  | pressureOver => .exitPressureOver
  | flowUnder => .exitFlowUnder
  | flowOver => .exitFlowOver

/-- What looks wrong about one step. -/
inductive StepWarning where
  | unknownProperty (key : String)
  | repeated (key : StepKey) (count : Nat)
  | noTarget (pump : Pump)
  | noExitType
  | noThreshold (exit : Exit)
  | exitOff (exit : Exit)
  deriving DecidableEq, Repr

def StepWarning.message : StepWarning → String
  | unknownProperty key => s!"has unknown property '{key}'"
  | repeated key count =>
    let key := key.tag
    s!"repeats '{key}' {count} times; lookups use the first"
  | noTarget pump =>
    let channel := pump.tag
    s!"pumps {channel} but sets no '{channel}' target"
  | noExitType => "has exit_if 1 but no 'exit_type'"
  | noThreshold exit =>
    let kind := exit.tag
    let threshold := exit.thresholdKey.tag
    s!"exits on {kind} but has no '{threshold}' threshold"
  | exitOff exit =>
    let kind := exit.tag
    s!"sets exit_type {kind} but exit_if is off"

inductive Warning where
  | unknownCommand (key : String)
  | notAdvanced
  | noSteps
  | step (label : StepLabel) (warning : StepWarning)
  deriving DecidableEq, Repr

def Warning.message : Warning → String
  | unknownCommand key => s!"Unknown command '{key}' is kept but not interpreted"
  | notAdvanced =>
    "Profile is not an advanced (settings_2c) profile and will not appear in the catalog"
  | noSteps => "advanced_shot has no steps"
  | step label warning => label.text ++ " " ++ warning.message

namespace Step

def knownKeys (step : Step) : List StepKey :=
  step.properties.filterMap Entry.key?

/-- Repeated keys in the order of their first occurrence. -/
def repeatWarnings (step : Step) : List StepWarning :=
  step.knownKeys.eraseDups.filterMap fun key =>
    let count := step.knownKeys.count key
    if 1 < count then some (.repeated key count) else none

def targetWarnings (step : Step) : List StepWarning :=
  match (step.first? .pump : Option Pump) with
  | some pump => if (step.target? pump).isNone then [.noTarget pump] else []
  | none => []

def exitWarnings (step : Step) : List StepWarning :=
  match step.exits, step.exitType? with
  | true, none => [.noExitType]
  | true, some exit => if (step.threshold? exit).isNone then [.noThreshold exit] else []
  | false, some exit => [.exitOff exit]
  | false, none => []

def warnings (step : Step) : List StepWarning :=
  step.unknownKeys.map .unknownProperty ++ step.repeatWarnings ++ step.targetWarnings ++
    step.exitWarnings

end Step

namespace Checker

def shotWarnings (profile : Profile) : List Warning :=
  match profile.advancedShot? with
  | none => []
  | some shot =>
    match Step.readAll shot with
    | .ok steps =>
      (if steps.isEmpty then [.noSteps] else []) ++
        (Step.labelled steps).flatMap fun (label, step) => step.warnings.map (.step label)
    | .error _ => []

/-- A document that cannot be read has problems, and no warnings. -/
def warnings (checker : Checker) (text : String) : List Warning :=
  match Profile.parse text with
  | .ok profile =>
    profile.unknownKeys.map .unknownCommand ++
      (if !checker.requireAdvanced && !profile.isAdvanced then [.notAdvanced] else []) ++
      shotWarnings profile
  | .error _ => []

def comments (checker : Checker) (text : String) : List String :=
  (checker.warnings text).map Warning.message

end Checker

end Espresso
