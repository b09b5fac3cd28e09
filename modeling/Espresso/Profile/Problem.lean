import Espresso.Profile.Basic
import Espresso.Text.Numbered

/-!
# Problems

What keeps a document from being used: it cannot be read, it is of another type, or a command or a
property that must be there is not. A document without problems is one that can be traced.
-/

namespace Espresso

/-- How messages refer to a step: by its number, and by its name if it has one to show. -/
structure StepLabel where
  number : Nat
  name? : Option String
  deriving DecidableEq, Repr

def StepLabel.text (label : StepLabel) : String :=
  let number := label.number
  match label.name? with
  | some name => s!"Step {number} ('{name}')"
  | none => s!"Step {number}"

def Step.label (step : Step) (number : Nat) : StepLabel :=
  ⟨number, step.shownName?⟩

def Step.labelled (steps : List Step) : List (StepLabel × Step) :=
  (Text.counted steps).map fun (number, step) => (step.label number, step)

/-- Reports show the line on which reading stopped, without the blanks before it. -/
def ParseError.report (error : ParseError) : String :=
  let message :=
    match error.fault with
    | .unrecognized tag expected =>
      let choices := String.intercalate ", " expected
      s!"Unrecognized value '{tag}' (expected one of: {choices})"
    | _ => error.headline
  let remaining := Text.trim error.remaining
  if remaining.isEmpty then message
  else
    let shown := String.ofList ((Text.firstLine remaining).take excerptLimit)
    s!"{message} near '{shown}'"

inductive Problem where
  | unreadable (error : ParseError)
  | wrongType (found : Option ProfileType)
  | missingCommand (key : CommandKey)
  | unreadableSteps (error : ParseError)
  | missingProperty (step : StepLabel) (key : StepKey)
  deriving DecidableEq, Repr

def Problem.message : Problem → String
  | unreadable error => error.report
  | wrongType found =>
    let found := (found.map ProfileType.tag).getD "missing"
    let wanted := ProfileType.advanced.tag
    s!"settings_profile_type is {found}; only {wanted} (advanced) profiles are supported"
  | missingCommand key =>
    let key := key.tag
    s!"Missing required command '{key}'"
  | unreadableSteps error => "advanced_shot: " ++ error.report
  | missingProperty step key =>
    let step := step.text
    let key := key.tag
    s!"{step} is missing required '{key}'"

/-- A checker may let profiles of any type pass. -/
structure Checker where
  requireAdvanced : Bool
  deriving DecidableEq, Repr

namespace Checker

def strict : Checker :=
  ⟨true⟩

def typeProblems (checker : Checker) (profile : Profile) : List Problem :=
  if checker.requireAdvanced && !profile.isAdvanced then [.wrongType profile.type?] else []

def demand (key : CommandKey) (value? : Option String) : List Problem :=
  if value?.isNone then [.missingCommand key] else []

/-- The properties no step can do without, in the order in which they are reported. -/
def requiredProperties : List StepKey :=
  [.seconds, .transition, .pump]

def stepProblems (step : StepLabel × Step) : List Problem :=
  requiredProperties.filterMap fun key =>
    if (step.2.first? key).isNone then some (.missingProperty step.1 key) else none

def shotProblems (profile : Profile) : List Problem :=
  match profile.advancedShot? with
  | none => [.missingCommand .advancedShot]
  | some shot =>
    match Step.readAll shot with
    | .ok steps => (Step.labelled steps).flatMap stepProblems
    | .error error => [.unreadableSteps error]

def problems (checker : Checker) (text : String) : List Problem :=
  match Profile.parse text with
  | .ok profile =>
    checker.typeProblems profile ++ demand .profileTitle profile.title? ++
      demand .profileNotes profile.notes? ++ shotProblems profile
  | .error error => [.unreadable error]

def errors (checker : Checker) (text : String) : List String :=
  (checker.problems text).map Problem.message

def accepts (checker : Checker) (text : String) : Bool :=
  (checker.problems text).isEmpty

def approve (checker : Checker) (text : String) : Except Failure Unit :=
  let errors := checker.errors text
  if errors.isEmpty then .ok ()
  else
    let count := errors.length
    .error (.invalid s!"Profile validation failed with {count} error(s)" errors)

end Checker

end Espresso
