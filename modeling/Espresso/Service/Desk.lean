import Espresso.Preset.Catalog
import Espresso.Service.Report

/-!
# The desk

Requests are answered over one catalog and one checker. A request that cannot be answered is
refused, with a message that names what is wrong with it.
-/

namespace Espresso

inductive Refusal where
  | invalidRequest (message : String)
  | notReady
  | noFolder (path : String)
  | failed (failure : Failure)
  deriving DecidableEq, Repr

def Refusal.message : Refusal → String
  | invalidRequest message => message
  | notReady => "Tools not initialized. Call initialize_tools() first."
  | noFolder path => s!"Profiles directory not found: {path}"
  | failed failure => failure.message

/-- One catalog among all that were built, told apart by its serial number. -/
structure Snapshot where
  serial : Nat
  catalog : Catalog

structure Desk where
  snapshot : Snapshot
  checker : Checker

namespace Desk

def catalog (desk : Desk) : Catalog :=
  desk.snapshot.catalog

/-- Hints that follow the list of what is wrong with a profile. -/
def hints : List String :=
  ["Common issues and fixes:",
   "  - Missing commands: a profile needs 'profile_title', 'profile_notes' and 'advanced_shot'",
   "  - Profile type: only 'settings_profile_type settings_2c' (advanced) profiles can be " ++
     "analyzed",
   "  - Step format: each step is '\x7bkey value ...\x7d' and needs 'seconds', 'transition' and " ++
     "'pump'",
   "  - Text values with spaces must be wrapped in braces, e.g. 'name \x7bPressure Up\x7d'"]

def advice (errors : List String) : String :=
  Text.lines (["Profile validation failed. Please fix the following issues:", ""] ++
    Text.numbered errors ++ [""] ++ hints)

def headings (desk : Desk) : List Heading :=
  desk.catalog.presets.map Preset.heading

def preset (desk : Desk) (name : String) : Except Refusal Preset :=
  (desk.catalog.get name).mapError fun failure =>
    .invalidRequest ("Failed to get preset: " ++ failure.headline)

/-- The summaries of steps that have been traced. -/
def summarize (steps : List Step) : Except Refusal (List StepSummary) :=
  (StepSummary.ofSteps steps).mapError fun missing => .failed (.missing missing)

def tracePreset (preset : Preset) : Except Failure (List Step × Timeline) := do
  let steps ← preset.steps
  let timeline ← Timeline.trace steps
  return (steps, timeline)

def analyzePreset (desk : Desk) (name : String) : Except Refusal Report := do
  let refuse (failure : Failure) : Refusal :=
    .invalidRequest ("Failed to analyze preset: " ++ failure.message)
  let preset ← (desk.catalog.get name).mapError refuse
  let (steps, timeline) ← (tracePreset preset).mapError refuse
  return {
    timeline
    steps := ← summarize steps
    name? := some preset.name
    title? := some preset.title
    warnings := [] }

def traceProfile (text : String) : Except Failure (Profile × List Step × Timeline) := do
  let profile ← (Profile.parse text).mapError .unreadable
  let steps ← profile.steps
  let timeline ← Timeline.trace steps
  return (profile, steps, timeline)

/-- A label that is empty is as good as none. -/
def shownLabel (label? : Option String) : String :=
  (label?.filter fun label => label != "").getD "profile"

/-- Only a document without problems is traced. -/
def analyzeProfile (desk : Desk) (text : String) (label? : Option String) :
    Except Refusal Report := do
  (desk.checker.approve text).mapError fun failure => .invalidRequest (advice failure.details)
  let (profile, steps, timeline) ← (traceProfile text).mapError fun failure =>
    .invalidRequest ("Failed to analyze " ++ shownLabel label? ++ ": " ++ failure.message)
  return {
    timeline
    steps := ← summarize steps
    name? := none
    title? := profile.title?
    warnings := desk.checker.comments text }

def validateProfile (desk : Desk) (text : String) : Verdict where
  valid := desk.checker.accepts text
  errors := desk.checker.errors text
  warnings := desk.checker.comments text

def headingsPage (desk : Desk) : String :=
  (Json.array (desk.headings.map Heading.toJson)).render 0

/-- What a page says of a failure. That a name is unknown is said without details. -/
def excuse : Failure → String
  | .unknownPreset name => "Error: " ++ (Failure.unknownPreset name).headline
  | failure => "Error: " ++ failure.message

/-- A page never fails: what is wrong stands in its text. -/
def presetPage (desk : Desk) (name : String) : String :=
  let found : Except Failure (Preset × Timeline) := do
    let preset ← desk.catalog.get name
    let timeline ← desk.catalog.timeline name
    return (preset, timeline)
  match found with
  | .ok (preset, timeline) => (preset.toJson timeline).render 0
  | .error failure => excuse failure

end Desk

end Espresso
