import Espresso.Text.Numbered

/-!
# What the service offers

The names and descriptions under which tools, resources and prompts are announced, in the order in
which they are listed.
-/

namespace Espresso

structure Tool where
  name : String
  description : String

/-- A resource whose address has a name in braces is a template. -/
structure Resource where
  address : String
  name : String
  description : String

structure Argument where
  name : String
  required : Bool

structure PromptOffer where
  name : String
  description : String
  arguments : List Argument

namespace Offer

def serviceName : String :=
  "Decent Espresso Profile Server"

def tools : List Tool :=
  [⟨"list_presets", "List all advanced presets (name and title), sorted by title."⟩,
   ⟨"get_preset", "Get a preset's title, notes and raw advanced-shot step text by name."⟩,
   ⟨"analyze_preset", Text.lines
     ["Trace a preset's temperature, pressure and flow over time.",
      "",
      "Each trace is a list of line segments [x1, y1, x2, y2] with x in",
      "seconds. Pressure and flow are only traced while the pump drives them."]⟩,
   ⟨"analyze_profile", "Trace a profile document supplied as text (not from the catalog)."⟩,
   ⟨"validate_profile", "Validate a profile document and report errors and lint warnings."⟩]

def resources : List Resource :=
  [⟨"decent://presets", "presets_resource", "Get the preset list as JSON."⟩,
   ⟨"decent://format", "profile_format", "Get a reference for the profile document format."⟩]

def templates : List Resource :=
  [⟨"decent://preset/\x7bname\x7d", "get_preset_resource",
    "Get a preset and its analysis as a resource."⟩]

def prompts : List PromptOffer :=
  [⟨"explain_preset", "Prompt template for explaining how a preset shapes a shot.",
    [⟨"name", true⟩, ⟨"focus", false⟩]⟩]

end Offer

end Espresso
