import Espresso.Text.Numbered

/-!
# Format reference

What the service tells its users about profile documents.
-/

namespace Espresso.Reference

def opening : List String :=
  ["# Decent Espresso Profile Format",
   "",
   "Profiles are Tcl-style documents: a sequence of `key value` commands",
   "separated by whitespace. Newlines are ordinary whitespace.",
   ""]

def values : List String :=
  ["## Values",
   "",
   "- **Numbers**: unsigned, `9`, `9.`, `9.0` or `.9`. Integers are read as floats.",
   "- **Booleans**: `0` or `1`.",
   "- **Strings**: a single word (`Decent`) or a brace-quoted string",
   "  (`\x7bPressure Up\x7d`). Braces nest: `\x7ba \x7bb\x7d c\x7d` is the string `a \x7bb\x7d c`.",
   "- **Tags**: fixed words such as `fast`, `smooth`, `flow`, `pressure`.",
   ""]

def commands : List String :=
  ["## Profile commands",
   "",
   "- `profile_title \x7b...\x7d`: display title (required)",
   "- `profile_notes \x7b...\x7d`: free text notes (required)",
   "- `settings_profile_type settings_2c`: marks an advanced profile. Only",
   "  advanced profiles are listed in the catalog.",
   "- `advanced_shot \x7b\x7bstep\x7d \x7bstep\x7d ...\x7d`: the step sequence (required)",
   "- `author`, `beverage_type`, `espresso_temperature`, `maximum_flow`, and",
   "  other machine settings are read but not used for analysis.",
   "",
   "Unknown commands are kept and ignored.",
   ""]

def properties : List String :=
  ["## Step properties",
   "",
   "Each step is a brace group of `key value` pairs:",
   "",
   "```",
   "\x7bexit_if 1 flow 8 volume 100 transition fast exit_flow_under 0",
   " temperature 90 name preinfusion pressure 1 sensor coffee pump flow",
   " exit_type pressure_over exit_flow_over 6 exit_pressure_over 1.5",
   " exit_pressure_under 0 seconds 25\x7d",
   "```",
   "",
   "- `seconds`: nominal duration (required)",
   "- `transition`: `fast` (jump then hold) or `smooth` (ramp) (required)",
   "- `pump`: `flow` or `pressure`, the channel the pump drives (required)",
   "- `flow`, `pressure`, `temperature`: targets",
   "- `sensor`: `coffee` or `water`",
   "- `exit_if`: `1` enables an early exit described by `exit_type`",
   "  (`pressure_under`, `pressure_over`, `flow_under`, `flow_over`) and the",
   "  matching `exit_*` threshold",
   "- `name`, `volume`, `weight`, `max_flow_or_pressure`,",
   "  `max_flow_or_pressure_range`",
   "",
   "If a property appears twice in one step only the first is used.",
   ""]

def analysis : List String :=
  ["## Analysis",
   "",
   "Analysis turns a step sequence into line segments for temperature,",
   "pressure and flow. Temperature is always traced. Pressure and flow are",
   "traced only in steps whose pump drives them; when the pump switches, the",
   "channel that is no longer driven drops to zero. After a step that exits",
   "on a flow threshold, the next flow step starts from that threshold."]

def text : String :=
  Text.lines (opening ++ values ++ commands ++ properties ++ analysis)

end Espresso.Reference
