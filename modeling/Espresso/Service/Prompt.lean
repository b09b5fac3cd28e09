import Espresso.Text.Lowercase
import Espresso.Text.Numbered

/-!
# Prompts

The messages that ask for an explanation of a preset, with or without a focus. A focus on
temperature, pressure or flow is recognised in any case; any other is quoted as it is.
-/

namespace Espresso

structure Message where
  role : String
  text : String
  deriving DecidableEq, Repr

namespace Prompt

def mentions (word : List Char) : List Char → Bool
  | [] => word.isEmpty
  | c :: rest => word.isPrefixOf (c :: rest) || mentions word rest

def background : String :=
  Text.lines
    ["You are an expert on Decent Espresso advanced profiles.",
     "",
     "Read a profile step by step:",
     "- Which channel the pump drives (flow or pressure) and its target",
     "- Whether the step ramps (smooth) or jumps (fast) to the target",
     "- How long the step lasts and what can make it exit early",
     "- How temperature changes across the shot",
     "",
     "Use the analyze_preset tool to get the traced segments and relate each",
     "phase (pre-infusion, rise, hold, decline) to how the shot will taste."]

/-- Temperature is looked for first, then pressure, then flow. -/
def focusClause (focus : String) : String :=
  let small := Text.lowercase focus.toList
  let about (word : String) : Bool := mentions word.toList small
  if about "temp" then "focusing on its temperature changes"
  else if about "pressure" || about "bar" then "focusing on its pressure curve"
  else if about "flow" then "focusing on its flow curve"
  else s!"focusing on: {focus}"

def question (name : String) (focus? : Option String) : String :=
  let opening := s!"Explain the preset {name}"
  match focus?.filter fun focus => focus != "" with
  | some focus => opening ++ " " ++ focusClause focus ++ "."
  | none => opening ++ "."

def points : List String :=
  ["",
   "Cover:",
   "- Each step, in order, with its duration and target",
   "- Where the pump switches between flow and pressure",
   "- Early exit conditions",
   "- The total nominal shot time"]

def explainPreset (name : String) (focus? : Option String) : List Message :=
  [⟨"system", background⟩, ⟨"user", Text.lines (question name focus? :: points)⟩]

end Prompt

end Espresso
