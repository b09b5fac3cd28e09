import Espresso.Vocabulary.Tag

/-!
# Segments of a trace

A trace is drawn with line segments over time. Within a step a channel jumps to its target and
holds it, or ramps to it; a channel that is let go drops to zero where its trace ends.
-/

namespace Espresso

/-- A line from the time `x1` and the value `y1` to the time `x2` and the value `y2`. -/
structure Segment where
  x1 : Float
  y1 : Float
  x2 : Float
  y2 : Float
  deriving DecidableEq

abbrev Trace := List Segment

/-- The time a step takes. -/
structure Span where
  start : Float
  stop : Float

namespace Trace

/-- Where the trace stands, unless it is empty. -/
def level? (trace : Trace) : Option Float :=
  trace.getLast?.map (·.y2)

def hold (trace : Trace) (span : Span) (previous target : Float) : Trace :=
  trace ++ [⟨span.start, previous, span.start, target⟩, ⟨span.start, target, span.stop, target⟩]

def ramp (trace : Trace) (span : Span) (previous target : Float) : Trace :=
  trace ++ [⟨span.start, previous, span.stop, target⟩]

def dropToZero (trace : Trace) : Trace :=
  match trace.getLast? with
  | some last => trace ++ [⟨last.x2, last.y2, last.x2, 0.0⟩]
  | none => trace

/-- A jump to `correction` at the start of the span, when there is one. -/
def correct (trace : Trace) (span : Span) (previous : Float) : Option Float → Trace × Float
  | some correction => (trace ++ [⟨span.start, previous, span.start, correction⟩], correction)
  | none => (trace, previous)

/-- An empty trace starts at zero and jumps, however the step reaches its target. -/
def drive (trace : Trace) (span : Span) (target : Float) (transition : Transition)
    (correction : Option Float) : Trace :=
  match trace.level? with
  | none => trace.hold span 0.0 target
  | some level =>
    let (trace, previous) := trace.correct span level correction
    match transition with
    | .smooth => trace.ramp span previous target
    | .fast => trace.hold span previous target

/-- A temperature jumps to its target, and the first one is there from the start. -/
def regulate (trace : Trace) (span : Span) (target : Float) : Trace :=
  match trace.level? with
  | none => trace ++ [⟨span.start, target, span.stop, target⟩]
  | some level => trace.hold span level target

end Trace

end Espresso
