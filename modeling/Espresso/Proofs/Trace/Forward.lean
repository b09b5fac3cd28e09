import Espresso.Proofs.Decimal.Addition
import Espresso.Trace.Segment

/-!
# Going forward

A target is reached by jumps at the start of the span and one line to its end, however it is drawn.
Drawn from where a trace has got to, this keeps the times of the trace in order.
-/

namespace Espresso

open Decimal

def Segment.VerticalAt (time : Float) (segment : Segment) : Prop :=
  segment.x1 = time ∧ segment.x2 = time

namespace Trace

/-- The last segment leads through the whole span to the target, the ones before it are jumps at its
start. -/
structure Reaches (span : Span) (target : Float) (jumps : Trace) (last : Segment) : Prop where
  jumps_vertical : ∀ jump ∈ jumps, jump.VerticalAt span.start
  x1_eq : last.x1 = span.start
  x2_eq : last.x2 = span.stop
  y2_eq : last.y2 = target

section Drawing

variable (trace : Trace) (span : Span) (target : Float)

theorem exists_hold_eq (previous : Float) :
    ∃ jumps, trace.hold span previous target =
        trace ++ jumps ++ [⟨span.start, target, span.stop, target⟩] ∧
      jumps.length = 1 ∧ ∀ jump ∈ jumps, jump.VerticalAt span.start := by
  refine ⟨[⟨span.start, previous, span.start, target⟩], ?_, rfl, ?_⟩
  · simp [hold]
  · intro jump hjump
    rw [List.mem_singleton.mp hjump]
    exact ⟨rfl, rfl⟩

theorem exists_correct_eq (previous : Float) (correction : Option Float) :
    ∃ jumps, (trace.correct span previous correction).1 = trace ++ jumps ∧
      ∀ jump ∈ jumps, jump.VerticalAt span.start := by
  cases correction with
  | none => exact ⟨[], by simp [correct], by simp⟩
  | some correction =>
    refine ⟨[⟨span.start, previous, span.start, correction⟩], rfl, ?_⟩
    intro jump hjump
    rw [List.mem_singleton.mp hjump]
    exact ⟨rfl, rfl⟩

theorem exists_drive_eq (transition : Transition) (correction : Option Float) :
    ∃ jumps last, trace.drive span target transition correction = trace ++ jumps ++ [last] ∧
      Reaches span target jumps last := by
  unfold drive
  cases trace.level? with
  | none =>
    obtain ⟨jumps, heq, _, hvertical⟩ := trace.exists_hold_eq span target 0.0
    exact ⟨jumps, ⟨span.start, target, span.stop, target⟩, heq, hvertical, rfl, rfl, rfl⟩
  | some level =>
    obtain ⟨first, hfirst, hfirstVertical⟩ := trace.exists_correct_eq span level correction
    dsimp only
    generalize trace.correct span level correction = corrected at hfirst
    obtain ⟨start, previous⟩ := corrected
    obtain rfl : start = _ := hfirst
    cases transition with
    | smooth =>
      exact ⟨first, ⟨span.start, previous, span.stop, target⟩, rfl, hfirstVertical, rfl, rfl, rfl⟩
    | fast =>
      obtain ⟨jumps, heq, _, hvertical⟩ := (trace ++ first).exists_hold_eq span target previous
      refine ⟨first ++ jumps, ⟨span.start, target, span.stop, target⟩, ?_, ?_, rfl, rfl, rfl⟩
      · rw [← List.append_assoc]
        exact heq
      · intro jump hjump
        rcases List.mem_append.mp hjump with hjump | hjump
        · exact hfirstVertical jump hjump
        · exact hvertical jump hjump

theorem exists_regulate_eq :
    ∃ jumps, trace.regulate span target =
        trace ++ jumps ++ [⟨span.start, target, span.stop, target⟩] ∧
      jumps.length ≤ 1 ∧ ∀ jump ∈ jumps, jump.VerticalAt span.start := by
  unfold regulate
  cases trace.level? with
  | none => exact ⟨[], by simp, by simp, by simp⟩
  | some level =>
    obtain ⟨jumps, heq, hlength, hvertical⟩ := trace.exists_hold_eq span target level
    exact ⟨jumps, heq, Nat.le_of_eq hlength, hvertical⟩

end Drawing

theorem dropToZero_eq {trace : Trace} {last : Segment} (h : trace.getLast? = some last) :
    trace.dropToZero = trace ++ [⟨last.x2, last.y2, last.x2, 0.0⟩] := by
  unfold dropToZero
  rw [h]

/-! ### Times -/

/-- The times at which segments start and end, in the order in which they are drawn. -/
def times (trace : Trace) : List Float :=
  trace.flatMap fun segment => [segment.x1, segment.x2]

/-- The times of the trace are in order and none is later than `stop`. -/
structure Forward (stop : Float) (trace : Trace) : Prop where
  pairwise_le : trace.times.Pairwise (· ≤ ·)
  le_stop : ∀ time ∈ trace.times, time ≤ stop
  isMagnitude : ∀ time ∈ trace.times, IsMagnitude time

namespace Forward

variable {start stop : Float} {trace : Trace}

theorem nil (stop : Float) : Forward stop [] :=
  ⟨.nil, by simp [times], by simp [times]⟩

theorem later (h : Forward start trace) (hstart : IsMagnitude start) (hstop : IsMagnitude stop)
    (hle : start ≤ stop) : Forward stop trace :=
  ⟨h.pairwise_le,
    fun time htime => (h.isMagnitude time htime).le_trans hstart hstop (h.le_stop time htime) hle,
    h.isMagnitude⟩

theorem append_segment (h : Forward start trace) (hstart : IsMagnitude start)
    (hstop : IsMagnitude stop) (hle : start ≤ stop) {segment : Segment}
    (hx1 : segment.x1 = start) (hx2 : segment.x2 = stop) : Forward stop (trace ++ [segment]) := by
  have hlater := h.later hstart hstop hle
  have htimes : times (trace ++ [segment]) = trace.times ++ [start, stop] := by
    simp [times, hx1, hx2]
  constructor
  · rw [htimes, List.pairwise_append]
    refine ⟨h.pairwise_le, by simpa using hle, ?_⟩
    intro time htime next hnext
    simp only [List.mem_cons, List.not_mem_nil, or_false] at hnext
    rcases hnext with rfl | rfl
    · exact h.le_stop time htime
    · exact hlater.le_stop time htime
  · intro time htime
    rw [htimes] at htime
    simp only [List.mem_append, List.mem_cons, List.not_mem_nil, or_false] at htime
    rcases htime with htime | rfl | rfl
    · exact hlater.le_stop time htime
    · exact hle
    · exact hstop.le_refl
  · intro time htime
    rw [htimes] at htime
    simp only [List.mem_append, List.mem_cons, List.not_mem_nil, or_false] at htime
    rcases htime with htime | rfl | rfl
    · exact h.isMagnitude time htime
    · exact hstart
    · exact hstop

/-- The induction is on the jumps, none of which takes any time. -/
theorem append_jumps (h : Forward start trace) (hstart : IsMagnitude start) {jumps : Trace}
    (hjumps : ∀ jump ∈ jumps, jump.VerticalAt start) : Forward start (trace ++ jumps) := by
  induction jumps generalizing trace with
  | nil => simpa using h
  | cons jump jumps ih =>
    obtain ⟨hx1, hx2⟩ := hjumps jump List.mem_cons_self
    have hnext := h.append_segment hstart hstart hstart.le_refl hx1 hx2
    rw [List.append_cons]
    exact ih hnext fun jump hjump => hjumps jump (List.mem_cons_of_mem _ hjump)

theorem append_reaches {span : Span} {target : Float} {jumps : Trace} {last : Segment}
    (h : Forward span.start trace) (hstart : IsMagnitude span.start)
    (hstop : IsMagnitude span.stop) (hle : span.start ≤ span.stop)
    (hreaches : Reaches span target jumps last) :
    Forward span.stop (trace ++ jumps ++ [last]) :=
  (h.append_jumps hstart hreaches.jumps_vertical).append_segment hstart hstop hle hreaches.x1_eq
    hreaches.x2_eq

end Forward

end Trace

end Espresso
