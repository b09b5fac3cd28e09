import Espresso.Proofs.Grammar.Step
import Espresso.Proofs.Trace.Clock

/-!
# Clean documents

A document that is accepted without a comment has a clean timeline. The checker never traces a step;
that its comments are enough rests on what they say about repeats and targets, and on numerals
having no sign.
-/

namespace Espresso

open Decimal

namespace Step

theorem timed_of_readAll {text : String} {steps : List Step} (h : Step.readAll text = .ok steps) :
    ∀ step ∈ steps, step.Timed := by
  intro step hstep duration hseconds
  have hturn := Reading.readWhole_eq_ok_iff_spelledInTurn.mp h
  obtain ⟨token, hspelled⟩ := hturn.exists_spelled hstep
  have hmem := Entry.known_mem_of_first? (require_eq_ok_iff.mp hseconds)
  obtain ⟨p, token, hproperty⟩ := hspelled.exists_spelled hmem
  cases hproperty with
  | known _ _ hvalue =>
    exact Decimal.Numeral.SpellsValue.isMagnitude hvalue

end Step

theorem Profile.Holds.steps_eq {text title notes shot : String} {profile : Profile}
    (h : Profile.Holds text profile title notes shot) {steps : List Step}
    (hread : Step.readAll shot = .ok steps) : profile.steps = .ok steps := by
  rw [h.steps_eq_readAll, hread]
  rfl

/-- **A clean timeline.** When a document is accepted without a comment, its steps can be traced to
the end of their times. Each step draws its target on the channel of its pump from the time before
it to the time after it, drops the other channel to zero if the step before drove that one, and
draws its temperature if it has one; and no trace ever goes back in time. -/
theorem exists_clean_timeline {checker : Checker} {text : String}
    (haccepts : checker.accepts text = true) (hcomments : checker.comments text = []) :
    ∃ profile steps timeline, Profile.parse text = .ok profile ∧ profile.steps = .ok steps ∧
      Timeline.trace steps = .ok timeline ∧ timeline.elapsed = Step.clock steps ∧
      (∀ front step back, steps = front ++ step :: back →
        ∃ duration pump before after, step.seconds = .ok duration ∧ step.pump = .ok pump ∧
          Timeline.trace front = .ok before ∧ Timeline.trace (front ++ [step]) = .ok after ∧
          Timeline.Draws step pump (Step.lastPump? front)
            ⟨Step.clock front, Step.clock front + duration⟩ before after) ∧
      ∀ trace ∈ [timeline.temperature, timeline.pressure, timeline.flow],
        trace.times.Pairwise (· ≤ ·) := by
  obtain ⟨profile, title, notes, shot, steps, hholds, _, hread, hessentials⟩ :=
    Checker.accepts_iff.mp haccepts
  obtain ⟨timeline, htimeline⟩ := Timeline.exists_trace_eq_ok_iff.mpr hessentials
  have htidy := Checker.tidy_of_comments_eq_nil hcomments hholds.parsed hholds.shot hread
  have htimed := Step.timed_of_readAll hread
  obtain ⟨final, hfinal, rfl⟩ := Timeline.trace_eq_ok_iff.mp htimeline
  have hfollows := Timeline.Run.follows_start.through htidy htimed hfinal
  refine ⟨profile, steps, final.timeline, hholds.parsed, hholds.steps_eq hread, htimeline,
    hfollows.elapsed_eq, ?_, ?_⟩
  · rintro front step back rfl
    exact Timeline.exists_draws_of_append htidy htimed htimeline
  · intro trace htrace
    simp only [List.mem_cons, List.not_mem_nil, or_false] at htrace
    rcases htrace with rfl | rfl | rfl
    · exact hfollows.temperature_forward.pairwise_le
    · exact (hfollows.channel_forward .pressure).pairwise_le
    · exact (hfollows.channel_forward .flow).pairwise_le

/-- A document of two steps with different pumps, the second of them a ramp. -/
def pulseText : String :=
  "settings_profile_type settings_2c\nprofile_title P\nprofile_notes N\n" ++
    "advanced_shot \x7b\x7bseconds 6 transition fast pump flow flow 4 temperature 92\x7d" ++
    "\x7bseconds 9.5 transition smooth pump pressure pressure 9\x7d\x7d"

theorem exists_clean_timeline_pulseText :
    Checker.strict.accepts pulseText = true ∧ Checker.strict.comments pulseText = [] ∧
      ∃ profile steps timeline, Profile.parse pulseText = .ok profile ∧
        profile.steps = .ok steps ∧ Timeline.trace steps = .ok timeline ∧
        timeline.elapsed = Step.clock steps := by
  have hclean :
      Checker.strict.accepts pulseText = true ∧ Checker.strict.comments pulseText = [] := by
    decide +kernel
  obtain ⟨haccepts, hcomments⟩ := hclean
  obtain ⟨profile, steps, timeline, hparse, hsteps, htrace, helapsed, _⟩ :=
    exists_clean_timeline haccepts hcomments
  exact ⟨haccepts, hcomments, profile, steps, timeline, hparse, hsteps, htrace, helapsed⟩

end Espresso
