import Espresso.Profile.Basic
import Espresso.Proofs.Grammar.Group

/-!
# Step texts one after another

A step that was read ends with its brace, so it is read just so whatever follows it. Step texts can
therefore be put together: the steps of the first come first, and the second is read by itself, up
to the fault that it has if it cannot be read.
-/

namespace Espresso

namespace Reading

theorem readStep_append_of_eq_ok {text rest : List Char} {step : Step}
    (h : readStep text = .ok (step, rest)) (after : List Char) :
    readStep (text ++ after) = .ok (step, rest ++ after) := by
  obtain ⟨token, rfl, hspelled⟩ := exists_spelled_of_readStep h
  rw [List.append_assoc]
  exact readStep_append hspelled

theorem readWhole_steps_append {text after : List Char} {steps : List Step}
    (h : stepReader.readWhole text = .ok steps) :
    stepReader.readWhole (text ++ after) = (stepReader.readWhole after).map (steps ++ ·) := by
  apply ItemReader.readWhole_append h
  intro start rest step _ hstep
  exact readStep_append_of_eq_ok hstep after

end Reading

namespace Step

/-- Blanks at the end make no difference. -/
theorem spelledInTurn_append_iff {steps : List Step} {text gap : List Char}
    (hgap : Text.AllBlank gap) : SpelledInTurn steps (text ++ gap) ↔ SpelledInTurn steps text := by
  constructor
  · exact .of_append hgap
  · intro h
    rw [← Reading.readWhole_eq_ok_iff_spelledInTurn] at h ⊢
    rw [Reading.readWhole_steps_append h, ItemReader.readWhole_eq_ok_nil_iff.mpr hgap]
    exact congrArg Except.ok (List.append_nil steps)

theorem readAll_append_blanks_iff {steps : List Step} {text gap : String}
    (hgap : Text.AllBlank gap.toList) :
    readAll (text ++ gap) = .ok steps ↔ readAll text = .ok steps := by
  unfold readAll
  rw [Reading.readWhole_eq_ok_iff_spelledInTurn, Reading.readWhole_eq_ok_iff_spelledInTurn,
    String.toList_append]
  exact spelledInTurn_append_iff hgap

/-- **Step texts one after another.** Where the first text can be read, both together are read as
its steps and those of the second, or fail as the second does by itself. Blanks at the end of a text
change neither whether it can be read nor its steps, and so the line break at the end of the steps
of a profile does not either. -/
theorem readAll_append_eq_map :
    (∀ first second steps, readAll first = .ok steps →
      readAll (first ++ second) = (readAll second).map (steps ++ ·)) ∧
    (∀ text gap, Text.AllBlank gap.toList →
      ∀ steps, readAll (text ++ gap) = .ok steps ↔ readAll text = .ok steps) ∧
    ∀ (profile : Profile) (shot : String), profile.first? .advancedShot = some shot →
      ∀ steps, profile.steps = .ok steps ↔ readAll shot = .ok steps := by
  refine ⟨?_, ?_, ?_⟩
  · intro first second steps h
    unfold readAll at h ⊢
    rw [String.toList_append]
    exact Reading.readWhole_steps_append h
  · intro text gap hgap steps
    exact readAll_append_blanks_iff hgap
  · intro profile shot hshot steps
    have hbreak : Text.AllBlank "\n".toList := by simp [Text.AllBlank, Text.isBlank]
    have hadvanced : profile.advancedShot? = some (shot ++ "\n") := by
      unfold Profile.advancedShot?
      rw [hshot]
      rfl
    unfold Profile.steps
    rw [hadvanced]
    exact mapError_eq_ok_iff.trans (readAll_append_blanks_iff hbreak)

/-- A text of two steps that touch. -/
def twinText : String :=
  "\x7bpump flow\x7d\x7b\x7d"

/-- A text that breaks off in its second step. -/
def brokenText : String :=
  "\x7b\x7d \x7bpump fl\x7d"

theorem exists_readAll_twinText_append :
    ∃ steps, steps.length = 2 ∧ readAll twinText = .ok steps ∧
      readAll (twinText ++ " \n") = .ok steps ∧
      Profile.steps ⟨[.known .advancedShot twinText]⟩ = .ok steps ∧
      readAll (twinText ++ twinText) = .ok (steps ++ steps) ∧
      ∃ error, error.remaining = "fl\x7d".toList ∧ readAll brokenText = .error error ∧
        readAll (twinText ++ brokenText) = .error error := by
  have hread : (readAll twinText).toOption.map List.length = some 2 := by decide +kernel
  obtain ⟨steps, hsteps, hlength⟩ := Option.map_eq_some_iff.mp hread
  rw [toOption_eq_some_iff] at hsteps
  have hfault : (failure? (readAll brokenText)).map ParseError.remaining =
      some "fl\x7d".toList := by
    decide +kernel
  have hblanks : Text.AllBlank " \n".toList := by simp [Text.AllBlank, Text.isBlank]
  refine ⟨steps, hlength, hsteps, (readAll_append_eq_map.2.1 _ _ hblanks _).mpr hsteps,
    (readAll_append_eq_map.2.2 _ twinText rfl _).mpr hsteps, ?_, ?_⟩
  · rw [readAll_append_eq_map.1 _ _ _ hsteps, hsteps]
    rfl
  · obtain ⟨error, hfailure, hremaining⟩ := Option.map_eq_some_iff.mp hfault
    have hbroken := failure?_eq_some_iff.mp hfailure
    refine ⟨error, hremaining, hbroken, ?_⟩
    rw [readAll_append_eq_map.1 _ _ _ hsteps, hbroken]
    rfl

end Step

end Espresso
