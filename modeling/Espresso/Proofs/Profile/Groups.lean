import Espresso.Proofs.Grammar.Group
import Espresso.Proofs.Profile.Repeats

/-!
# The steps of a document as brace groups

Where a document and its steps can be read, the groups into which counting braces cuts the step text
are the steps. The text was cut out of the document by counting braces itself, so it is balanced; a
bare word need not be, but no steps can be read from one that is not empty.
-/

namespace Espresso

namespace Profile

/-- The text of the steps as it stands in the document. -/
def shot? (profile : Profile) : Option String :=
  profile.first? .advancedShot

variable {text shot : String} {profile : Profile} {steps : List Step}

theorem advancedShot?_eq : profile.advancedShot? = profile.shot?.map (· ++ "\n") :=
  rfl

theorem steps_eq_ok_iff :
    profile.steps = .ok steps ↔
      ∃ shot, profile.shot? = some shot ∧ Step.SpelledInTurn steps (shot.toList ++ ['\n']) := by
  have hread : ∀ shot : String, Step.readAll (shot ++ "\n") = .ok steps ↔
      Step.SpelledInTurn steps (shot.toList ++ ['\n']) := by
    intro shot
    rw [(Step.readAll_eq_ok_iff_spelledInTurn _).1, String.toList_append]
    rfl
  unfold Profile.steps
  rw [advancedShot?_eq]
  cases profile.shot? with
  | none => simp
  | some shot => simp [mapError_eq_ok_iff, hread]

/-- A word starts neither with a blank nor as a step. -/
theorem balanced_of_spellsText {p : Prop} {token : List Char}
    (hspells : SpellsText (Vocabulary.endsWord CommandKey) p shot token)
    (hturn : Step.SpelledInTurn steps (shot.toList ++ ['\n'])) : Text.Balanced shot.toList := by
  cases hspells with
  | braced hbalanced => rwa [String.toList_ofList]
  | word hword hhead _ =>
    rw [String.toList_ofList] at hturn ⊢
    cases token with
    | nil => simp [Text.Balanced]
    | cons c word =>
      have hread := Reading.readWhole_eq_ok_iff_spelledInTurn.mpr hturn
      rcases ItemReader.startsBlank_or_opens_of_readWhole hread with hempty | hblank | hopens
      · cases hempty
      · have hgoes : Text.isBlank c = false := hword c (by simp)
        have hstarts : Text.isBlank c = true := hblank
        rw [hgoes] at hstarts
        cases hstarts
      · have hopening : c = '{' := by simpa [Reading.stepReader] using hopens
        exact absurd (congrArg some hopening) hhead

theorem balanced_shot (hparse : Profile.parse text = .ok profile)
    (hshot : profile.shot? = some shot)
    (hturn : Step.SpelledInTurn steps (shot.toList ++ ['\n'])) : Text.Balanced shot.toList := by
  obtain ⟨_, hspelled⟩ :=
    Reading.exists_spelled_of_mem (parse_eq_ok_iff.mp hparse) (Entry.known_mem_of_first? hshot)
  cases hspelled with
  | known _ _ hvalue => exact balanced_of_spellsText hvalue hturn

/-- **Two ways to count braces.** If a document and its steps can be read, then counting all braces
cuts its step text, with or without more blanks at the end, into one group for each step, and
nothing is left; and each group in its braces is read as its step. -/
theorem exists_groups_of_steps (hparse : Profile.parse text = .ok profile)
    (hsteps : profile.steps = .ok steps) :
    ∃ shot groups, profile.shot? = some shot ∧
      (∀ gap, Text.AllBlank gap →
        Reading.groupReader.readWhole (shot.toList ++ gap) = .ok groups) ∧
      groups.map Reading.readGroup = steps.map fun step => .ok (step, []) := by
  obtain ⟨shot, hshot, hturn⟩ := steps_eq_ok_iff.mp hsteps
  have hbalanced := balanced_shot hparse hshot hturn
  have hbreak : Text.AllBlank ['\n'] := by simp [Text.AllBlank, Text.isBlank]
  obtain ⟨groups, hgroups, hread⟩ :=
    Reading.exists_groups_of_spelledInTurn (hturn.of_append hbreak) hbalanced.2
  exact ⟨shot, groups, hshot, hgroups, hread⟩

/-- A document of two steps that touch, the first with braces in its name. -/
def nestedText : String :=
  "advanced_shot \x7b \x7bname \x7b\x7ba\x7d\x7d\x7d\x7bnote b\x7d\x7d"

theorem exists_groups_nestedText :
    ∃ profile steps, Profile.parse nestedText = .ok profile ∧ profile.steps = .ok steps ∧
      steps.length = 2 ∧
      ∃ shot groups, profile.shot? = some shot ∧
        Reading.groupReader.readWhole shot.toList = .ok groups ∧
        groups.map Reading.readGroup = steps.map fun step => .ok (step, []) := by
  have hread : ((Profile.parse nestedText).toOption.bind fun profile =>
      profile.steps.toOption.map List.length) = some 2 := by decide +kernel
  obtain ⟨profile, hparse, hlength⟩ := Option.bind_eq_some_iff.mp hread
  obtain ⟨steps, hsteps, htwo⟩ := Option.map_eq_some_iff.mp hlength
  rw [toOption_eq_some_iff] at hparse hsteps
  obtain ⟨shot, groups, hshot, hgroups, hmap⟩ := exists_groups_of_steps hparse hsteps
  have hempty : Text.AllBlank [] := by simp [Text.AllBlank]
  have hwhole := hgroups [] hempty
  rw [List.append_nil] at hwhole
  exact ⟨profile, steps, hparse, hsteps, htwo, shot, groups, hshot, hwhole, hmap⟩

end Profile

end Espresso
