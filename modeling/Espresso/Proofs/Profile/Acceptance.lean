import Espresso.Preset.Admission
import Espresso.Profile.Problem
import Espresso.Proofs.Trace.Run

/-!
# Acceptance

A document passes the strict checker exactly when it becomes a preset whose steps can be traced.
The checker and the catalog look at a document in different ways; both sides are brought down to
the same facts about it: it can be read, it has its three texts, its steps can be read, and every
step has its essentials.
-/

namespace Espresso

/-- The document can be read and holds the three texts that a preset keeps. -/
structure Profile.Holds (text : String) (profile : Profile) (title notes shot : String) : Prop where
  parsed : Profile.parse text = .ok profile
  titled : profile.title? = some title
  noted : profile.notes? = some notes
  shot : profile.advancedShot? = some shot

theorem Text.mem_counted_iff {α : Type} {items : List α} {pair : Nat × α} :
    pair ∈ counted items ↔ ∃ index, pair.1 = index + 1 ∧ items[index]? = some pair.2 := by
  unfold counted
  rw [List.mem_map]
  constructor
  · rintro ⟨⟨item, index⟩, hmem, rfl⟩
    exact ⟨index, rfl, List.mk_mem_zipIdx_iff_getElem?.mp hmem⟩
  · rintro ⟨index, hnumber, hitem⟩
    exact ⟨(pair.2, index), List.mk_mem_zipIdx_iff_getElem?.mpr hitem, Prod.ext hnumber.symm rfl⟩

theorem Text.mem_of_mem_counted {α : Type} {items : List α} {pair : Nat × α}
    (h : pair ∈ Text.counted items) : pair.2 ∈ items := by
  obtain ⟨index, _, hitem⟩ := mem_counted_iff.mp h
  exact List.mem_of_getElem? hitem

theorem Profile.Holds.steps_eq_readAll {text title notes shot : String} {profile : Profile}
    (h : Profile.Holds text profile title notes shot) :
    profile.steps = (Step.readAll shot).mapError .unreadable := by
  unfold Profile.steps
  rw [h.shot]

namespace Checker

theorem typeProblems_eq_nil_iff {checker : Checker} {profile : Profile} :
    checker.typeProblems profile = [] ↔
      (checker.requireAdvanced = true → profile.isAdvanced = true) := by
  unfold typeProblems
  cases checker.requireAdvanced <;> cases profile.isAdvanced <;> simp

theorem demand_eq_nil_iff {key : CommandKey} {value? : Option String} :
    demand key value? = [] ↔ ∃ value, value? = some value := by
  cases value? <;> simp [demand]

theorem stepProblems_eq_nil_iff {label : StepLabel} {step : Step} :
    stepProblems (label, step) = [] ↔ ∃ essentials, step.essentials = .ok essentials := by
  have hpresent : stepProblems (label, step) = [] ↔
      ∀ key ∈ requiredProperties, ∃ value, step.first? key = some value := by
    simp [stepProblems, List.filterMap_eq_nil_iff, Option.ne_none_iff_exists']
  rw [hpresent]
  constructor
  · intro h
    obtain ⟨duration, hseconds⟩ := h .seconds (by decide)
    obtain ⟨transition, htransition⟩ := h .transition (by decide)
    obtain ⟨pump, hpump⟩ := h .pump (by decide)
    exact ⟨⟨duration, transition, pump⟩, Step.essentials_eq_ok_iff.mpr
      ⟨Step.require_eq_ok_iff.mpr hseconds, Step.require_eq_ok_iff.mpr htransition,
        Step.require_eq_ok_iff.mpr hpump⟩⟩
  · rintro ⟨essentials, hessentials⟩ key hkey
    obtain ⟨hseconds, htransition, hpump⟩ := Step.essentials_eq_ok_iff.mp hessentials
    simp only [requiredProperties, List.mem_cons, List.not_mem_nil, or_false] at hkey
    rcases hkey with rfl | rfl | rfl
    · exact ⟨_, Step.require_eq_ok_iff.mp hseconds⟩
    · exact ⟨_, Step.require_eq_ok_iff.mp htransition⟩
    · exact ⟨_, Step.require_eq_ok_iff.mp hpump⟩

theorem mem_of_mem_labelled {steps : List Step} {labelled : StepLabel × Step}
    (h : labelled ∈ Step.labelled steps) : labelled.2 ∈ steps := by
  obtain ⟨pair, hpair, rfl⟩ := List.mem_map.mp h
  exact Text.mem_of_mem_counted hpair

theorem exists_label_of_mem {steps : List Step} {step : Step} (h : step ∈ steps) :
    ∃ label, (label, step) ∈ Step.labelled steps := by
  obtain ⟨index, hindex, rfl⟩ := List.getElem_of_mem h
  refine ⟨steps[index].label (index + 1), List.mem_map.mpr ⟨(index + 1, steps[index]), ?_, rfl⟩⟩
  exact Text.mem_counted_iff.mpr ⟨index, rfl, List.getElem?_eq_getElem hindex⟩

theorem shotProblems_eq_nil_iff {profile : Profile} :
    shotProblems profile = [] ↔
      ∃ shot steps, profile.advancedShot? = some shot ∧ Step.readAll shot = .ok steps ∧
        ∀ step ∈ steps, ∃ essentials, step.essentials = .ok essentials := by
  unfold shotProblems
  cases profile.advancedShot? with
  | none => simp
  | some shot =>
    cases hread : Step.readAll shot with
    | error error => simp [hread]
    | ok steps =>
      simp only [Option.some.injEq, hread, List.flatMap_eq_nil_iff]
      constructor
      · intro h
        refine ⟨shot, steps, rfl, hread, fun step hstep => ?_⟩
        obtain ⟨label, hlabelled⟩ := exists_label_of_mem hstep
        exact stepProblems_eq_nil_iff.mp (h _ hlabelled)
      · rintro ⟨_, others, rfl, hothers, h⟩ ⟨label, step⟩ hlabelled
        cases hread.symm.trans hothers
        exact stepProblems_eq_nil_iff.mpr (h step (mem_of_mem_labelled hlabelled))

/-- What a checker asks of a document. -/
theorem accepts_iff {checker : Checker} {text : String} :
    checker.accepts text = true ↔
      ∃ profile title notes shot steps, Profile.Holds text profile title notes shot ∧
        (checker.requireAdvanced = true → profile.isAdvanced = true) ∧
        Step.readAll shot = .ok steps ∧
        ∀ step ∈ steps, ∃ essentials, step.essentials = .ok essentials := by
  unfold accepts problems
  cases hparse : Profile.parse text with
  | error error =>
    simp only [List.isEmpty_cons, Bool.false_eq_true, false_iff]
    rintro ⟨profile, _, _, _, _, hholds, _⟩
    cases hparse.symm.trans hholds.parsed
  | ok profile =>
    simp only [List.isEmpty_iff, List.append_eq_nil_iff, typeProblems_eq_nil_iff,
      demand_eq_nil_iff, shotProblems_eq_nil_iff]
    constructor
    · rintro ⟨⟨⟨htype, title, htitle⟩, notes, hnotes⟩, shot, steps, hshot, hread, hsteps⟩
      exact ⟨profile, title, notes, shot, steps, ⟨hparse, htitle, hnotes, hshot⟩, htype, hread,
        hsteps⟩
    · rintro ⟨other, title, notes, shot, steps, hholds, htype, hread, hsteps⟩
      cases hparse.symm.trans hholds.parsed
      exact ⟨⟨⟨htype, title, hholds.titled⟩, notes, hholds.noted⟩, shot, steps, hholds.shot,
        hread, hsteps⟩

end Checker

theorem Preset.demand_eq_ok_iff {name : String} {key : CommandKey} {value? : Option String}
    {value : String} : demand name key value? = .ok value ↔ value? = some value := by
  cases value? <;> simp [demand]

theorem Preset.ofProfile_eq_ok_iff {name : String} {profile : Profile} {preset : Preset} :
    Preset.ofProfile name profile = .ok preset ↔
      ∃ title notes shot, profile.title? = some title ∧ profile.notes? = some notes ∧
        profile.advancedShot? = some shot ∧ preset = ⟨name, title, notes, shot⟩ := by
  unfold Preset.ofProfile
  simp only [bind_eq_ok_iff, demand_eq_ok_iff]
  constructor
  · rintro ⟨title, htitle, notes, hnotes, shot, hshot, hpreset⟩
    cases hpreset
    exact ⟨title, notes, shot, htitle, hnotes, hshot, rfl⟩
  · rintro ⟨title, notes, shot, htitle, hnotes, hshot, rfl⟩
    exact ⟨title, htitle, notes, hnotes, shot, hshot, rfl⟩

/-- What the catalog asks of a document. -/
theorem Document.admit_eq_admitted_iff {document : Document} {preset : Preset} :
    document.admit = .ok (.admitted preset) ↔
      ∃ profile title notes shot, Profile.Holds document.text profile title notes shot ∧
        profile.isAdvanced = true ∧ preset = ⟨document.name, title, notes, shot⟩ := by
  unfold Document.admit
  cases hparse : Profile.parse document.text with
  | error error =>
    simp only [reduceCtorEq, false_iff]
    rintro ⟨profile, _, _, _, hholds, _⟩
    cases hparse.symm.trans hholds.parsed
  | ok profile =>
    constructor
    · intro h
      dsimp only at h
      split at h
      · next hadvanced =>
        split at h
        · next hpreset =>
          cases h
          obtain ⟨title, notes, shot, htitle, hnotes, hshot, hpreset⟩ :=
            Preset.ofProfile_eq_ok_iff.mp hpreset
          exact ⟨profile, title, notes, shot, ⟨hparse, htitle, hnotes, hshot⟩, hadvanced, hpreset⟩
        · cases h
      · cases h
    · rintro ⟨other, title, notes, shot, hholds, hadvanced, rfl⟩
      cases hparse.symm.trans hholds.parsed
      have hpreset := Preset.ofProfile_eq_ok_iff.mpr
        ⟨title, notes, shot, hholds.titled, hholds.noted, hholds.shot,
          (rfl : (⟨document.name, title, notes, shot⟩ : Preset) = _)⟩
      simp [hadvanced, hpreset]

theorem Preset.steps_eq_ok_iff {preset : Preset} {steps : List Step} :
    preset.steps = .ok steps ↔ Step.readAll preset.advancedShot = .ok steps :=
  mapError_eq_ok_iff

/-- **The checker decides whether a document can be used.** Under any name, a document passes the
strict checker exactly when the catalog admits it and the steps of its preset can be traced. -/
theorem accepts_iff_admitted_and_traced (name text : String) :
    Checker.strict.accepts text = true ↔
      ∃ preset steps timeline, Document.admit ⟨name, text⟩ = .ok (.admitted preset) ∧
        preset.steps = .ok steps ∧ Timeline.trace steps = .ok timeline := by
  rw [Checker.accepts_iff]
  constructor
  · rintro ⟨profile, title, notes, shot, steps, hholds, hadvanced, hread, hsteps⟩
    obtain ⟨timeline, htimeline⟩ := Timeline.exists_trace_eq_ok_iff.mpr hsteps
    refine ⟨⟨name, title, notes, shot⟩, steps, timeline, ?_, ?_, htimeline⟩
    · exact Document.admit_eq_admitted_iff.mpr
        ⟨profile, title, notes, shot, hholds, hadvanced rfl, rfl⟩
    · exact Preset.steps_eq_ok_iff.mpr hread
  · rintro ⟨preset, steps, timeline, hadmit, hread, htimeline⟩
    obtain ⟨profile, title, notes, shot, hholds, hadvanced, rfl⟩ :=
      Document.admit_eq_admitted_iff.mp hadmit
    exact ⟨profile, title, notes, shot, steps, hholds, fun _ => hadvanced,
      Preset.steps_eq_ok_iff.mp hread, Timeline.exists_trace_eq_ok_iff.mp ⟨timeline, htimeline⟩⟩

end Espresso
