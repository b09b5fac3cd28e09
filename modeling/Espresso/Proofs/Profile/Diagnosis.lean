import Espresso.Proofs.Profile.Acceptance
import Espresso.Proofs.Profile.Lookup
import Mathlib.Data.List.Basic

/-!
# Diagnosis

What the checker says of the steps of a document and what a trace of them fails with are two
accounts of the same thing: the properties that the steps lack. The checker reports all of them, in
the order of the steps; a trace stops at the first.
-/

namespace Espresso

/-- A property that a step cannot do without and does not have. -/
structure Lack where
  number : Nat
  step : Step
  key : StepKey

namespace Lack

/-- What the checker makes of it. -/
def problem (lack : Lack) : Problem :=
  .missingProperty (lack.step.label lack.number) lack.key

/-- What a trace makes of it. -/
def cause (lack : Lack) : Missing where
  key := lack.key.tag
  place :=
    match lack.step.shownName? with
    | some name => s!"step '{name}'"
    | none => "step"

/-- How the checker words it. -/
def report (lack : Lack) : String :=
  let number := lack.number
  let key := lack.key.tag
  match lack.step.shownName? with
  | some name => s!"Step {number} ('{name}') is missing required '{key}'"
  | none => s!"Step {number} is missing required '{key}'"

theorem cause_eq (lack : Lack) : lack.cause = ⟨lack.key.tag, lack.step.place⟩ :=
  rfl

theorem message_problem (lack : Lack) : lack.problem.message = lack.report := by
  unfold problem report Problem.message Step.label StepLabel.text
  cases lack.step.shownName? <;> simp [toString, String.append_assoc]

/-- The order of reports: by the steps, and within a step by the required properties. -/
def Before (first second : Lack) : Prop :=
  first.number < second.number ∨ first.number = second.number ∧
    Checker.requiredProperties.idxOf first.key < Checker.requiredProperties.idxOf second.key

end Lack

def Step.lacks (step : Step) (number : Nat) : List Lack :=
  (Checker.requiredProperties.filter fun key => (step.first? key).isNone).map (Lack.mk number step)

namespace Step

variable {step : Step} {number : Nat}

theorem mem_lacks_iff {lack : Lack} :
    lack ∈ step.lacks number ↔ lack.number = number ∧ lack.step = step ∧
      lack.key ∈ Checker.requiredProperties ∧ step.first? lack.key = none := by
  unfold lacks
  rw [List.mem_map]
  simp only [List.mem_filter, Option.isNone_iff_eq_none]
  constructor
  · rintro ⟨key, hkey, rfl⟩
    exact ⟨rfl, rfl, hkey⟩
  · rintro ⟨rfl, rfl, hkey⟩
    exact ⟨lack.key, hkey, rfl⟩

theorem pairwise_lacks (step : Step) (number : Nat) : (step.lacks number).Pairwise Lack.Before := by
  have hkeys : Checker.requiredProperties.Pairwise fun first second =>
      Checker.requiredProperties.idxOf first < Checker.requiredProperties.idxOf second := by
    decide
  unfold lacks
  rw [List.pairwise_map]
  exact (hkeys.filter _).imp fun hlt => .inr ⟨rfl, hlt⟩

theorem stepProblems_eq_map_problem (step : Step) (number : Nat) :
    Checker.stepProblems (step.label number, step) = (step.lacks number).map Lack.problem := by
  unfold Checker.stepProblems lacks
  rw [List.map_map, ← List.filterMap_eq_map, List.filterMap_filter]
  rfl

theorem require_eq_elim (step : Step) (key : StepKey) :
    step.require key = (step.first? key).elim (.error ⟨key.tag, step.place⟩) .ok := by
  unfold require
  cases step.first? key <;> rfl

/-- The essentials are asked for in the order of the required properties. -/
theorem essentials_eq_error {key : StepKey}
    (h : Checker.requiredProperties.find? (fun key => (step.first? key).isNone) = some key) :
    step.essentials = .error ⟨key.tag, step.place⟩ := by
  unfold Checker.requiredProperties at h
  unfold essentials seconds transition pump
  simp only [require_eq_elim]
  cases hseconds : step.first? .seconds with
  | none =>
    obtain rfl : StepKey.seconds = key := by simpa [hseconds] using h
    rfl
  | some duration =>
    cases htransition : step.first? .transition with
    | none =>
      obtain rfl : StepKey.transition = key := by simpa [hseconds, htransition] using h
      rfl
    | some transition =>
      cases hpump : step.first? .pump with
      | none =>
        obtain rfl : StepKey.pump = key := by simpa [hseconds, htransition, hpump] using h
        rfl
      | some pump => simp [hseconds, htransition, hpump] at h

theorem essentials_eq_error_of_lacks {lack : Lack} {others : List Lack}
    (h : step.lacks number = lack :: others) : step.essentials = .error lack.cause := by
  obtain ⟨key, keys, hkeys, rfl, rfl⟩ := List.map_eq_cons_iff.mp h
  rw [Lack.cause_eq]
  apply essentials_eq_error
  rw [← List.head?_filter, hkeys, List.head?_cons]

theorem exists_essentials_of_lacks_eq_nil (h : step.lacks number = []) :
    ∃ essentials, step.essentials = .ok essentials := by
  apply Checker.stepProblems_eq_nil_iff.mp
  rw [stepProblems_eq_map_problem step number, h, List.map_nil]

end Step

namespace Text

variable {α : Type}

theorem pairwise_counted (items : List α) :
    (counted items).Pairwise fun first second => first.1 < second.1 := by
  unfold counted
  rw [List.pairwise_map, List.pairwise_iff_getElem]
  intro first second _ _ hlt
  simp only [List.getElem_zipIdx]
  omega

theorem map_snd_counted (items : List α) : (counted items).map Prod.snd = items := by
  unfold counted
  rw [List.map_map]
  exact List.zipIdx_map_fst 0 items

end Text

namespace Lack

/-- All that the steps lack, in the order of reports. -/
def all (steps : List Step) : List Lack :=
  (Text.counted steps).flatMap fun counted => counted.2.lacks counted.1

theorem mem_all_iff {steps : List Step} {lack : Lack} :
    lack ∈ all steps ↔ ∃ index, lack.number = index + 1 ∧ steps[index]? = some lack.step ∧
      lack.key ∈ Checker.requiredProperties ∧ lack.step.first? lack.key = none := by
  unfold all
  simp only [List.mem_flatMap, Step.mem_lacks_iff, Text.mem_counted_iff]
  constructor
  · rintro ⟨⟨number, step⟩, ⟨index, rfl, hstep⟩, hnumber, rfl, hkey⟩
    exact ⟨index, hnumber, hstep, hkey⟩
  · rintro ⟨index, hnumber, hstep, hkey⟩
    exact ⟨(index + 1, lack.step), ⟨index, rfl, hstep⟩, hnumber, rfl, hkey⟩

theorem pairwise_all (steps : List Step) : (all steps).Pairwise Before := by
  unfold all
  rw [List.pairwise_flatMap]
  constructor
  · rintro ⟨number, step⟩ _
    exact step.pairwise_lacks number
  · refine (Text.pairwise_counted steps).imp fun hlt first hfirst second hsecond => .inl ?_
    rw [(Step.mem_lacks_iff.mp hfirst).1, (Step.mem_lacks_iff.mp hsecond).1]
    exact hlt

end Lack

namespace Timeline

/-- The induction is on the steps: the first that lacks something is where the run stops, and what
it lacks first is what the run fails with. -/
theorem Run.through_eq_error_of_lacks {run : Run} {numbered : List (Nat × Step)} {lack : Lack}
    {others : List Lack}
    (h : (numbered.flatMap fun counted => counted.2.lacks counted.1) = lack :: others) :
    run.through (numbered.map Prod.snd) = .error lack.cause := by
  induction numbered generalizing run with
  | nil => cases h
  | cons counted numbered ih =>
    rw [List.flatMap_cons] at h
    rw [List.map_cons]
    cases hlacks : counted.2.lacks counted.1 with
    | nil =>
      rw [hlacks, List.nil_append] at h
      obtain ⟨essentials, hessentials⟩ := Step.exists_essentials_of_lacks_eq_nil hlacks
      rw [through_cons_of_ok hessentials]
      exact ih h
    | cons first rest =>
      rw [hlacks] at h
      cases h
      exact through_cons_of_error (Step.essentials_eq_error_of_lacks hlacks)

theorem trace_eq_error_of_lacks {steps : List Step} {lack : Lack} {others : List Lack}
    (h : Lack.all steps = lack :: others) : trace steps = .error (.missing lack.cause) := by
  have hthrough : Run.start.through ((Text.counted steps).map Prod.snd) = .error lack.cause :=
    Run.through_eq_error_of_lacks h
  rw [Text.map_snd_counted] at hthrough
  rw [trace_eq, hthrough]
  rfl

theorem exists_trace_of_all_eq_nil {steps : List Step} (h : Lack.all steps = []) :
    ∃ timeline, trace steps = .ok timeline := by
  refine exists_trace_eq_ok_iff.mpr fun step hstep => ?_
  obtain ⟨index, hindex, rfl⟩ := List.getElem_of_mem hstep
  have hcounted : (index + 1, steps[index]) ∈ Text.counted steps :=
    Text.mem_counted_iff.mpr ⟨index, rfl, List.getElem?_eq_getElem hindex⟩
  exact Step.exists_essentials_of_lacks_eq_nil (List.flatMap_eq_nil_iff.mp h _ hcounted)

end Timeline

namespace Checker

theorem flatMap_stepProblems (steps : List Step) :
    (Step.labelled steps).flatMap stepProblems = (Lack.all steps).map Lack.problem := by
  unfold Step.labelled Lack.all
  rw [List.flatMap_map, List.map_flatMap]
  exact List.flatMap_congr fun counted _ =>
    counted.2.stepProblems_eq_map_problem counted.1

/-- The problems of a document whose steps can be read, apart from those of its steps. -/
def documentProblems (checker : Checker) (profile : Profile) : List Problem :=
  checker.typeProblems profile ++ demand .profileTitle profile.title? ++
    demand .profileNotes profile.notes?

theorem ne_missingProperty_of_mem {checker : Checker} {profile : Profile} {problem : Problem}
    (h : problem ∈ checker.documentProblems profile) (label : StepLabel) (key : StepKey) :
    problem ≠ .missingProperty label key := by
  rintro rfl
  simp [documentProblems, typeProblems, demand] at h

theorem problems_eq_of_readAll (checker : Checker) {text shot : String} {profile : Profile}
    {steps : List Step} (hparse : Profile.parse text = .ok profile)
    (hshot : profile.advancedShot? = some shot) (hread : Step.readAll shot = .ok steps) :
    checker.problems text =
      checker.documentProblems profile ++ (Lack.all steps).map Lack.problem := by
  have hshotProblems : shotProblems profile = (Lack.all steps).map Lack.problem := by
    unfold shotProblems
    simp only [hshot, hread, flatMap_stepProblems]
  unfold documentProblems
  rw [checker.problems_eq hparse, hshotProblems, List.append_assoc, List.append_assoc]

end Checker

/-- **One diagnosis.** Of a document whose steps can be read, any checker reports each property that
a step lacks once, with the number and the name of the step, in the order of the steps and of the
required properties, after all that it has to say of the document itself. The steps have a trace
exactly when there is nothing of this kind to report, and otherwise the first of these reports and
the failure of the trace have the same cause. -/
theorem diagnosed_alike (checker : Checker) {text shot : String} {profile : Profile}
    {steps : List Step} (hparse : Profile.parse text = .ok profile)
    (hshot : profile.advancedShot? = some shot) (hread : Step.readAll shot = .ok steps) :
    ∃ others lacks, checker.problems text = others ++ lacks.map Lack.problem ∧
      checker.errors text = others.map Problem.message ++ lacks.map Lack.report ∧
      (∀ problem ∈ others, ∀ label key, problem ≠ .missingProperty label key) ∧
      (∀ lack, lack ∈ lacks ↔ ∃ index, lack.number = index + 1 ∧
        steps[index]? = some lack.step ∧ lack.key ∈ [StepKey.seconds, .transition, .pump] ∧
          lack.step.first? lack.key = none) ∧
      lacks.Pairwise Lack.Before ∧
      ((∃ timeline, Timeline.trace steps = .ok timeline) ↔ lacks = []) ∧
      ∀ lack rest, lacks = lack :: rest →
        Timeline.trace steps = .error (.missing lack.cause) := by
  have hproblems := checker.problems_eq_of_readAll hparse hshot hread
  refine ⟨checker.documentProblems profile, Lack.all steps, hproblems, ?_, ?_, ?_,
    Lack.pairwise_all steps, ?_, ?_⟩
  · unfold Checker.errors
    rw [hproblems, List.map_append, List.map_map]
    exact congrArg _ (List.map_congr_left fun lack _ => lack.message_problem)
  · intro problem hproblem
    exact Checker.ne_missingProperty_of_mem hproblem
  · intro lack
    exact Lack.mem_all_iff
  · constructor
    · rintro ⟨timeline, htimeline⟩
      cases hlacks : Lack.all steps with
      | nil => rfl
      | cons lack rest => cases htimeline.symm.trans (Timeline.trace_eq_error_of_lacks hlacks)
    · exact Timeline.exists_trace_of_all_eq_nil
  · intro lack rest hlacks
    exact Timeline.trace_eq_error_of_lacks hlacks

/-- A document without notes and of no type, whose first step has nothing but a name, and whose
second one has no pump. -/
def lapsedText : String :=
  "profile_title P\nadvanced_shot \x7b\x7bname bloom\x7d\x7bseconds 9 transition fast\x7d\x7d"

theorem diagnosed_alike_lapsedText :
    ∃ profile shot steps lack rest, Profile.parse lapsedText = .ok profile ∧
      profile.advancedShot? = some shot ∧ Step.readAll shot = .ok steps ∧
      Checker.problems ⟨false⟩ lapsedText =
        .missingCommand .profileNotes :: (lack :: rest).map Lack.problem ∧
      lack.problem = .missingProperty ⟨1, some "bloom"⟩ .seconds ∧ rest.length = 3 ∧
      Timeline.trace steps = .error (.missing lack.cause) := by
  have hproblems : Checker.problems ⟨false⟩ lapsedText =
      [.missingCommand .profileNotes, .missingProperty ⟨1, some "bloom"⟩ .seconds,
        .missingProperty ⟨1, some "bloom"⟩ .transition, .missingProperty ⟨1, some "bloom"⟩ .pump,
        .missingProperty ⟨2, none⟩ .pump] := by
    decide +kernel
  have hreads : ((Profile.parse lapsedText).toOption.any fun profile =>
      profile.advancedShot?.any fun shot => (Step.readAll shot).toOption.isSome) = true := by
    decide +kernel
  simp only [Option.any_eq_true, toOption_eq_some_iff, Option.isSome_iff_exists] at hreads
  obtain ⟨profile, hparse, shot, hshot, steps, hread⟩ := hreads
  obtain ⟨others, lacks, hsplit, _, hothers, _, _, _, hfails⟩ :=
    diagnosed_alike ⟨false⟩ hparse hshot hread
  rw [hproblems] at hsplit
  rcases List.cons_eq_append_iff.mp hsplit with ⟨_, hlacks⟩ | ⟨later, rfl, htail⟩
  · obtain ⟨lack, rest, _, hlack, _⟩ := List.map_eq_cons_iff.mp hlacks
    cases hlack
  · rcases List.cons_eq_append_iff.mp htail with ⟨_, hlacks⟩ | ⟨_, rfl, _⟩
    · obtain ⟨lack, rest, rfl, hlack, hrest⟩ := List.map_eq_cons_iff.mp hlacks
      refine ⟨profile, shot, steps, lack, rest, hparse, hshot, hread, ?_, hlack, ?_,
        hfails lack rest rfl⟩
      · rw [hproblems, hlacks]
      · rw [← List.length_map Lack.problem, hrest]
        rfl
    · exact absurd rfl (hothers _ (List.mem_cons_of_mem _ List.mem_cons_self) _ _)

end Espresso
