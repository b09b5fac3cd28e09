import Espresso.Preset.Admission
import Espresso.Profile.Warning
import Espresso.Proofs.Result

/-!
# Look-ups

The catalog and the checkers look commands up and ask whether a profile is advanced. Two documents
whose profiles agree in that are admitted alike and have the same problems, and the same warnings
but for the keys that nobody knows.
-/

namespace Espresso

namespace Profile

/-- Two profiles say the same to everything that looks commands up. -/
structure Agrees (first second : Profile) : Prop where
  title : first.title? = second.title?
  notes : first.notes? = second.notes?
  author : first.author? = second.author?
  beverage : first.beverage? = second.beverage?
  type : first.type? = second.type?
  advancedShot : first.advancedShot? = second.advancedShot?
  steps : first.steps = second.steps

theorem agrees_of_first?_eq {first second : Profile}
    (h : ∀ key, first.first? key = second.first? key) : first.Agrees second := by
  have hshot : first.advancedShot? = second.advancedShot? := by
    unfold advancedShot?
    rw [h]
  refine ⟨h _, h _, h _, h _, h _, hshot, ?_⟩
  unfold steps
  rw [hshot]

/-- The document without the byte order marks in front of it. -/
def body (text : String) : List Char :=
  text.toList.dropWhile (· == '\ufeff')

theorem parse_eq (text : String) :
    Profile.parse text = (Reading.commandReader.readWhole (body text)).map Profile.mk :=
  rfl

theorem parse_eq_ok_iff {text : String} {profile : Profile} :
    Profile.parse text = .ok profile ↔
      Reading.commandReader.readWhole (body text) = .ok profile.commands := by
  rw [parse_eq, map_eq_ok_iff]
  constructor
  · rintro ⟨_, hread, rfl⟩
    exact hread
  · intro hread
    exact ⟨_, hread, rfl⟩

end Profile

/-- The comment on a key that nobody knows. -/
def Warning.unknownComment (key : String) : String :=
  s!"Unknown command '{key}' is kept but not interpreted"

/-- What a checker warns of besides the keys that nobody knows. -/
def Checker.furtherWarnings (checker : Checker) (profile : Profile) : List Warning :=
  (if !checker.requireAdvanced && !profile.isAdvanced then [.notAdvanced] else []) ++
    shotWarnings profile

section Agrees

variable {first second : Profile} (h : first.Agrees second)
include h

theorem Preset.ofProfile_congr (name : String) : ofProfile name first = ofProfile name second := by
  unfold ofProfile
  rw [h.title, h.notes, h.advancedShot]

theorem Checker.shotProblems_congr : shotProblems first = shotProblems second := by
  unfold shotProblems
  rw [h.advancedShot]

theorem Checker.typeProblems_congr {checker : Checker}
    (hadvanced : checker.requireAdvanced = true → first.isAdvanced = second.isAdvanced) :
    checker.typeProblems first = checker.typeProblems second := by
  unfold typeProblems
  rw [h.type]
  cases hrequired : checker.requireAdvanced with
  | false => rfl
  | true => rw [hadvanced hrequired]

theorem Checker.furtherWarnings_congr (hadvanced : first.isAdvanced = second.isAdvanced)
    (checker : Checker) : checker.furtherWarnings first = checker.furtherWarnings second := by
  unfold furtherWarnings shotWarnings
  rw [hadvanced, h.advancedShot]

end Agrees

section Documents

variable {text other : String} {error : ParseError} {first second : Profile}

theorem Document.admit_of_error (hparse : Profile.parse text = .error error) (name : String) :
    Document.admit ⟨name, text⟩ = .error (.unreadable error) := by
  unfold Document.admit
  simp only [hparse]

theorem Checker.problems_of_error (hparse : Profile.parse text = .error error)
    (checker : Checker) : checker.problems text = [.unreadable error] := by
  simp [problems, hparse]

theorem Checker.comments_of_error (hparse : Profile.parse text = .error error)
    (checker : Checker) : checker.comments text = [] := by
  simp [comments, warnings, hparse]

/-- A checker's verdict is about the problems. -/
theorem Checker.verdict_congr {checker : Checker}
    (h : checker.problems text = checker.problems other) :
    checker.accepts text = checker.accepts other ∧ checker.errors text = checker.errors other :=
  ⟨congrArg List.isEmpty h, congrArg (List.map Problem.message) h⟩

theorem Checker.problems_eq (hparse : Profile.parse text = .ok first) (checker : Checker) :
    checker.problems text = checker.typeProblems first ++
      (demand .profileTitle first.title? ++ (demand .profileNotes first.notes? ++
        shotProblems first)) := by
  simp [problems, hparse]

theorem Checker.warnings_eq (hparse : Profile.parse text = .ok first) (checker : Checker) :
    checker.warnings text =
      first.unknownKeys.map .unknownCommand ++ checker.furtherWarnings first := by
  simp [warnings, furtherWarnings, hparse]

theorem Checker.comments_eq (hparse : Profile.parse text = .ok first) (checker : Checker) :
    checker.comments text = first.unknownKeys.map Warning.unknownComment ++
      (checker.furtherWarnings first).map Warning.message := by
  unfold comments
  rw [checker.warnings_eq hparse, List.map_append, List.map_map]
  rfl

variable (hparse : Profile.parse text = .ok first) (hother : Profile.parse other = .ok second)
  (hagrees : first.Agrees second)
include hparse hother hagrees

theorem Document.admit_congr (hadvanced : first.isAdvanced = second.isAdvanced) (name : String) :
    Document.admit ⟨name, text⟩ = Document.admit ⟨name, other⟩ := by
  unfold Document.admit
  simp only [hparse, hother, hadvanced, Preset.ofProfile_congr hagrees, hagrees.type]

theorem Checker.problems_congr {checker : Checker}
    (hadvanced : checker.requireAdvanced = true → first.isAdvanced = second.isAdvanced) :
    checker.problems text = checker.problems other := by
  rw [checker.problems_eq hparse, checker.problems_eq hother, hagrees.title, hagrees.notes,
    shotProblems_congr hagrees, typeProblems_congr hagrees hadvanced]

end Documents

end Espresso
