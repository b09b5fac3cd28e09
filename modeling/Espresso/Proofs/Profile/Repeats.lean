import Espresso.Proofs.Grammar.Command
import Espresso.Proofs.Profile.Acceptance
import Espresso.Proofs.Profile.Lookup
import Espresso.Proofs.Step.Repeats

/-!
# Repeated commands

A look-up takes the first value of a command, so repeats go unnoticed, with one exception: a
document belongs to every type that it names. What becomes of a document depends on its repeats just
when it names the advanced type after another one.
-/

namespace Espresso

namespace Profile

def types (profile : Profile) : List ProfileType :=
  Entry.values CommandKey.settingsProfileType profile.commands

def dropRepeats (profile : Profile) : Profile :=
  ⟨Entry.dropRepeats [] profile.commands⟩

/-- A profile that is advanced by any of its types is so by the first. -/
def Settled (profile : Profile) : Prop :=
  profile.isAdvanced = true → profile.type? = some .advanced

variable {profile : Profile} {type : ProfileType}

theorem head?_types : profile.types.head? = profile.type? :=
  Entry.head?_values CommandKey.settingsProfileType profile.commands

theorem hasType_iff : profile.hasType type = true ↔ type ∈ profile.types :=
  Entry.any_value?_iff (K := CommandKey)

theorem hasType_of_type? (h : profile.type? = some type) : profile.hasType type = true := by
  rw [← head?_types] at h
  exact hasType_iff.mpr (List.mem_of_head? h)

theorem hasType_iff_type?_iff :
    (∀ type, profile.hasType type = true ↔ profile.type? = some type) ↔
      ∀ type ∈ profile.types, profile.type? = some type := by
  constructor
  · intro h type hmem
    exact (h type).mp (hasType_iff.mpr hmem)
  · intro h type
    exact ⟨fun htype => h type (hasType_iff.mp htype), hasType_of_type?⟩

theorem first?_dropRepeats (profile : Profile) (key : CommandKey) :
    profile.dropRepeats.first? key = profile.first? key :=
  Entry.first?_dropRepeats key profile.commands

theorem agrees_dropRepeats (profile : Profile) : Agrees profile.dropRepeats profile :=
  agrees_of_first?_eq profile.first?_dropRepeats

theorem types_dropRepeats (profile : Profile) :
    profile.dropRepeats.types = profile.type?.toList := by
  rw [← head?_types, ← List.take_one]
  exact Entry.values_dropRepeats CommandKey.settingsProfileType [] profile.commands

theorem hasType_dropRepeats_iff :
    profile.dropRepeats.hasType type = true ↔ profile.type? = some type := by
  rw [hasType_iff, types_dropRepeats, Option.mem_toList]

theorem isAdvanced_of_dropRepeats (h : profile.dropRepeats.isAdvanced = true) :
    profile.isAdvanced = true :=
  hasType_of_type? (hasType_dropRepeats_iff.mp h)

theorem isAdvanced_dropRepeats_iff :
    profile.dropRepeats.isAdvanced = profile.isAdvanced ↔ profile.Settled := by
  have hdropped : profile.dropRepeats.isAdvanced = true ↔ profile.type? = some .advanced :=
    hasType_dropRepeats_iff
  rw [Bool.eq_iff_iff]
  constructor
  · intro h hadvanced
    exact hdropped.mp (h.mpr hadvanced)
  · intro hsettled
    exact ⟨isAdvanced_of_dropRepeats, fun hadvanced => hdropped.mpr (hsettled hadvanced)⟩

end Profile

section

variable {text short : String} {profile : Profile}

theorem Document.admit_eq_filtered_iff (hparse : Profile.parse text = .ok profile) (name : String) :
    Document.admit ⟨name, text⟩ = .ok (.filtered profile.type?) ↔ profile.isAdvanced = false := by
  unfold Document.admit
  simp only [hparse]
  cases profile.isAdvanced with
  | false => simp
  | true =>
    simp only [if_true, Bool.true_eq_false, iff_false]
    split <;> simp

/-- The catalog makes of a document what it makes of the one without repeats, as long as the first
type settles whether it is advanced. -/
theorem Document.admit_dropRepeats_iff (hparse : Profile.parse text = .ok profile)
    (hshort : Profile.parse short = .ok profile.dropRepeats) (name : String) :
    Document.admit ⟨name, short⟩ = Document.admit ⟨name, text⟩ ↔ profile.Settled := by
  have hagrees := profile.agrees_dropRepeats
  rw [← Profile.isAdvanced_dropRepeats_iff]
  constructor
  · intro h
    have hfiltered := Document.admit_eq_filtered_iff hparse name
    rw [← h, ← hagrees.type, Document.admit_eq_filtered_iff hshort] at hfiltered
    cases hadvanced : profile.isAdvanced with
    | false => exact hfiltered.mpr hadvanced
    | true =>
      refine (Bool.not_eq_false _).mp fun hfirst => ?_
      rw [hfiltered.mp hfirst] at hadvanced
      cases hadvanced
  · intro h
    exact Document.admit_congr hshort hparse hagrees h name

/-- So does a checker, and one that lets profiles of any type pass does so always. -/
theorem Checker.errors_dropRepeats_iff (hparse : Profile.parse text = .ok profile)
    (hshort : Profile.parse short = .ok profile.dropRepeats) (checker : Checker) :
    (checker.accepts short = checker.accepts text ∧ checker.errors short = checker.errors text) ↔
      (checker.requireAdvanced = true → profile.Settled) := by
  have hagrees := profile.agrees_dropRepeats
  have hproblems := checker.problems_eq hparse
  have hshortProblems := checker.problems_eq hshort
  rw [hagrees.title, hagrees.notes, shotProblems_congr hagrees] at hshortProblems
  rw [← Profile.isAdvanced_dropRepeats_iff]
  constructor
  · rintro ⟨-, herrors⟩ hadvanced
    -- Apart from the type both texts have the same problems, so the counts tell the types apart.
    have hlength := congrArg List.length herrors
    simp only [errors, hproblems, hshortProblems, List.length_map, List.length_append,
      Nat.add_right_cancel_iff] at hlength
    have hnil :
        checker.typeProblems profile.dropRepeats = [] ↔ checker.typeProblems profile = [] := by
      rw [← List.length_eq_zero_iff, hlength, List.length_eq_zero_iff]
    rw [typeProblems_eq_nil_iff, typeProblems_eq_nil_iff] at hnil
    rw [Bool.eq_iff_iff]
    exact ⟨fun h => hnil.mp (fun _ => h) hadvanced, fun h => hnil.mpr (fun _ => h) hadvanced⟩
  · intro h
    exact Checker.verdict_congr (checker.problems_congr hshort hparse hagrees h)

namespace Profile

/-- Whatever commands are taken out of a document, the others can be written as one. -/
theorem exists_parse_of_sublist (hparse : Profile.parse text = .ok profile)
    {commands : List Command} (hsub : commands.Sublist profile.commands) :
    ∃ short, Profile.parse short = .ok ⟨commands⟩ := by
  have hspelled : ∀ command ∈ commands, ∃ token, command.Spelled False token :=
    fun command hcommand =>
      Reading.exists_spelled_of_mem (parse_eq_ok_iff.mp hparse) (hsub.subset hcommand)
  obtain ⟨chars, hapart, hstops⟩ := Reading.exists_spelledApart hspelled
  -- The text starts with a blank, and a byte order mark is none.
  have hbody : body (String.ofList chars) = chars := by
    unfold body
    rw [String.toList_ofList]
    cases chars with
    | nil => rfl
    | cons c chars =>
      have hblank : Text.isBlank c = true := hstops c rfl
      have hne : c ≠ '\ufeff' := by
        rintro rfl
        exact absurd hblank (by decide)
      simp [hne]
  refine ⟨String.ofList chars, parse_eq_ok_iff.mpr ?_⟩
  rw [hbody]
  exact Reading.readWhole_of_spelledApart hapart

/-- **Repeated commands.** A document belongs to its first type alone just when it names no other
one. The look-ups never notice a repeat. The catalog and a strict checker make of a document what
they make of it without repeats, unless it names the advanced type after another one. -/
theorem dropRepeats_unnoticed_iff_settled (hparse : Profile.parse text = .ok profile) :
    ((∀ type, profile.hasType type = true ↔ profile.type? = some type) ↔
      ∀ type ∈ profile.types, profile.type? = some type) ∧
    profile.dropRepeats.Agrees profile ∧
    (profile.dropRepeats.isAdvanced = profile.isAdvanced ↔ profile.Settled) ∧
    (∃ short, Profile.parse short = .ok profile.dropRepeats) ∧
    ∀ short, Profile.parse short = .ok profile.dropRepeats →
      (∀ name, Document.admit ⟨name, short⟩ = Document.admit ⟨name, text⟩ ↔ profile.Settled) ∧
      ∀ checker : Checker,
        (checker.accepts short = checker.accepts text ∧
            checker.errors short = checker.errors text) ↔
          (checker.requireAdvanced = true → profile.Settled) := by
  refine ⟨hasType_iff_type?_iff, profile.agrees_dropRepeats, isAdvanced_dropRepeats_iff,
    exists_parse_of_sublist hparse (Entry.dropRepeats_sublist [] profile.commands), ?_⟩
  intro short hshort
  exact ⟨Document.admit_dropRepeats_iff hparse hshort, Checker.errors_dropRepeats_iff hparse hshort⟩

/-- A document that names the advanced type after another one. -/
def twoTypes : String :=
  "settings_profile_type settings_2a settings_profile_type settings_2c"

theorem exists_parse_twoTypes :
    ∃ profile, Profile.parse twoTypes = .ok profile ∧ profile.isAdvanced = true ∧
      profile.type? = some .settings2a := by
  have hparse : (Profile.parse twoTypes).toOption.any
      (fun profile => profile.isAdvanced && profile.type? == some .settings2a) = true := by
    decide +kernel
  cases hprofile : Profile.parse twoTypes with
  | error error =>
    rw [hprofile] at hparse
    cases hparse
  | ok profile =>
    rw [hprofile] at hparse
    simpa [Except.toOption] using hparse

/-- Without its repeat the catalog makes something else of the document. -/
theorem exists_noticed_repeat :
    ∃ profile short, Profile.parse twoTypes = .ok profile ∧
      Profile.parse short = .ok profile.dropRepeats ∧
      Document.admit ⟨"two", short⟩ ≠ Document.admit ⟨"two", twoTypes⟩ := by
  obtain ⟨profile, hparse, hadvanced, hfirst⟩ := exists_parse_twoTypes
  obtain ⟨-, -, -, ⟨short, hshort⟩, hiff⟩ := dropRepeats_unnoticed_iff_settled hparse
  refine ⟨profile, short, hparse, hshort, fun hsame => ?_⟩
  have hsettled := ((hiff short hshort).1 "two").mp hsame hadvanced
  rw [hfirst] at hsettled
  cases hsettled

/-- A document can be of a type that is not its first one. -/
theorem not_forall_hasType_iff_type? :
    ¬ ∀ (text : String) (profile : Profile), Profile.parse text = .ok profile →
      ∀ type, profile.hasType type = true ↔ profile.type? = some type := by
  intro h
  obtain ⟨profile, hparse, hadvanced, hfirst⟩ := exists_parse_twoTypes
  have hadvancedFirst := (h twoTypes profile hparse .advanced).mp hadvanced
  rw [hfirst] at hadvancedFirst
  cases hadvancedFirst

end Profile

end

end Espresso
