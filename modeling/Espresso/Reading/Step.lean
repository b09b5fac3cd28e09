import Espresso.Reading.Entry
import Espresso.Step

/-!
# Reading steps

A step is a run of properties between braces. Properties are separated by blanks, steps may touch.
-/

namespace Espresso.Reading

/-- A run of properties ends with the text or before a closing brace. -/
def endsProperties : List Char → Bool
  | [] => true
  | c :: _ => c == '}'

/-- The properties after the first. The blanks before the end of the run are left. -/
def readMoreProperties (text : List Char) : Reading (List Property) :=
  if Text.startsBlank text && !endsProperties (Text.skipBlanks text) then
    match h : readEntry StepKey (Text.skipBlanks text) with
    | .ok (property, rest) =>
      have : rest.length < text.length :=
        Nat.lt_of_lt_of_le (length_lt_of_readEntry h) (Text.length_skipBlanks_le text)
      (readMoreProperties rest).map (property :: ·)
    | .error error => .error error
  else .ok ([], text)
termination_by text.length

def readProperties (text : List Char) : Reading (List Property) :=
  if endsProperties text then .ok ([], text)
  else
    match readEntry StepKey text with
    | .ok (property, rest) => (readMoreProperties rest).map (property :: ·)
    | .error error => .error error

def readStep : List Char → Reading Step
  | '{' :: body =>
    match readProperties (Text.skipBlanks body) with
    | .ok (properties, rest) =>
      match Text.skipBlanks rest with
      | '}' :: after => .ok (⟨properties⟩, after)
      | other => stuck .stepClosing other
    | .error error => .error error
  | text => stuck .stepOpening text

theorem suffix_of_readMoreProperties {text rest : List Char} {properties : List Property}
    (h : readMoreProperties text = .ok (properties, rest)) : rest <:+ text := by
  fun_induction readMoreProperties text generalizing properties with
  | case1 text _ property left hentry _ ih =>
    obtain ⟨more, hmore, _⟩ := map_eq_ok_iff.mp h
    exact ((ih hmore).trans (suffix_of_readEntry hentry)).trans (Text.skipBlanks_suffix text)
  | case2 => cases h
  | case3 =>
    cases h
    exact List.suffix_refl _

theorem suffix_of_readProperties {text rest : List Char} {properties : List Property}
    (h : readProperties text = .ok (properties, rest)) : rest <:+ text := by
  unfold readProperties at h
  split at h
  · cases h
    exact List.suffix_refl _
  · split at h
    · next hentry =>
      obtain ⟨more, hmore, _⟩ := map_eq_ok_iff.mp h
      exact (suffix_of_readMoreProperties hmore).trans (suffix_of_readEntry hentry)
    · cases h

theorem length_lt_of_readStep {text rest : List Char} {step : Step}
    (h : readStep text = .ok (step, rest)) : rest.length < text.length := by
  unfold readStep at h
  split at h
  · next body =>
    split at h
    · next hproperties =>
      split at h
      · next hclosing =>
        cases h
        have hrest := (Text.skipBlanks_suffix _).trans (suffix_of_readProperties hproperties)
        rw [hclosing] at hrest
        have hlength := (hrest.trans (Text.skipBlanks_suffix _)).length_le
        simp only [List.length_cons] at hlength ⊢
        omega
      · exact absurd h stuck_ne_ok
    · cases h
  · exact absurd h stuck_ne_ok

def stepReader : ItemReader Step where
  opens c := c == '{'
  read := readStep
  shrinks := length_lt_of_readStep

end Espresso.Reading

namespace Espresso

def Step.readAll (text : String) : Except ParseError (List Step) :=
  Reading.stepReader.readWhole text.toList

end Espresso
