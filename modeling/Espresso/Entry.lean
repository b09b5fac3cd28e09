import Espresso.Vocabulary.Key

/-!
# Entries

A key with its value, as it stands in a step or in a document. An entry whose key the vocabulary
does not know keeps both as text. A look-up by key gives the first value, in the type of the key's
kind.
-/

namespace Espresso

inductive Entry (K : Type) [Vocabulary K] where
  | known (key : K) (value : (Vocabulary.kind key).Value)
  | unknown (key value : String)

abbrev Property := Entry StepKey

abbrev Command := Entry CommandKey

namespace Entry

variable {K : Type} [Vocabulary K]

def value? [DecidableEq K] (key : K) : Entry K → Option (Vocabulary.kind key).Value
  | known found value => if h : found = key then some (h ▸ value) else none
  | unknown _ _ => none

def key? : Entry K → Option K
  | known key _ => some key
  | unknown _ _ => none

def unknownKey? : Entry K → Option String
  | known _ _ => none
  | unknown key _ => some key

def first? [DecidableEq K] (key : K) (entries : List (Entry K)) :
    Option (Vocabulary.kind key).Value :=
  entries.findSome? (value? key)

@[simp]
theorem value?_known_self [DecidableEq K] (key : K) (value : (Vocabulary.kind key).Value) :
    (known key value).value? key = some value := by
  simp [value?]

theorem value?_known_of_ne [DecidableEq K] {key other : K} (h : other ≠ key)
    (value : (Vocabulary.kind other).Value) : (known other value).value? key = none := by
  simp [value?, h]

@[simp]
theorem value?_unknown [DecidableEq K] (key : K) (name value : String) :
    (unknown name value : Entry K).value? key = none :=
  rfl

theorem known_mem_of_first? [DecidableEq K] {key : K} {value : (Vocabulary.kind key).Value}
    {entries : List (Entry K)} (h : first? key entries = some value) :
    known key value ∈ entries := by
  obtain ⟨entry, hmem, hvalue⟩ := List.exists_of_findSome?_eq_some h
  cases entry with
  | unknown name text => cases hvalue
  | known found other =>
    by_cases hfound : found = key
    · subst hfound
      rw [value?_known_self] at hvalue
      cases hvalue
      exact hmem
    · rw [value?_known_of_ne hfound] at hvalue
      cases hvalue

end Entry

end Espresso
