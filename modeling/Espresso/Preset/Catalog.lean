import Espresso.Preset.Admission
import Espresso.Trace.Timeline

/-!
# Catalogs

The admitted presets in the order of their titles, and of their names where titles are alike. They
are found by an index of names; a name that occurs twice stands for the first preset that bears it.
-/

namespace Espresso

/-- Titles and names are compared code point by code point. -/
def Preset.precedes (first second : Preset) : Bool :=
  decide (first.title < second.title) ||
    (first.title == second.title && decide (first.name ≤ second.name))

theorem Preset.precedes_trans (first second third : Preset)
    (hfirst : first.precedes second = true) (hsecond : second.precedes third = true) :
    first.precedes third = true := by
  simp only [precedes, Bool.or_eq_true, Bool.and_eq_true, decide_eq_true_eq, beq_iff_eq]
    at hfirst hsecond ⊢
  rcases hfirst with hlt | ⟨heq, hle⟩ <;> rcases hsecond with hlt' | ⟨heq', hle'⟩
  · exact .inl (String.lt_trans hlt hlt')
  · exact .inl (heq' ▸ hlt)
  · exact .inl (heq ▸ hlt')
  · exact .inr ⟨heq.trans heq', String.le_trans hle hle'⟩

theorem Preset.precedes_total (first second : Preset) :
    (first.precedes second || second.precedes first) = true := by
  simp only [precedes, Bool.or_eq_true, Bool.and_eq_true, decide_eq_true_eq, beq_iff_eq]
  by_cases hlt : first.title < second.title
  · exact .inl (.inl hlt)
  · by_cases hgt : second.title < first.title
    · exact .inr (.inl hgt)
    · have heq : first.title = second.title :=
        String.le_antisymm (String.not_lt.mp hgt) (String.not_lt.mp hlt)
      rcases String.le_total first.name second.name with hle | hle
      · exact .inl (.inr ⟨heq, hle⟩)
      · exact .inr (.inr ⟨heq.symm, hle⟩)

/-- Presets under their names. -/
structure NameIndex where
  entries : List (String × Preset)

namespace NameIndex

def empty : NameIndex :=
  ⟨[]⟩

def find? (index : NameIndex) (name : String) : Option Preset :=
  index.entries.lookup name

/-- A name stays with the preset that was the first to come under it. -/
def enter (index : NameIndex) (preset : Preset) : NameIndex :=
  match index.find? preset.name with
  | some _ => index
  | none => ⟨(preset.name, preset) :: index.entries⟩

def ofPresets (presets : List Preset) : NameIndex :=
  presets.foldl enter empty

end NameIndex

structure Catalog where
  presets : List Preset
  index : NameIndex
  ordered : presets.Pairwise fun first second => first.precedes second = true
  indexed : index = .ofPresets presets

namespace Catalog

/-- Presets that agree in title and name stay in the order in which they came. -/
def ofPresets (presets : List Preset) : Catalog where
  presets := presets.mergeSort Preset.precedes
  index := .ofPresets (presets.mergeSort Preset.precedes)
  ordered := List.pairwise_mergeSort Preset.precedes_trans Preset.precedes_total presets
  indexed := rfl

/-- The catalog of the sources that are admitted, and one record for each of the others. -/
def ofSources (sources : List Source) : Catalog × List Record :=
  let verdicts := sources.map Source.judge
  (ofPresets (verdicts.filterMap Except.toOption),
    verdicts.filterMap fun
      | .ok _ => none
      | .error record => some record)

def ofDocuments (documents : List Document) : Catalog × List Record :=
  ofSources (documents.map Document.toSource)

def size (catalog : Catalog) : Nat :=
  catalog.presets.length

def names (catalog : Catalog) : List String :=
  catalog.presets.map Preset.name

def contains (catalog : Catalog) (name : String) : Bool :=
  (catalog.index.find? name).isSome

def get (catalog : Catalog) (name : String) : Except Failure Preset :=
  match catalog.index.find? name with
  | some preset => .ok preset
  | none => .error (.unknownPreset name)

def timeline (catalog : Catalog) (name : String) : Except Failure Timeline := do
  let preset ← catalog.get name
  Timeline.trace (← preset.steps)

end Catalog

end Espresso
