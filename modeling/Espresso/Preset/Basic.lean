import Espresso.Profile.Basic

/-!
# Presets

What the catalog keeps of an advanced profile: the name of its document, and the three texts that
such a document must hold.
-/

namespace Espresso

structure Preset where
  name : String
  title : String
  notes : String
  advancedShot : String
  deriving DecidableEq, Repr

namespace Preset

def demand (name : String) (key : CommandKey) : Option String → Except Missing String
  | some value => .ok value
  | none => .error ⟨key.tag, s!"profile '{name}'"⟩

/-- Of several missing texts the first in the order title, notes, steps is reported. -/
def ofProfile (name : String) (profile : Profile) : Except Missing Preset := do
  let title ← demand name .profileTitle profile.title?
  let notes ← demand name .profileNotes profile.notes?
  let advancedShot ← demand name .advancedShot profile.advancedShot?
  return { name, title, notes, advancedShot }

def steps (preset : Preset) : Except Failure (List Step) :=
  (Step.readAll preset.advancedShot).mapError .unreadable

end Preset

end Espresso
