import Espresso.Reading.Command
import Espresso.Reading.Step

/-!
# Profiles

The parsed form of one profile document. A look-up gives the first value of a command; a document
may name several profile types, and belongs to each of them.
-/

namespace Espresso

structure Profile where
  commands : List Command

namespace Profile

/-- Byte order marks at the start of a document are no part of it. -/
def parse (text : String) : Except ParseError Profile :=
  (Reading.commandReader.readWhole (text.toList.dropWhile (· == '\ufeff'))).map Profile.mk

def first? (profile : Profile) (key : CommandKey) : Option (Vocabulary.kind key).Value :=
  Entry.first? key profile.commands

def hasType (profile : Profile) (type : ProfileType) : Bool :=
  profile.commands.any fun command => command.value? .settingsProfileType == some type

def isAdvanced (profile : Profile) : Bool :=
  profile.hasType .advanced

def type? (profile : Profile) : Option ProfileType :=
  profile.first? .settingsProfileType

def title? (profile : Profile) : Option String :=
  profile.first? .profileTitle

def notes? (profile : Profile) : Option String :=
  profile.first? .profileNotes

def author? (profile : Profile) : Option String :=
  profile.first? .author

def beverage? (profile : Profile) : Option Beverage :=
  profile.first? .beverageType

/-- The text of the steps, closed by a line break. -/
def advancedShot? (profile : Profile) : Option String :=
  let shot? : Option String := profile.first? .advancedShot
  shot?.map (· ++ "\n")

def steps (profile : Profile) : Except Failure (List Step) :=
  match profile.advancedShot? with
  | some shot => (Step.readAll shot).mapError .unreadable
  | none => .error (.missing ⟨CommandKey.advancedShot.tag, "profile"⟩)

def unknownKeys (profile : Profile) : List String :=
  profile.commands.filterMap Entry.unknownKey?

end Profile

end Espresso
