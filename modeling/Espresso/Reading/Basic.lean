import Espresso.Failure
import Espresso.Text.Blank

/-!
# Reading

A reader takes a value off the front of a text and leaves the rest, or says what stopped it and
where. The rest is always an end of the text; a reader of items leaves a shorter one, which is why
reading many of them ends.
-/

namespace Espresso

abbrev Reading (α : Type) := Except ParseError (α × List Char)

namespace Reading

variable {α β : Type}

def stuck (shape : Malformation) (remaining : List Char) : Reading α :=
  .error ⟨.malformed shape, remaining⟩

def map (f : α → β) : Reading α → Reading β
  | .ok (value, rest) => .ok (f value, rest)
  | .error error => .error error

theorem map_eq_ok_iff {f : α → β} {reading : Reading α} {result : β} {rest : List Char} :
    reading.map f = .ok (result, rest) ↔
      ∃ value, reading = .ok (value, rest) ∧ f value = result := by
  cases reading with
  | error error => simp [map]
  | ok pair =>
    obtain ⟨value, left⟩ := pair
    simp only [map, Except.ok.injEq, Prod.mk.injEq]
    constructor
    · rintro ⟨hvalue, hrest⟩
      exact ⟨value, ⟨rfl, hrest⟩, hvalue⟩
    · rintro ⟨other, ⟨hvalue, hrest⟩, hresult⟩
      exact ⟨hvalue ▸ hresult, hrest⟩

theorem stuck_ne_ok {shape : Malformation} {remaining rest : List Char} {value : α} :
    stuck shape remaining ≠ .ok (value, rest) := by
  simp [stuck]

end Reading

/-- A reader of whole items. An item starts with a character that `opens` it, and at least that
character is taken. -/
structure ItemReader (α : Type) where
  opens : Char → Bool
  read : List Char → Reading α
  shrinks : ∀ {text rest : List Char} {item : α},
    read text = .ok (item, rest) → rest.length < text.length

namespace ItemReader

variable {α : Type}

/-- Items with or without blanks before them, as many as follow one another. The blanks before
whatever comes next are left. -/
def readMany (reader : ItemReader α) (text : List Char) : Reading (List α) :=
  if (Text.skipBlanks text).head?.any reader.opens then
    match h : reader.read (Text.skipBlanks text) with
    | .ok (item, rest) =>
      have : rest.length < text.length :=
        Nat.lt_of_lt_of_le (reader.shrinks h) (Text.length_skipBlanks_le text)
      (readMany reader rest).map (item :: ·)
    | .error error => .error error
  else .ok ([], text)
termination_by text.length

/-- Items up to the end of the text, with nothing but blanks after them. -/
def readWhole (reader : ItemReader α) (text : List Char) : Except ParseError (List α) :=
  match reader.readMany text with
  | .ok (items, rest) =>
    if (Text.skipBlanks rest).isEmpty then .ok items
    else .error ⟨.malformed .trailing, Text.skipBlanks rest⟩
  | .error error => .error error

end ItemReader

end Espresso
