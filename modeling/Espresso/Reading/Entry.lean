import Espresso.Entry
import Espresso.Reading.Tag
import Espresso.Reading.Token

/-!
# Reading entries

A key, blanks, and a value of the key's kind. A key the vocabulary does not know carries text.
-/

namespace Espresso.Reading

def isKeyChar (c : Char) : Bool :=
  c.isAlphanum || c == '_'

def readValue (endsWord : Char → Bool) : (kind : Kind) → List Char → Reading kind.Value
  | .flag => readFlag
  | .number => readNumber
  | .text => readText endsWord
  | .transition => readTag
  | .sensor => readTag
  | .pump => readTag
  | .exit => readTag
  | .beverage => readTag
  | .profileType => readTag

/-- The value that follows a key and the blanks after it. -/
def readKeyed (K : Type) [Vocabulary K] (name : String) (text : List Char) : Reading (Entry K) :=
  match Tagged.ofTag? name with
  | some key =>
    (readValue (Vocabulary.endsWord K) (Vocabulary.kind key) text).map fun value =>
      .known key value
  | none => (readText (Vocabulary.endsWord K) text).map fun value => .unknown name value

def readEntry (K : Type) [Vocabulary K] (text : List Char) : Reading (Entry K) :=
  let name := text.takeWhile isKeyChar
  let rest := text.dropWhile isKeyChar
  if name.isEmpty then stuck .key text
  else if Text.startsBlank rest then readKeyed K (String.ofList name) (Text.skipBlanks rest)
  else stuck (.unspacedKey (String.ofList name)) rest

theorem suffix_of_readValue {endsWord : Char → Bool} {kind : Kind} {text rest : List Char}
    {value : kind.Value} (h : readValue endsWord kind text = .ok (value, rest)) :
    rest <:+ text := by
  cases kind with
  | flag => exact suffix_of_readFlag h
  | number => exact suffix_of_readNumber h
  | text => exact suffix_of_readText h
  | transition | sensor | pump | exit | beverage | profileType => exact suffix_of_readTag h

variable {K : Type} [Vocabulary K]

theorem suffix_of_readKeyed {name : String} {text rest : List Char} {entry : Entry K}
    (h : readKeyed K name text = .ok (entry, rest)) : rest <:+ text := by
  unfold readKeyed at h
  split at h
  · obtain ⟨value, hvalue, _⟩ := map_eq_ok_iff.mp h
    exact suffix_of_readValue hvalue
  · obtain ⟨value, hvalue, _⟩ := map_eq_ok_iff.mp h
    exact suffix_of_readText hvalue

/-- What follows a key and the blanks after it. -/
def valueText (text : List Char) : List Char :=
  Text.skipBlanks (text.dropWhile isKeyChar)

theorem suffix_of_valueText (text : List Char) : valueText text <:+ text :=
  (Text.skipBlanks_suffix _).trans (List.dropWhile_suffix _)

theorem readEntry_eq_ok_iff {text rest : List Char} {entry : Entry K} :
    readEntry K text = .ok (entry, rest) ↔
      text.takeWhile isKeyChar ≠ [] ∧ Text.startsBlank (text.dropWhile isKeyChar) = true ∧
        readKeyed K (String.ofList (text.takeWhile isKeyChar)) (valueText text) =
          .ok (entry, rest) := by
  unfold readEntry valueText
  dsimp only
  split
  · next hempty => simp [List.isEmpty_iff.mp hempty, stuck_ne_ok]
  · next hname =>
    have hne : text.takeWhile isKeyChar ≠ [] := mt List.isEmpty_iff.mpr hname
    split
    · next hblank => simp [hblank, hne]
    · next hblank => simp [hblank, stuck_ne_ok]

theorem suffix_of_readEntry {text rest : List Char} {entry : Entry K}
    (h : readEntry K text = .ok (entry, rest)) : rest <:+ text := by
  obtain ⟨_, _, hkeyed⟩ := readEntry_eq_ok_iff.mp h
  exact (suffix_of_readKeyed hkeyed).trans (suffix_of_valueText text)

/-- The blanks after its key are taken with the entry, so something always is. -/
theorem length_lt_of_readEntry {text rest : List Char} {entry : Entry K}
    (h : readEntry K text = .ok (entry, rest)) : rest.length < text.length := by
  obtain ⟨_, hblank, hkeyed⟩ := readEntry_eq_ok_iff.mp h
  calc rest.length
      ≤ (valueText text).length := (suffix_of_readKeyed hkeyed).length_le
    _ < (text.dropWhile isKeyChar).length := Text.length_skipBlanks_lt hblank
    _ ≤ text.length := (List.dropWhile_suffix isKeyChar).length_le

end Espresso.Reading
