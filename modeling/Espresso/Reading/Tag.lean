import Espresso.Reading.Basic
import Espresso.Text.Lowercase
import Espresso.Vocabulary.Tag

/-!
# Reading tags

A tag is read by the longest spelling that the text starts with, so that no spelling hides a longer
one. A family that ignores case is compared in lower case, and the rest is cut from the text as it
was written.
-/

namespace Espresso.Reading

/-- Of the spellings that `text` starts with, the longest. -/
def longestSpelling? {α : Type} (spellings : List (String × α)) (text : List Char) :
    Option (String × α) :=
  (spellings.filter fun spelling => spelling.1.toList.isPrefixOf text).foldl
    (fun longest? spelling =>
      match longest? with
      | some longest => if longest.1.length < spelling.1.length then some spelling else some longest
      | none => some spelling)
    none

/-- The characters up to a blank or a brace, which a message shows for a tag that is none. -/
def tagLike (text : List Char) : List Char :=
  text.takeWhile fun c => !(Text.isBlank c || c == '{' || c == '}')

def readTag {α : Type} [Tagged α] (text : List Char) : Reading α :=
  let compared := if Tagged.ignoresCase α then Text.lowercase text else text
  match longestSpelling? (Tagged.spellings α) compared with
  | some (spelling, member) => .ok (member, text.drop spelling.length)
  | none => .error ⟨.unrecognized (String.ofList (tagLike text)) (Tagged.tags α), text⟩

theorem suffix_of_readTag {α : Type} [Tagged α] {text rest : List Char} {member : α}
    (h : readTag text = .ok (member, rest)) : rest <:+ text := by
  unfold readTag at h
  dsimp only at h
  split at h
  · cases h
    exact List.drop_suffix _ _
  · cases h

end Espresso.Reading
