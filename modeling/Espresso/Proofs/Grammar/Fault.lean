import Espresso.Proofs.Grammar.Entry

/-!
# Faults

How an entry breaks off: it lacks its name, the blank after the name, or a value of the kind that
belongs to the name. What stands before the input that is left is the front of some entry all the
same.
-/

namespace Espresso

/-- A fault shows a key, or the tag that is none and those it might have been, and no reader reports
what a host has found. -/
def Fault.Shows (text : List Char) : Fault → Prop
  | .unrecognized tag expected =>
    tag = String.ofList (Reading.tagLike text) ∧ ∀ word ∈ expected, Reading.IsName word.toList
  | .reported _ _ => False
  | .malformed (.unspacedKey name) => Reading.IsName name.toList
  | .malformed _ => True
  | .unterminated => True

theorem Tagged.Named.isName_of_mem_tags {α : Type} [Tagged α] (hnamed : Named α) {word : String}
    (h : word ∈ tags α) : Reading.IsName word.toList := by
  obtain ⟨member, _, rfl⟩ := List.mem_map.mp h
  exact hnamed.isName_spelling (tag member, member) (mem_spellings_iff.mpr (.inl rfl))

/-! ### Values and entries -/

theorem Kind.exists_spells (endsWord : Char → Bool) (kind : Kind) :
    ∃ value token, kind.Spells endsWord False value token := by
  cases kind with
  | flag => exact ⟨true, _, rfl⟩
  | number =>
    have hspelled : Decimal.Numeral.Spelled ⟨['1'], []⟩ ['1'] := .whole (by simp) (by simp)
    exact ⟨_, ['1'], hspelled.spellsValue⟩
  | text => exact ⟨_, _, SpellsText.braced Text.balanced_nil⟩
  | transition => exact ⟨_, _, Tagged.plain_transition.spelled_tag .fast⟩
  | sensor => exact ⟨_, _, Tagged.plain_sensor.spelled_tag .coffee⟩
  | pump => exact ⟨_, _, Tagged.plain_pump.spelled_tag .flow⟩
  | exit => exact ⟨_, _, Tagged.plain_exit.spelled_tag .flowOver⟩
  | beverage => exact ⟨.espresso, "espresso".toList, "espresso", by decide, by decide⟩
  | profileType => exact ⟨_, _, Tagged.plain_profileType.spelled_tag .advanced⟩

namespace Reading

variable {K : Type} [Vocabulary K] {text : List Char} {error : ParseError}

/-- The reader of a value fails where it stands. -/
def FailsHere (text : List Char) (error : ParseError) : Prop :=
  ∃ fault, error = ⟨fault, text⟩ ∧ fault.Shows text

theorem failsHere_of_readFlag (h : readFlag text = .error error) : FailsHere text error := by
  unfold readFlag at h
  split at h
  · cases h
  · cases h
  · cases h
    exact ⟨_, rfl, trivial⟩

theorem failsHere_of_readNumber (h : readNumber text = .error error) : FailsHere text error := by
  unfold readNumber at h
  split at h
  · cases h
  · cases h
    exact ⟨_, rfl, trivial⟩

theorem failsHere_of_readText {endsWord : Char → Bool}
    (h : readText endsWord text = .error error) : FailsHere text error := by
  by_cases hopening : text.head? = some '{'
  · rw [readText_of_head?_eq hopening] at h
    unfold readBraced at h
    split at h
    · split at h
      · cases h
      · cases h
        exact ⟨_, rfl, trivial⟩
    · cases h
      exact ⟨_, rfl, trivial⟩
  · rw [readText_of_head?_ne hopening] at h
    cases h

theorem failsHere_of_readTag {α : Type} [Tagged α] (hnamed : Tagged.Named α)
    (h : (readTag text : Reading α) = .error error) : FailsHere text error := by
  rw [Tagged.readTag_eq] at h
  split at h
  · cases h
  · cases h
    exact ⟨_, rfl, rfl, fun _ => hnamed.isName_of_mem_tags⟩

theorem failsHere_of_readValue {endsWord : Char → Bool} {kind : Kind}
    (h : readValue endsWord kind text = .error error) : FailsHere text error := by
  cases kind with
  | flag => exact failsHere_of_readFlag h
  | number => exact failsHere_of_readNumber h
  | text => exact failsHere_of_readText h
  | transition => exact failsHere_of_readTag Tagged.plain_transition.named h
  | sensor => exact failsHere_of_readTag Tagged.plain_sensor.named h
  | pump => exact failsHere_of_readTag Tagged.plain_pump.named h
  | exit => exact failsHere_of_readTag Tagged.plain_exit.named h
  | beverage => exact failsHere_of_readTag Tagged.named_beverage h
  | profileType => exact failsHere_of_readTag Tagged.plain_profileType.named h

theorem failsHere_of_readKeyed {name : String} (h : readKeyed K name text = .error error) :
    FailsHere text error := by
  unfold readKeyed at h
  split at h
  · exact failsHere_of_readValue (map_eq_error_iff.mp h)
  · exact failsHere_of_readText (map_eq_error_iff.mp h)

/-- How a text breaks off that should start with an entry. -/
inductive BreaksOff : List Char → ParseError → Prop
  | unnamed {text : List Char} :
      text.head?.any isKeyChar = false → BreaksOff text ⟨.malformed .key, text⟩
  | unspaced {name rest : List Char} :
      IsName name → BreaksOff (name ++ rest) ⟨.malformed (.unspacedKey (String.ofList name)), rest⟩
  | valueless {name gap text : List Char} {error : ParseError} :
      IsName name → Text.AllBlank gap → gap ≠ [] → FailsHere text error →
      BreaksOff (name ++ gap ++ text) error

theorem breaksOff_of_readEntry (h : readEntry K text = .error error) : BreaksOff text error := by
  unfold readEntry at h
  dsimp only at h
  split at h
  · next hempty =>
    cases h
    refine .unnamed ?_
    have hstop := Text.stop_dropWhile isKeyChar text
    have hsplit := List.takeWhile_append_dropWhile (p := isKeyChar) (l := text)
    rw [List.isEmpty_iff.mp hempty, List.nil_append] at hsplit
    rwa [hsplit] at hstop
  · next hname =>
    have hisName := isName_takeWhile (mt List.isEmpty_iff.mpr hname)
    split at h
    · next hblank =>
      obtain ⟨gap, hgap, hne, htext⟩ := exists_gap_valueText hblank
      rw [htext]
      exact .valueless hisName hgap hne (failsHere_of_readKeyed h)
    · cases h
      have hbreaks : BreaksOff (text.takeWhile isKeyChar ++ text.dropWhile isKeyChar) _ :=
        .unspaced hisName
      rwa [List.takeWhile_append_dropWhile] at hbreaks

theorem BreaksOff.shows (h : BreaksOff text error) : error.fault.Shows error.remaining := by
  cases h with
  | unnamed _ => trivial
  | @unspaced name rest hname =>
    have hshown : IsName (String.ofList name).toList := by rwa [String.toList_ofList]
    exact hshown
  | valueless _ _ _ hfails =>
    obtain ⟨fault, rfl, hshows⟩ := hfails
    exact hshows

/-- After any name and blanks some value can follow. -/
theorem exists_spelled_append (K : Type) [Vocabulary K] {name gap : List Char} (hname : IsName name)
    (hgap : Text.AllBlank gap) (hne : gap ≠ []) :
    ∃ (entry : Entry K) (token : List Char), entry.Spelled False (name ++ gap ++ token) := by
  cases hkey : (Tagged.ofTag? (String.ofList name) : Option K) with
  | none =>
    exact ⟨_, _, .unknown hname (Tagged.ofTag?_ofList_eq_none_iff.mp hkey) hgap hne
      (.braced Text.balanced_nil)⟩
  | some key =>
    obtain ⟨value, token, hspells⟩ := (Vocabulary.kind key).exists_spells (Vocabulary.endsWord K)
    have hknown : Entry.Spelled False (.known key value)
        ((Tagged.tag key).toList ++ gap ++ token) := .known hgap hne hspells
    rw [Tagged.tag_of_ofTag?_eq_some hkey, String.toList_ofList] at hknown
    exact ⟨_, token, hknown⟩

/-- The second text has a blank where it leaves the first one. -/
def PartsAtBlank (text whole : List Char) : Prop :=
  ∃ start after c tail, text = start ++ after ∧ whole = start ++ c :: tail ∧ Text.isBlank c = true

theorem PartsAtBlank.append_left {whole : List Char} (h : PartsAtBlank text whole)
    (front : List Char) : PartsAtBlank (front ++ text) (front ++ whole) := by
  obtain ⟨start, after, c, tail, rfl, rfl, hc⟩ := h
  exact ⟨front ++ start, after, c, tail, by simp, by simp, hc⟩

/-- What stands before the input that is left is the front of some entry. The blank after its name
is the first one to be written anew. -/
theorem BreaksOff.exists_spelled (h : BreaksOff text error) (K : Type) [Vocabulary K] :
    ∃ (front more : List Char) (entry : Entry K), text = front ++ error.remaining ∧
      entry.Spelled False (front ++ more) ∧
        (text.head?.any isKeyChar = true → PartsAtBlank text (front ++ more)) := by
  have hspace : Text.AllBlank [' '] := Text.allBlank_singleton rfl
  cases h with
  | unnamed hnamed =>
    have hname : IsName ['x'] := by decide
    obtain ⟨entry, token, hspelled⟩ := exists_spelled_append K hname hspace (by simp)
    refine ⟨[], _, entry, rfl, hspelled, fun hkey => ?_⟩
    rw [hnamed] at hkey
    cases hkey
  | @unspaced name rest hname =>
    obtain ⟨entry, token, hspelled⟩ := exists_spelled_append K hname hspace (by simp)
    rw [List.append_assoc] at hspelled
    exact ⟨name, _, entry, rfl, hspelled, fun _ => ⟨name, rest, ' ', token, rfl, rfl, rfl⟩⟩
  | @valueless name gap text _ hname hgap hne hfails =>
    obtain ⟨fault, rfl, _⟩ := hfails
    obtain ⟨entry, token, hspelled⟩ := exists_spelled_append K hname hgap hne
    obtain ⟨c, blanks, rfl⟩ := List.exists_cons_of_ne_nil hne
    refine ⟨name ++ c :: blanks, token, entry, rfl, hspelled, fun _ => ?_⟩
    exact ⟨name, c :: blanks ++ text, c, blanks ++ token, by simp, by simp, hgap c (by simp)⟩

end Reading

end Espresso
