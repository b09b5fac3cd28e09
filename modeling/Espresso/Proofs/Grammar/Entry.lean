import Espresso.Proofs.Grammar.Spelling

/-!
# Reading entries

Reading an entry and spelling it are inverse to one another as long as the entry is followed by a
character that ends a word.
-/

namespace Espresso

namespace Reading

variable {K : Type} [Vocabulary K] {text token rest : List Char} {p : Prop}

theorem readText_of_head?_eq {endsWord : Char → Bool} (h : text.head? = some '{') :
    readText endsWord text = readBraced text := by
  obtain ⟨body, rfl⟩ := List.head?_eq_some_iff.mp h
  rfl

theorem readText_of_head?_ne {endsWord : Char → Bool} (h : text.head? ≠ some '{') :
    readText endsWord text = readWord endsWord text := by
  unfold readText
  split
  · simp at h
  · rfl

theorem startsBlank_append_of_spellsText (hK : Vocabulary.Delimited K) {value : String}
    (h : SpellsText (Vocabulary.endsWord K) p value token)
    (hp : p → Text.startsBlank rest = false) : Text.startsBlank (token ++ rest) = false := by
  cases h with
  | braced hbalanced =>
    simp only [Text.startsBlank, List.cons_append, List.head?_cons, Option.any_some]
    decide
  | word hword _ hempty =>
    cases token with
    | nil => exact hp (hempty rfl)
    | cons c word =>
      have hc := hword c (by simp)
      cases hblank : Text.isBlank c with
      | false => simpa [Text.startsBlank] using hblank
      | true =>
        rw [hK.endsWord_of_isBlank c hblank] at hc
        cases hc

theorem readText_append (hK : Vocabulary.Delimited K) {value : String}
    (h : SpellsText (Vocabulary.endsWord K) p value token) (hrest : Vocabulary.Stops K rest) :
    readText (Vocabulary.endsWord K) (token ++ rest) = .ok (value, rest) := by
  cases h with
  | @braced inner hbalanced =>
    have hbraced : readBraced ('{' :: inner ++ ['}'] ++ rest) = .ok (String.ofList inner, rest) :=
      readBraced_eq_ok_iff.mpr ⟨by simp, by simpa using hbalanced⟩
    exact hbraced
  | word hword hhead _ =>
    have hstop : rest.head?.any (fun c => !Vocabulary.endsWord K c) = false :=
      hrest.any_head?_eq_false fun c hc => by rw [hc]; rfl
    have hgoes : ∀ c ∈ token, (!Vocabulary.endsWord K c) = true := fun c hc => by
      rw [hword c hc]
      rfl
    have hopening : (token ++ rest).head? ≠ some '{' := by
      cases token with
      | nil => exact hrest.head?_ne_opening hK
      | cons c word => exact hhead
    rw [readText_of_head?_ne hopening]
    unfold readWord
    rw [Text.takeWhile_append_of_stop hgoes hstop, Text.dropWhile_append_of_stop hgoes hstop]

/-- What is read where no blank stands is empty only if a word is stopped at once. -/
theorem exists_spellsText_of_readText {value : String} (htext : Text.startsBlank text = false)
    (h : readText (Vocabulary.endsWord K) text = .ok (value, rest)) :
    ∃ token, text = token ++ rest ∧
      SpellsText (Vocabulary.endsWord K) (Vocabulary.Shuts K rest) value token := by
  by_cases hhead : text.head? = some '{'
  · obtain ⟨body, rfl⟩ := List.head?_eq_some_iff.mp hhead
    have hbraced : readBraced ('{' :: body) = .ok (value, rest) := h
    obtain ⟨hbody, hbalanced⟩ := readBraced_eq_ok_iff.mp hbraced
    refine ⟨'{' :: value.toList ++ ['}'], by simpa using hbody, ?_⟩
    have hspells : SpellsText (Vocabulary.endsWord K) (Vocabulary.Shuts K rest)
        (String.ofList value.toList) ('{' :: value.toList ++ ['}']) := .braced hbalanced
    rwa [String.ofList_toList] at hspells
  · rw [readText_of_head?_ne hhead] at h
    cases h
    refine ⟨_, List.takeWhile_append_dropWhile.symm, .word ?_ ?_ ?_⟩
    · intro c hc
      simpa using Text.of_mem_takeWhile hc
    · intro hopening
      obtain ⟨word, hword⟩ := List.head?_eq_some_iff.mp hopening
      have hsplit :=
        List.takeWhile_append_dropWhile (p := fun c => !Vocabulary.endsWord K c) (l := text)
      rw [hword] at hsplit
      exact hhead (by rw [← hsplit]; rfl)
    · intro hempty
      have hsplit :=
        List.takeWhile_append_dropWhile (p := fun c => !Vocabulary.endsWord K c) (l := text)
      rw [hempty, List.nil_append] at hsplit
      have hstop := Text.stop_dropWhile (fun c => !Vocabulary.endsWord K c) text
      refine ⟨fun c hc => ?_, by rwa [hsplit]⟩
      rw [Option.mem_def.mp hc] at hstop
      simpa using hstop

theorem readValue_append (hK : Vocabulary.Delimited K) {kind : Kind} {value : kind.Value}
    (h : kind.Spells (Vocabulary.endsWord K) p value token)
    (hrest : Vocabulary.Stops K rest) :
    readValue (Vocabulary.endsWord K) kind (token ++ rest) = .ok (value, rest) := by
  have htag : ∀ {α : Type} [Tagged α] (_ : Tagged.Named α) {member : α},
      Tagged.Spelled member token → readTag (token ++ rest) = .ok (member, rest) :=
    fun hnamed _ hspelled => hnamed.readTag_append hspelled (hrest.not_isKeyChar hK)
  cases kind with
  | flag => exact readFlag_eq_ok_iff.mpr (by rw [show token = _ from h]; rfl)
  | number =>
    obtain ⟨numeral, hspelled, rfl⟩ := Decimal.Numeral.SpellsValue.exists_value_eq h
    simp only [readValue, readNumber]
    rw [Decimal.Numeral.read?_append hspelled (.of_stop (hrest.not_continuesNumeral hK))]
  | text => exact readText_append hK h hrest
  | transition => exact htag Tagged.plain_transition.named h
  | sensor => exact htag Tagged.plain_sensor.named h
  | pump => exact htag Tagged.plain_pump.named h
  | exit => exact htag Tagged.plain_exit.named h
  | beverage => exact htag Tagged.named_beverage h
  | profileType => exact htag Tagged.plain_profileType.named h

theorem exists_spells_of_readValue {kind : Kind} {value : kind.Value}
    (htext : Text.startsBlank text = false)
    (h : readValue (Vocabulary.endsWord K) kind text = .ok (value, rest)) :
    ∃ token, text = token ++ rest ∧
      kind.Spells (Vocabulary.endsWord K) (Vocabulary.Shuts K rest) value token := by
  cases kind with
  | flag => exact ⟨_, readFlag_eq_ok_iff.mp h, rfl⟩
  | number =>
    simp only [readValue, readNumber] at h
    split at h
    · next numeral after hread =>
      cases h
      obtain ⟨token, htoken, hspelled, _⟩ := Decimal.Numeral.exists_spelled_of_read? hread
      exact ⟨token, htoken, hspelled.spellsValue⟩
    · exact absurd h stuck_ne_ok
  | text => exact exists_spellsText_of_readText htext h
  | transition => exact Tagged.plain_transition.named.exists_spelled_of_readTag h
  | sensor => exact Tagged.plain_sensor.named.exists_spelled_of_readTag h
  | pump => exact Tagged.plain_pump.named.exists_spelled_of_readTag h
  | exit => exact Tagged.plain_exit.named.exists_spelled_of_readTag h
  | beverage => exact Tagged.named_beverage.exists_spelled_of_readTag h
  | profileType => exact Tagged.plain_profileType.named.exists_spelled_of_readTag h

theorem startsBlank_cons_of_isKeyChar {c : Char} (hc : isKeyChar c = true) :
    Text.startsBlank (c :: text) = false := by
  simpa [Text.startsBlank] using Text.isBlank_eq_false_of_isKeyChar hc

theorem startsBlank_append_of_isName (h : IsName token) :
    Text.startsBlank (token ++ rest) = false := by
  obtain ⟨c, name, rfl⟩ := List.exists_cons_of_ne_nil h.1
  exact startsBlank_cons_of_isKeyChar (h.2 c (by simp))

theorem startsBlank_append_of_numeralSpelled {numeral : Decimal.Numeral}
    (h : numeral.Spelled token) : Text.startsBlank (token ++ rest) = false := by
  have hdigit : ∀ c : Char, c.isDigit = true → isKeyChar c = true := by
    intro c hc
    simp [isKeyChar, Char.isAlphanum, hc]
  cases h with
  | whole hne hwhole =>
    exact startsBlank_append_of_isName ⟨hne, fun c hc => hdigit c (hwhole c hc)⟩
  | pointed hne hwhole _ =>
    rw [List.append_assoc]
    exact startsBlank_append_of_isName ⟨hne, fun c hc => hdigit c (hwhole c hc)⟩
  | leading =>
    rw [List.cons_append]
    rfl

theorem startsBlank_append_of_spells (hK : Vocabulary.Delimited K) {kind : Kind}
    {value : kind.Value} (h : kind.Spells (Vocabulary.endsWord K) p value token)
    (hp : p → Text.startsBlank rest = false) : Text.startsBlank (token ++ rest) = false := by
  have htag : ∀ {α : Type} [Tagged α] (_ : Tagged.Named α) {member : α},
      Tagged.Spelled member token → Text.startsBlank (token ++ rest) = false :=
    fun hnamed _ hspelled => startsBlank_append_of_isName (hnamed.isName_of_spelled hspelled)
  cases kind with
  | flag =>
    rw [show token = _ from h]
    cases value <;> exact startsBlank_cons_of_isKeyChar (by decide)
  | number =>
    obtain ⟨numeral, hspelled, _⟩ := h
    exact startsBlank_append_of_numeralSpelled hspelled
  | text => exact startsBlank_append_of_spellsText hK h hp
  | transition => exact htag Tagged.plain_transition.named h
  | sensor => exact htag Tagged.plain_sensor.named h
  | pump => exact htag Tagged.plain_pump.named h
  | exit => exact htag Tagged.plain_exit.named h
  | beverage => exact htag Tagged.named_beverage h
  | profileType => exact htag Tagged.plain_profileType.named h

section Named

variable {name gap : List Char} (hname : IsName name) (hgap : Text.AllBlank gap) (hne : gap ≠ [])
include hname hgap hne

/-- A name is cut off at the blanks after it. -/
theorem cut_append_of_isName (text : List Char) :
    (name ++ gap ++ text).takeWhile isKeyChar = name ∧
      (name ++ gap ++ text).dropWhile isKeyChar = gap ++ text := by
  have hstop : (gap ++ text).head?.any isKeyChar = false := by
    obtain ⟨c, gap, rfl⟩ := List.exists_cons_of_ne_nil hne
    simpa using Text.isKeyChar_eq_false_of_isBlank (hgap c (by simp))
  rw [List.append_assoc]
  exact ⟨Text.takeWhile_append_of_stop hname.2 hstop, Text.dropWhile_append_of_stop hname.2 hstop⟩

theorem valueText_append_of_isName (htext : Text.startsBlank text = false) :
    valueText (name ++ gap ++ text) = text := by
  unfold valueText
  rw [(cut_append_of_isName hname hgap hne text).2, Text.skipBlanks_append hgap htext]

theorem readEntry_append_of_isName (htext : Text.startsBlank text = false) :
    readEntry K (name ++ gap ++ text) = readKeyed K (String.ofList name) text := by
  obtain ⟨htake, hdrop⟩ := cut_append_of_isName hname hgap hne text
  unfold readEntry
  rw [htake, hdrop]
  dsimp only
  rw [Text.startsBlank_append hgap hne, Text.skipBlanks_append hgap htext]
  simp [hname.1]

end Named

/-- An entry is read off in front of anything that ends a word. -/
theorem readEntry_append (hK : Vocabulary.Delimited K) {entry : Entry K}
    (h : entry.Spelled p token) (hp : p → Text.startsBlank rest = false)
    (hrest : Vocabulary.Stops K rest) : readEntry K (token ++ rest) = .ok (entry, rest) := by
  cases h with
  | @known key value gap token hgap hne hvalue =>
    rw [List.append_assoc, readEntry_append_of_isName (hK.isName_tag key) hgap hne
      (startsBlank_append_of_spells hK hvalue hp)]
    unfold readKeyed
    rw [String.ofList_toList, Tagged.ofTag?_tag]
    dsimp only
    rw [readValue_append hK hvalue hrest]
    rfl
  | @unknown name gap token value hname hfresh hgap hne hvalue =>
    rw [List.append_assoc, readEntry_append_of_isName hname hgap hne
      (startsBlank_append_of_spellsText hK hvalue hp)]
    unfold readKeyed
    rw [Tagged.ofTag?_ofList_eq_none_iff.mpr hfresh]
    dsimp only
    rw [readText_append hK hvalue hrest]
    rfl

/-- A key and blanks stand before the text of a value. -/
theorem exists_gap_valueText (hblank : Text.startsBlank (text.dropWhile isKeyChar) = true) :
    ∃ gap, Text.AllBlank gap ∧ gap ≠ [] ∧
      text = text.takeWhile isKeyChar ++ gap ++ valueText text := by
  obtain ⟨gap, hgap, hne, hbody⟩ := Text.exists_gap_of_startsBlank hblank
  refine ⟨gap, hgap, hne, ?_⟩
  unfold valueText
  rw [List.append_assoc, ← hbody, List.takeWhile_append_dropWhile]

theorem isName_takeWhile (h : text.takeWhile isKeyChar ≠ []) :
    IsName (text.takeWhile isKeyChar) :=
  ⟨h, fun _ => Text.of_mem_takeWhile⟩

theorem startsBlank_valueText (text : List Char) : Text.startsBlank (valueText text) = false :=
  Text.startsBlank_skipBlanks (text.dropWhile isKeyChar)

/-- What is read as an entry spells it, with an empty word only where it is stopped at once. -/
theorem exists_spelled_of_readEntry {entry : Entry K}
    (h : readEntry K text = .ok (entry, rest)) :
    ∃ token, text = token ++ rest ∧ entry.Spelled (Vocabulary.Shuts K rest) token := by
  obtain ⟨hname, hblank, hkeyed⟩ := readEntry_eq_ok_iff.mp h
  obtain ⟨gap, hgap, hne, htext⟩ := exists_gap_valueText hblank
  have hstart := startsBlank_valueText text
  unfold readKeyed at hkeyed
  split at hkeyed
  · next key hkey =>
    obtain ⟨value, hvalue, rfl⟩ := map_eq_ok_iff.mp hkeyed
    obtain ⟨token, htoken, hspells⟩ := exists_spells_of_readValue hstart hvalue
    have htag := Tagged.tag_of_ofTag?_eq_some hkey
    refine ⟨(Tagged.tag key).toList ++ gap ++ token, ?_, .known hgap hne hspells⟩
    rw [htag, String.toList_ofList, List.append_assoc, ← htoken]
    exact htext
  · next hkey =>
    obtain ⟨value, hvalue, rfl⟩ := map_eq_ok_iff.mp hkeyed
    obtain ⟨token, htoken, hspells⟩ := exists_spellsText_of_readText hstart hvalue
    refine ⟨text.takeWhile isKeyChar ++ gap ++ token, ?_,
      .unknown (isName_takeWhile hname) ?_ hgap hne hspells⟩
    · rw [List.append_assoc, ← htoken]
      exact htext
    · exact Tagged.ofTag?_ofList_eq_none_iff.mp hkey

/-- An entry starts with a character of its key. -/
theorem exists_isKeyChar_of_spelled (hK : Vocabulary.Delimited K) {entry : Entry K}
    (h : entry.Spelled p token) : ∃ c tail, token = c :: tail ∧ isKeyChar c = true := by
  have hname : ∀ {name after : List Char}, IsName name →
      ∃ c tail, name ++ after = c :: tail ∧ isKeyChar c = true := by
    intro name after hname
    obtain ⟨c, tail, rfl⟩ := List.exists_cons_of_ne_nil hname.1
    exact ⟨c, tail ++ after, rfl, hname.2 c (by simp)⟩
  cases h with
  | @known key value gap token hgap hne hvalue =>
    rw [List.append_assoc]
    exact hname (hK.isName_tag key)
  | @unknown name gap token value hisName hfresh hgap hne hvalue =>
    rw [List.append_assoc]
    exact hname hisName

end Reading

end Espresso
