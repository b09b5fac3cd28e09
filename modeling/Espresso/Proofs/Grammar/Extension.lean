import Espresso.Proofs.Grammar.Command

/-!
# Documents one after another

A value that was read off a text is read again when a blank and more follow the text, with one
exception: where nothing was left after a key and its blanks, what follows becomes its value. So a
document that does not end in this way can be followed, from the next line on, by any other text,
and that text is read by itself.
-/

namespace Espresso

namespace Reading

variable {K : Type} [Vocabulary K] {text rest : List Char} {c : Char}

theorem readText_append_cons (hK : Vocabulary.Delimited K) {value : String}
    (h : readText (Vocabulary.endsWord K) text = .ok (value, rest)) (hne : text ≠ [])
    (hc : Text.isBlank c = true) (after : List Char) :
    readText (Vocabulary.endsWord K) (text ++ c :: after) = .ok (value, rest ++ c :: after) := by
  obtain ⟨first, tail, rfl⟩ := List.exists_cons_of_ne_nil hne
  by_cases hfirst : first = '{'
  · subst hfirst
    have hbraced : readBraced ('{' :: tail) = .ok (value, rest) := h
    obtain ⟨htext, hbalanced⟩ := readBraced_eq_ok_iff.mp hbraced
    have hlonger : readBraced ('{' :: tail ++ c :: after) = .ok (value, rest ++ c :: after) :=
      readBraced_eq_ok_iff.mpr ⟨by rw [htext]; simp, hbalanced⟩
    exact hlonger
  · have hends : (!Vocabulary.endsWord K c) = false := by
      rw [hK.endsWord_of_isBlank c hc]
      rfl
    rw [readText_of_head?_ne (by simpa using hfirst)] at h ⊢
    unfold readWord at h ⊢
    cases h
    rw [Text.takeWhile_append_cons hends, Text.dropWhile_append_cons hends]

theorem stops_cons (hK : Vocabulary.Delimited K) (hc : Text.isBlank c = true)
    (after : List Char) : Vocabulary.Stops K (c :: after) := by
  intro d hd
  cases hd
  exact hK.endsWord_of_isBlank c hc

theorem readValue_append_cons (hK : Vocabulary.Delimited K) {kind : Kind} {value : kind.Value}
    (h : readValue (Vocabulary.endsWord K) kind text = .ok (value, rest)) (hne : text ≠ [])
    (hc : Text.isBlank c = true) (after : List Char) :
    readValue (Vocabulary.endsWord K) kind (text ++ c :: after) =
      .ok (value, rest ++ c :: after) := by
  have hstops : Vocabulary.Stops K (c :: after) := stops_cons hK hc after
  have htag : ∀ {α : Type} [Tagged α] (_ : Tagged.Named α) {member : α},
      readTag text = .ok (member, rest) →
        readTag (text ++ c :: after) = .ok (member, rest ++ c :: after) :=
    fun hnamed _ hread => hnamed.readTag_append_of_eq_ok hread (hstops.not_isKeyChar hK)
  cases kind with
  | flag =>
    obtain rfl := readFlag_eq_ok_iff.mp h
    exact readFlag_eq_ok_iff.mpr rfl
  | number =>
    simp only [readValue, readNumber] at h ⊢
    split at h
    · next numeral left hread =>
      cases h
      have hcontinues : Decimal.continuesNumeral c = false := by
        simpa using hstops.not_continuesNumeral hK
      rw [Decimal.Numeral.read?_append_cons hread hcontinues]
    · exact absurd h stuck_ne_ok
  | text => exact readText_append_cons hK h hne hc after
  | transition => exact htag Tagged.plain_transition.named h
  | sensor => exact htag Tagged.plain_sensor.named h
  | pump => exact htag Tagged.plain_pump.named h
  | exit => exact htag Tagged.plain_exit.named h
  | beverage => exact htag Tagged.named_beverage h
  | profileType => exact htag Tagged.plain_profileType.named h

theorem readKeyed_append_cons (hK : Vocabulary.Delimited K) {name : String} {entry : Entry K}
    (h : readKeyed K name text = .ok (entry, rest)) (hne : text ≠ [])
    (hc : Text.isBlank c = true) (after : List Char) :
    readKeyed K name (text ++ c :: after) = .ok (entry, rest ++ c :: after) := by
  unfold readKeyed at h ⊢
  split at h
  · obtain ⟨value, hvalue, rfl⟩ := map_eq_ok_iff.mp h
    rw [readValue_append_cons hK hvalue hne hc]
    rfl
  · obtain ⟨value, hvalue, rfl⟩ := map_eq_ok_iff.mp h
    rw [readText_append_cons hK hvalue hne hc]
    rfl

/-- An entry with a value is read again when a blank and more follow. -/
theorem readEntry_append_cons (hK : Vocabulary.Delimited K) {entry : Entry K}
    (h : readEntry K text = .ok (entry, rest)) (hne : valueText text ≠ [])
    (hc : Text.isBlank c = true) (after : List Char) :
    readEntry K (text ++ c :: after) = .ok (entry, rest ++ c :: after) := by
  have hkey := Text.isKeyChar_eq_false_of_isBlank hc
  obtain ⟨hname, hblank, hkeyed⟩ := readEntry_eq_ok_iff.mp h
  have hvalue : valueText (text ++ c :: after) = valueText text ++ c :: after := by
    unfold valueText at hne ⊢
    rw [Text.dropWhile_append_cons hkey, Text.skipBlanks_append_of_ne_nil hne]
  rw [readEntry_eq_ok_iff, Text.takeWhile_append_cons hkey, Text.dropWhile_append_cons hkey, hvalue]
  refine ⟨hname, ?_, readKeyed_append_cons hK hkeyed hne hc after⟩
  cases hleft : text.dropWhile isKeyChar with
  | nil =>
    rw [hleft] at hblank
    cases hblank
  | cons d left =>
    rw [hleft] at hblank
    exact hblank

/-- Without a value nothing is left either. -/
theorem eq_nil_of_readEntry {entry : Entry K} (h : readEntry K text = .ok (entry, rest))
    (hvalue : valueText text = []) : rest = [] := by
  obtain ⟨_, _, hkeyed⟩ := readEntry_eq_ok_iff.mp h
  have hsuffix := suffix_of_readKeyed hkeyed
  rw [hvalue] at hsuffix
  exact List.suffix_nil.mp hsuffix

end Reading

/-- The last command of the text was read off its key and the blanks after it, so that its value is
an unquoted word of no characters. -/
def Command.EndsBare (text : List Char) : Prop :=
  ∃ start rest, Reading.commandReader.Takes text start rest ∧ Text.AllBlank rest ∧
    Reading.valueText start = []

/-- A document that does not end with a bare key is read by itself in front of a blank, and what
follows the blank is read by itself too. -/
theorem Reading.readWhole_commands_append {text : List Char} {commands : List Command} {c : Char}
    (h : commandReader.readWhole text = .ok commands) (hends : ¬ Command.EndsBare text)
    (hc : Text.isBlank c = true) (after : List Char) :
    commandReader.readWhole (text ++ c :: after) =
      (commandReader.readWhole after).map (commands ++ ·) := by
  have hgap : Text.AllBlank [c] := by simpa [Text.AllBlank] using hc
  rw [← ItemReader.readWhole_append_of_allBlank hgap after]
  apply ItemReader.readWhole_append h
  intro start rest command htakes hcommand
  refine readEntry_append_cons CommandKey.delimited hcommand ?_ hc after
  intro hbare
  have hrest : Text.AllBlank rest := by
    rw [eq_nil_of_readEntry hcommand hbare]
    simp [Text.AllBlank]
  exact hends ⟨start, rest, htakes, hrest, hbare⟩

end Espresso
