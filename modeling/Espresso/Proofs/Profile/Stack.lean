import Espresso.Proofs.Profile.Insertion

/-!
# Documents one below another

A line break is a barrier that no reader crosses, unless a key is left in front of it without a
value. So the commands of two documents, one below the other, are those of the first and those of
the second, and what is wrong with the second is said in the same words at the same place. A key
without a value takes the first word of the next line for one.
-/

namespace Espresso

/-- Nothing is taken off an empty text. -/
theorem ItemReader.Takes.ne_nil {α : Type} {reader : ItemReader α} {text start rest : List Char}
    (h : reader.Takes text start rest) : text ≠ [] := by
  rintro rfl
  cases h with
  | first hopens _ => cases hopens
  | later hopens _ _ => cases hopens

namespace Reading

variable {K : Type} [Vocabulary K] {text rest : List Char}

/-! ### A word in place of nothing -/

theorem exists_readText_word (hK : Vocabulary.Delimited K) :
    ∃ value, readText (Vocabulary.endsWord K) ['x'] = .ok (value, []) := by
  have hgoes : Vocabulary.endsWord K 'x' = false := by
    refine Bool.eq_false_iff.mpr fun hends => ?_
    rcases hK.isBlank_or_closing 'x' hends with hblank | hclosing
    · exact absurd hblank (by decide)
    · exact absurd hclosing (by decide)
  have hhead : ['x'].head? ≠ some '{' := by decide
  rw [readText_of_head?_ne hhead]
  exact ⟨String.ofList ['x'], by simp [readWord, hgoes]⟩

theorem readTag_nil_ne_ok {α : Type} [Tagged α] (hnamed : Tagged.Named α) {member : α} :
    readTag [] ≠ .ok (member, rest) := by
  intro h
  obtain ⟨token, htext, hspelled⟩ := hnamed.exists_spelled_of_readTag h
  exact (hnamed.isName_of_spelled hspelled).1 (List.append_eq_nil_iff.mp htext.symm).1

/-- Only a text can be read where nothing is left, and a word is a text. -/
theorem exists_readValue_word (hK : Vocabulary.Delimited K) {kind : Kind} {value : kind.Value}
    (h : readValue (Vocabulary.endsWord K) kind [] = .ok (value, rest)) :
    ∃ value, readValue (Vocabulary.endsWord K) kind ['x'] = .ok (value, []) := by
  cases kind with
  | text => exact exists_readText_word hK
  | flag => cases h
  | number => cases h
  | transition => exact absurd h (readTag_nil_ne_ok Tagged.plain_transition.named)
  | sensor => exact absurd h (readTag_nil_ne_ok Tagged.plain_sensor.named)
  | pump => exact absurd h (readTag_nil_ne_ok Tagged.plain_pump.named)
  | exit => exact absurd h (readTag_nil_ne_ok Tagged.plain_exit.named)
  | beverage => exact absurd h (readTag_nil_ne_ok Tagged.named_beverage)
  | profileType => exact absurd h (readTag_nil_ne_ok Tagged.plain_profileType.named)

theorem exists_readKeyed_word (hK : Vocabulary.Delimited K) {name : String} {entry : Entry K}
    (h : readKeyed K name [] = .ok (entry, rest)) :
    ∃ entry, readKeyed K name ['x'] = .ok (entry, []) := by
  unfold readKeyed at h ⊢
  split at h
  · next key _ =>
    obtain ⟨_, hvalue, _⟩ := map_eq_ok_iff.mp h
    obtain ⟨value, hword⟩ := exists_readValue_word hK hvalue
    exact ⟨.known key value, by rw [hword]; rfl⟩
  · obtain ⟨value, hword⟩ := exists_readText_word hK
    exact ⟨.unknown name value, by rw [hword]; rfl⟩

/-- The word on the next line becomes the value that the key did not have. -/
theorem exists_readEntry_word (hK : Vocabulary.Delimited K) {entry : Entry K}
    (h : readEntry K text = .ok (entry, rest)) (hbare : valueText text = []) :
    ∃ entry, readEntry K (text ++ ['\n', 'x']) = .ok (entry, []) := by
  have hbreak : isKeyChar '\n' = false := by decide
  obtain ⟨hname, hblank, hkeyed⟩ := readEntry_eq_ok_iff.mp h
  rw [hbare] at hkeyed
  obtain ⟨entry, hword⟩ := exists_readKeyed_word hK hkeyed
  have hgap : Text.AllBlank (text.dropWhile isKeyChar) := Text.skipBlanks_eq_nil_iff.mp hbare
  have hvalue : valueText (text ++ ['\n', 'x']) = ['x'] := by
    unfold valueText
    rw [Text.dropWhile_append_cons hbreak, Text.skipBlanks_append_of_allBlank hgap]
    rfl
  refine ⟨entry, readEntry_eq_ok_iff.mpr ?_⟩
  rw [hvalue, Text.takeWhile_append_cons hbreak, Text.dropWhile_append_cons hbreak]
  refine ⟨hname, ?_, hword⟩
  obtain ⟨c, gap, hcons⟩ : ∃ c gap, text.dropWhile isKeyChar = c :: gap :=
    List.exists_cons_of_ne_nil (by rintro hnil; rw [hnil] at hblank; cases hblank)
  rw [hcons] at hblank ⊢
  exact hblank

/-- The induction is on the way to the bare key: the commands before it are read as they were. -/
theorem exists_readWhole_word {start : List Char} (h : commandReader.Takes text start rest)
    (hbare : valueText start = []) :
    ∃ commands, commandReader.readWhole (text ++ ['\n', 'x']) = .ok commands := by
  induction h with
  | @first text rest command hopens hcommand =>
    obtain ⟨other, hother⟩ := exists_readEntry_word CommandKey.delimited hcommand hbare
    obtain ⟨hskip, hstill⟩ := ItemReader.skipBlanks_append_of_opens hopens ['\n', 'x']
    refine ⟨[other], ItemReader.readWhole_eq_ok_cons_iff.mpr ?_⟩
    rw [hskip]
    exact ⟨hstill, [], hother, ItemReader.readWhole_eq_ok_nil_iff.mpr Text.allBlank_nil⟩
  | @later text rest start left command hopens hcommand htakes ih =>
    obtain ⟨commands, hmore⟩ := ih hbare
    have hvalue : valueText (Text.skipBlanks text) ≠ [] :=
      fun hnil => htakes.ne_nil (eq_nil_of_readEntry hcommand hnil)
    have hbreak : Text.isBlank '\n' = true := by decide
    have hlonger := readEntry_append_cons CommandKey.delimited hcommand hvalue hbreak ['x']
    obtain ⟨hskip, hstill⟩ := ItemReader.skipBlanks_append_of_opens hopens ['\n', 'x']
    refine ⟨command :: commands, ItemReader.readWhole_eq_ok_cons_iff.mpr ?_⟩
    rw [hskip]
    exact ⟨hstill, _, hlonger, hmore⟩

end Reading

namespace Command

/-- **Documents one below another.** A document that can be read is followed, from the next line on,
by any text. Both together are read as the commands of the document and then those of the text, and
where the text fails by itself they fail in the same way: this holds for every text unless the
document ends with a bare key. -/
theorem readAll_stack_iff_not_endsBare {upper : String} {commands : List Command}
    (h : readAll upper = .ok commands) :
    (∀ lower, readAll (Text.stack upper lower) = (readAll lower).map (commands ++ ·)) ↔
      ¬ EndsBare upper.toList := by
  unfold readAll at h ⊢
  simp only [Text.toList_stack]
  constructor
  · -- A word by itself is no document, but it is one below a bare key.
    rintro hstack ⟨start, rest, htakes, -, hbare⟩
    obtain ⟨more, hmore⟩ := Reading.exists_readWhole_word htakes hbare
    have hword : (Reading.commandReader.readWhole "x".toList).toOption = none := by decide +kernel
    have hboth : Reading.commandReader.readWhole (upper.toList ++ '\n' :: "x".toList) = .ok more :=
      hmore
    rw [hstack "x"] at hboth
    obtain ⟨commands, hread, -⟩ := map_eq_ok_iff.mp hboth
    rw [hread] at hword
    cases hword
  · intro hends lower
    exact Reading.readWhole_commands_append h hends (by decide) lower.toList

theorem endsBare_old : EndsBare "old ".toList := by
  have hread : Reading.commandReader.read (Text.skipBlanks "old ".toList) =
      .ok (.unknown "old" "", []) := by
    rfl
  have htakes : Reading.commandReader.Takes "old ".toList (Text.skipBlanks "old ".toList) [] :=
    .first (by decide) hread
  exact ⟨_, _, htakes, Text.allBlank_nil, by decide⟩

/-- Below a document: a command, and one that breaks off. A bare key is not a document by itself. -/
theorem exists_readAll_stack_oldText :
    (∃ commands, commands.length = 2 ∧
      readAll (Text.stack Profile.oldText "new \x7b2\x7d") = .ok commands) ∧
    (∃ error, error.remaining = "\x7b2".toList ∧ readAll "new \x7b2" = .error error ∧
      readAll (Text.stack Profile.oldText "new \x7b2") = .error error) ∧
    ∃ commands lower, readAll "old " = .ok commands ∧
      readAll (Text.stack "old " lower) ≠ (readAll lower).map (commands ++ ·) := by
  have hold : (readAll Profile.oldText).toOption.map List.length = some 1 := by decide +kernel
  have hnew : (readAll "new \x7b2\x7d").toOption.map List.length = some 1 := by decide +kernel
  have hfault : failure? (readAll "new \x7b2") = some ⟨.unterminated, "\x7b2".toList⟩ := by
    decide +kernel
  have hbare : (readAll "old ").toOption.isSome = true := by decide +kernel
  obtain ⟨commands, hcommands, hlength⟩ := Option.map_eq_some_iff.mp hold
  obtain ⟨more, hmore, hmoreLength⟩ := Option.map_eq_some_iff.mp hnew
  obtain ⟨bare, hread⟩ := Option.isSome_iff_exists.mp hbare
  rw [toOption_eq_some_iff] at hcommands hmore hread
  rw [failure?_eq_some_iff] at hfault
  have hends : ¬ EndsBare Profile.oldText.toList := Profile.not_endsBare_oldText
  have hstack := (readAll_stack_iff_not_endsBare hcommands).mpr hends
  refine ⟨⟨commands ++ more, ?_, ?_⟩, ⟨_, rfl, hfault, ?_⟩, bare, ?_⟩
  · rw [List.length_append, hlength, hmoreLength]
  · rw [hstack, hmore]
    rfl
  · rw [hstack, hfault]
    rfl
  · have hnot := mt (readAll_stack_iff_not_endsBare hread).mp (not_not_intro endsBare_old)
    obtain ⟨lower, hlower⟩ := Classical.not_forall.mp hnot
    exact ⟨lower, hread, hlower⟩

end Command

end Espresso
