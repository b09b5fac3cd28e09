import Espresso.Proofs.Grammar.Entry
import Espresso.Proofs.Grammar.Item
import Espresso.Reading.Command

/-!
# Spelled documents

How a document is written: commands with blanks between them, and perhaps around them. Every such
text is read as its commands. The reader takes more than these texts, because it does not look at
what follows a value: a flag, a number, a tag or a text in braces may run straight into the key of
the next command.
-/

namespace Espresso

theorem CommandKey.delimited : Vocabulary.Delimited CommandKey where
  isName_tag key := by cases key <;> exact Reading.isName_toList rfl rfl
  endsWord_of_isBlank _ h := h
  isBlank_or_closing _ h := .inl h

/-- Each command is followed by a blank, or by nothing. A word is empty only at the end of the
text. -/
inductive Command.SpelledApart : List Command → List Char → Prop
  | nil {gap : List Char} : Text.AllBlank gap → SpelledApart [] gap
  | cons {gap token rest : List Char} {command : Command} {commands : List Command} :
      Text.AllBlank gap → command.Spelled (rest = []) token → Vocabulary.Stops CommandKey rest →
      SpelledApart commands rest → SpelledApart (command :: commands) (gap ++ token ++ rest)

namespace Reading

variable {command : Command} {commands : List Command} {token rest text gap : List Char}

theorem stops_iff :
    Vocabulary.Stops CommandKey rest ↔ rest = [] ∨ Text.startsBlank rest = true := by
  cases rest with
  | nil => simp [Vocabulary.Stops]
  | cons c rest => simp [Vocabulary.Stops, Text.startsBlank, Vocabulary.endsWord]

/-- A word in a document ends before a blank, or with the text. -/
theorem eq_nil_of_shuts (h : Vocabulary.Shuts CommandKey rest) : rest = [] := by
  rcases stops_iff.mp h.stops with hnil | hblank
  · exact hnil
  · rw [h.startsBlank_eq_false] at hblank
    cases hblank

/-- Where a spelled command stands, the reader goes on and takes it. -/
theorem readEntry_skipBlanks_append (hgap : Text.AllBlank gap)
    (hcommand : command.Spelled (rest = []) token) (hrest : Vocabulary.Stops CommandKey rest) :
    (Text.skipBlanks (gap ++ token ++ rest)).head?.any commandReader.opens = true ∧
      commandReader.read (Text.skipBlanks (gap ++ token ++ rest)) = .ok (command, rest) := by
  obtain ⟨c, tail, rfl, hc⟩ := exists_isKeyChar_of_spelled CommandKey.delimited hcommand
  have hskip : Text.skipBlanks (gap ++ c :: tail ++ rest) = c :: tail ++ rest := by
    rw [List.append_assoc]
    exact Text.skipBlanks_append hgap (startsBlank_cons_of_isKeyChar hc)
  have hempty : rest = [] → Text.startsBlank rest = false := by
    rintro rfl
    rfl
  rw [hskip]
  exact ⟨hc, readEntry_append CommandKey.delimited hcommand hempty hrest⟩

/-- The induction is on the derivation; each command is taken off in front of what stops it. -/
theorem readWhole_of_spelledApart (h : Command.SpelledApart commands text) :
    commandReader.readWhole text = .ok commands := by
  induction h with
  | nil hgap => exact ItemReader.readWhole_eq_ok_nil_iff.mpr hgap
  | cons hgap hcommand hstops _ ih =>
    obtain ⟨hopens, hread⟩ := readEntry_skipBlanks_append hgap hcommand hstops
    exact ItemReader.readWhole_eq_ok_cons_iff.mpr ⟨hopens, _, hread, ih⟩

theorem stops_of_leaves_of_spelledApart (h : Command.SpelledApart commands text)
    (hleaves : commandReader.Leaves text rest) : Vocabulary.Stops CommandKey rest := by
  induction h with
  | @nil gap hgap =>
    have hskip := Text.skipBlanks_of_allBlank hgap
    cases hleaves with
    | first hopens => simp [hskip] at hopens
    | later hopens => simp [hskip] at hopens
  | cons hgap hcommand hstops _ ih =>
    have hread := (readEntry_skipBlanks_append hgap hcommand hstops).2
    cases hleaves with
    | first _ hfirst =>
      cases hread.symm.trans hfirst
      exact hstops
    | later _ hfirst hlater =>
      cases hread.symm.trans hfirst
      exact ih hlater

/-- What is read with a stop after each command is spelled apart. -/
theorem spelledApart_of_readWhole (hread : commandReader.readWhole text = .ok commands)
    (hstops : ∀ rest, commandReader.Leaves text rest → Vocabulary.Stops CommandKey rest) :
    Command.SpelledApart commands text := by
  induction commands generalizing text with
  | nil => exact .nil (ItemReader.readWhole_eq_ok_nil_iff.mp hread)
  | cons command commands ih =>
    obtain ⟨hopens, rest, hfirst, hmore⟩ := ItemReader.readWhole_eq_ok_cons_iff.mp hread
    obtain ⟨gap, hgap, htext⟩ := Text.exists_gap text
    obtain ⟨token, htoken, hspelled⟩ := exists_spelled_of_readEntry hfirst
    have hrest : Vocabulary.Stops CommandKey rest := hstops rest (.first hopens hfirst)
    rw [htext, htoken, ← List.append_assoc]
    exact .cons hgap (hspelled.imp eq_nil_of_shuts) hrest
      (ih hmore fun left hleft => hstops left (.later hopens hfirst hleft))

/-- A command is spelled by the piece of the document from which it was read. -/
theorem exists_piece_of_mem (hread : commandReader.readWhole text = .ok commands)
    (hcommand : command ∈ commands) :
    ∃ (p : Prop) (token : List Char), token <:+: text ∧ command.Spelled p token := by
  induction commands generalizing text with
  | nil => cases hcommand
  | cons first commands ih =>
    obtain ⟨_, rest, hfirst, hmore⟩ := ItemReader.readWhole_eq_ok_cons_iff.mp hread
    obtain ⟨token, htoken, hspelled⟩ := exists_spelled_of_readEntry hfirst
    have hsuffix : token ++ rest <:+ text := htoken ▸ Text.skipBlanks_suffix text
    rcases List.mem_cons.mp hcommand with rfl | hlater
    · exact ⟨_, token, (List.prefix_append token rest).isInfix.trans hsuffix.isInfix, hspelled⟩
    · obtain ⟨p, piece, hpiece, hlater⟩ := ih hmore hlater
      have hrest : rest <:+ text := (List.suffix_append token rest).trans hsuffix
      exact ⟨p, piece, hpiece.trans hrest.isInfix, hlater⟩

theorem exists_spelled_of_mem (hread : commandReader.readWhole text = .ok commands)
    (hcommand : command ∈ commands) : ∃ token, command.Spelled False token := by
  obtain ⟨_, _, _, hspelled⟩ := exists_piece_of_mem hread hcommand
  exact hspelled.exists_of_false

/-- Commands that can be spelled one by one can be spelled apart, each on a line of its own. -/
theorem exists_spelledApart (h : ∀ command ∈ commands, ∃ token, command.Spelled False token) :
    ∃ text, Command.SpelledApart commands text ∧ Vocabulary.Stops CommandKey text := by
  have hline : Text.AllBlank ['\n'] := by simp [Text.AllBlank, Text.isBlank]
  induction commands with
  | nil => exact ⟨[], .nil (by simp [Text.AllBlank]), by simp [Vocabulary.Stops]⟩
  | cons command commands ih =>
    obtain ⟨token, hspelled⟩ := h command (by simp)
    obtain ⟨rest, hapart, hstops⟩ := ih fun other hother => h other (by simp [hother])
    refine ⟨['\n'] ++ token ++ rest, .cons hline (hspelled.imp False.elim) hstops hapart, ?_⟩
    simp [Vocabulary.Stops, Vocabulary.endsWord, Text.isBlank]

/-- A document that can be read goes on after each command with a blank or with a key. -/
theorem stops_or_isKeyChar_of_leaves (hread : commandReader.readWhole text = .ok commands)
    (hleaves : commandReader.Leaves text rest) :
    Vocabulary.Stops CommandKey rest ∨ rest.head?.any isKeyChar = true := by
  obtain ⟨more, hmore⟩ := hleaves.exists_readWhole hread
  rcases ItemReader.startsBlank_or_opens_of_readWhole hmore with hempty | hblank | hopens
  · exact .inl (stops_iff.mpr (.inl hempty))
  · exact .inl (stops_iff.mpr (.inr hblank))
  · exact .inr hopens

end Reading

namespace Command

/-- **Well-written documents.** A text in which commands are spelled apart is read as these
commands, in their order. -/
theorem readAll_eq_ok_of_spelledApart {commands : List Command} {text : String}
    (h : SpelledApart commands text.toList) : Command.readAll text = .ok commands :=
  Reading.readWhole_of_spelledApart h

/-- Braces in a text and in a word, a number without a whole part, a tag in mixed case. -/
theorem readAll_four_commands :
    Command.readAll
        " bean_type \x7ba \x7bb\x7d\x7d z \x7d\x7b maximum_flow .5 beverage_type TeA" =
      .ok [.known .beanType "a \x7bb\x7d", .unknown "z" "\x7d\x7b",
        .known .maximumFlow (Decimal.Numeral.value ⟨[], ['5']⟩),
        .known .beverageType .teaPortafilter] := by
  have hspace : Text.AllBlank [' '] := by simp [Text.AllBlank, Text.isBlank]
  have hinner : Text.Balanced ['a', ' ', '{', 'b', '}'] := by
    rw [← Text.closes_zero_iff]
    simp [Text.closes_other_iff, Text.closes_open_iff, Text.closes_close_iff, Text.closes_nil_iff]
  have hbraced (p : Prop) : Entry.Spelled p (.known CommandKey.beanType "a \x7bb\x7d")
      ("bean_type".toList ++ [' '] ++ ('{' :: ['a', ' ', '{', 'b', '}'] ++ ['}'])) :=
    .known hspace (by simp) (SpellsText.braced hinner)
  have hword (p : Prop) : Entry.Spelled p (.unknown "z" "\x7d\x7b" : Command)
      (['z'] ++ [' '] ++ ['}', '{']) :=
    .unknown (by decide) (Tagged.ofTag?_ofList_eq_none_iff.mp (by decide +kernel)) hspace
      (by simp) (.word (by simp [Vocabulary.endsWord, Text.isBlank]) (by simp) (by simp))
  have hnumber (p : Prop) :
      Entry.Spelled p (.known CommandKey.maximumFlow (Decimal.Numeral.value ⟨[], ['5']⟩))
        ("maximum_flow".toList ++ [' '] ++ ['.', '5']) :=
    .known hspace (by simp) (Decimal.Numeral.Spelled.leading (by simp) (by simp)).spellsValue
  have htag (p : Prop) :
      Entry.Spelled p (.known CommandKey.beverageType Beverage.teaPortafilter)
        ("beverage_type".toList ++ [' '] ++ ['T', 'e', 'A']) :=
    .known hspace (by simp) ⟨"tea", by decide, by decide⟩
  have hstops (text : List Char) : Vocabulary.Stops CommandKey (' ' :: text) := by
    simp [Vocabulary.Stops, Vocabulary.endsWord, Text.isBlank]
  have hend : SpelledApart [] [] := .nil (by simp [Text.AllBlank])
  have hapart := SpelledApart.cons hspace (hbraced _) (hstops _) (.cons hspace (hword _) (hstops _)
    (.cons hspace (hnumber _) (hstops _) (.cons hspace (htag _) (by simp [Vocabulary.Stops]) hend)))
  exact readAll_eq_ok_of_spelledApart (by simpa using hapart)

/-- **Commands that run together.** Of the documents that can be read, those in which a blank or
nothing follows each command are the ones that spell their commands apart. In the others a command
runs straight into the key of the next one. -/
theorem spelledApart_iff_readAll_eq_ok_and_stops (text : String) :
    (∀ commands, SpelledApart commands text.toList ↔
      Command.readAll text = .ok commands ∧
        ∀ rest, Reading.commandReader.Leaves text.toList rest →
          Vocabulary.Stops CommandKey rest) ∧
    ∀ commands, Command.readAll text = .ok commands →
      ∀ rest, Reading.commandReader.Leaves text.toList rest →
        Vocabulary.Stops CommandKey rest ∨ rest.head?.any Reading.isKeyChar = true := by
  constructor
  · intro commands
    constructor
    · intro h
      exact ⟨Reading.readWhole_of_spelledApart h,
        fun rest hleaves => Reading.stops_of_leaves_of_spelledApart h hleaves⟩
    · rintro ⟨hread, hstops⟩
      exact Reading.spelledApart_of_readWhole hread hstops
  · intro commands hread rest hleaves
    exact Reading.stops_or_isKeyChar_of_leaves hread hleaves

/-- The second digit after a flag is read as the key of a further command. -/
theorem not_forall_leaves_stops :
    ¬ ∀ (text : String) (commands : List Command), Command.readAll text = .ok commands →
      ∀ rest, Reading.commandReader.Leaves text.toList rest → Vocabulary.Stops CommandKey rest := by
  intro h
  have hread : (Command.readAll "profile_hide 12 3").toOption.isSome = true := by decide +kernel
  have hfirst : Reading.readEntry CommandKey "profile_hide 12 3".toList =
      .ok (.known .profileHide true, ['2', ' ', '3']) := by rfl
  cases hcommands : Command.readAll "profile_hide 12 3" with
  | error error =>
    rw [hcommands] at hread
    cases hread
  | ok commands =>
    have hstops := h _ commands hcommands _ (.first (by decide +kernel) hfirst)
    exact absurd hstops (by simp [Vocabulary.Stops, Vocabulary.endsWord, Text.isBlank])

end Command

end Espresso
