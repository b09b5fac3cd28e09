import Espresso.Proofs.Grammar.Extension
import Espresso.Proofs.Grammar.Fault
import Espresso.Proofs.Grammar.Front
import Espresso.Proofs.Grammar.Step

/-!
# Where reading fails

A text that cannot be read fails at the place where it goes wrong: what stands before the input that
is left can be gone on with, and then it is read. An entry is completed by blanks and a value, a
step by its brace, and a document by its last command.
-/

namespace Espresso

/-- The characters of which a message shows a tag that is none. -/
def Text.isTagLike (c : Char) : Bool :=
  !(isBlank c || c == '{' || c == '}')

/-- The reader gives up at `error` for a reason of its own: up to the input that is left, the text
is the front of one that it reads. A tag that is none is shown up to the first blank or brace. -/
structure ParseError.LocatedIn {α : Type} (read : String → Except ParseError α) (text : String)
    (error : ParseError) : Prop where
  viable : ∃ front more, text = front ++ String.ofList error.remaining ∧
    ∃ value, read (front ++ more) = .ok value
  tag_longest : ∀ tag expected, error.fault = .unrecognized tag expected →
    tag.toList <+: error.remaining ∧ (∀ c ∈ tag.toList, Text.isTagLike c = true) ∧
      ∀ front, front <+: error.remaining → (∀ c ∈ front, Text.isTagLike c = true) →
        front <+: tag.toList
  not_reported : ∀ family message, error.fault ≠ .reported family message

namespace Reading

variable {K : Type} [Vocabulary K] {text token rest : List Char} {error : ParseError}

/-! ### Steps -/

theorem startsBlank_of_readMoreProperties (h : readMoreProperties text = .error error) :
    Text.startsBlank text = true := by
  cases hblank : Text.startsBlank text with
  | true => rfl
  | false =>
    have hends : (Text.startsBlank text && !endsProperties (Text.skipBlanks text)) = false := by
      simp [hblank]
    rw [readMoreProperties_of_ends hends] at h
    cases h

/-- The properties that were read are kept, the one that breaks off is completed, and the step is
closed. -/
theorem exists_completion_of_readMoreProperties (h : readMoreProperties text = .error error) :
    error.fault.Shows error.remaining ∧
      ∃ tail more properties, text = tail ++ error.remaining ∧
        Property.SpelledTail properties (tail ++ more) := by
  fun_induction readMoreProperties text with
  | case1 text hgoesOn property after hentry _ ih =>
    have hmore := map_eq_error_iff.mp h
    have hstarts := startsBlank_of_readMoreProperties hmore
    obtain ⟨hshows, tail, more, properties, hafter, htail⟩ := ih hmore
    obtain ⟨gap, hgap, hne, htext⟩ :=
      Text.exists_gap_of_startsBlank (Bool.and_eq_true_iff.mp hgoesOn).1
    obtain ⟨token, htoken, hspelled⟩ := exists_spelled_of_readEntry hentry
    refine ⟨hshows, gap ++ token ++ tail, more, property :: properties, ?_, ?_⟩
    · rw [List.append_assoc, List.append_assoc, ← hafter, ← htoken]
      exact htext
    · rw [List.append_assoc]
      refine .more hgap hne (hspelled.imp fun hshuts => ?_) htail
      -- No word is stopped at once here, since the property is followed by a blank.
      rw [hshuts.startsBlank_eq_false] at hstarts
      cases hstarts
  | case2 text hgoesOn found hentry =>
    cases h
    obtain ⟨gap, hgap, hne, htext⟩ :=
      Text.exists_gap_of_startsBlank (Bool.and_eq_true_iff.mp hgoesOn).1
    have hbreaks := breaksOff_of_readEntry hentry
    obtain ⟨front, more, property, hfront, hspelled, _⟩ := hbreaks.exists_spelled StepKey
    have hclosed := Property.SpelledTail.more hgap hne (hspelled.imp False.elim)
      (.close Text.allBlank_nil)
    refine ⟨hbreaks.shows, gap ++ front, more ++ ['}'], [property], ?_, by simpa using hclosed⟩
    rw [List.append_assoc, ← hfront]
    exact htext
  | case3 => cases h

theorem exists_completion_of_readProperties {gap : List Char} (hgap : Text.AllBlank gap)
    (h : readProperties text = .error error) :
    error.fault.Shows error.remaining ∧
      ∃ body more step, text = body ++ error.remaining ∧
        Step.Spelled step ('{' :: gap ++ (body ++ more)) := by
  unfold readProperties at h
  split at h
  · cases h
  · split at h
    · next property after hentry =>
      have hmore := map_eq_error_iff.mp h
      have hstarts := startsBlank_of_readMoreProperties hmore
      obtain ⟨hshows, tail, more, properties, hafter, htail⟩ :=
        exists_completion_of_readMoreProperties hmore
      obtain ⟨token, htoken, hspelled⟩ := exists_spelled_of_readEntry hentry
      refine ⟨hshows, token ++ tail, more, ⟨property :: properties⟩, ?_, ?_⟩
      · rw [htoken, hafter, List.append_assoc]
      · rw [List.append_assoc, ← List.append_assoc]
        refine .filled hgap (hspelled.imp fun hshuts => ?_) htail
        rw [hshuts.startsBlank_eq_false] at hstarts
        cases hstarts
    · next found hentry =>
      cases h
      have hbreaks := breaksOff_of_readEntry hentry
      obtain ⟨front, more, property, hfront, hspelled, _⟩ := hbreaks.exists_spelled StepKey
      have hclosed := Step.Spelled.filled hgap (hspelled.imp False.elim) (.close Text.allBlank_nil)
      exact ⟨hbreaks.shows, front, more ++ ['}'], _, hfront, by simpa using hclosed⟩

theorem exists_completion_of_readStep (hopening : text.head? = some '{')
    (h : readStep text = .error error) :
    error.fault.Shows error.remaining ∧
      ∃ front more step, text = front ++ error.remaining ∧ Step.Spelled step (front ++ more) := by
  obtain ⟨body, rfl⟩ := List.head?_eq_some_iff.mp hopening
  obtain ⟨gap, hgap, hbody⟩ := Text.exists_gap body
  simp only [readStep] at h
  split at h
  · next properties left hproperties =>
    obtain ⟨inner, hinner, hspelled⟩ := exists_spelled_of_readProperties hgap
      (Text.startsBlank_skipBlanks body) hproperties
    split at h
    · cases h
    · cases h
      refine ⟨trivial, '{' :: gap ++ inner, ['}'], _, ?_, by simpa using hspelled⟩
      rw [List.append_assoc, ← hinner, List.cons_append, ← hbody]
  · next found hproperties =>
    cases h
    obtain ⟨hshows, inner, more, step, hinner, hspelled⟩ :=
      exists_completion_of_readProperties hgap hproperties
    refine ⟨hshows, '{' :: gap ++ inner, more, step, ?_, by simpa using hspelled⟩
    rw [List.append_assoc, ← hinner, List.cons_append, ← hbody]

/-- The induction is on where the text fails; the steps before it are kept. -/
theorem exists_completion_of_fails_steps (h : stepReader.Fails text error) :
    error.fault.Shows error.remaining ∧
      ∃ front more steps, text = front ++ error.remaining ∧
        Step.SpelledInTurn steps (front ++ more) := by
  induction h with
  | @trailing text _ _ =>
    obtain ⟨gap, hgap, htext⟩ := Text.exists_gap text
    exact ⟨trivial, gap, [], [], htext, .nil (by simpa using hgap)⟩
  | @item text error hopens hread =>
    obtain ⟨gap, hgap, htext⟩ := Text.exists_gap text
    have hopening : (Text.skipBlanks text).head? = some '{' := by
      obtain ⟨c, hhead, hc⟩ := (Option.any_eq_true _ _).mp hopens
      rw [hhead, eq_of_beq hc]
    obtain ⟨hshows, front, more, step, hfront, hspelled⟩ :=
      exists_completion_of_readStep hopening hread
    have hsteps := Step.SpelledInTurn.cons hgap hspelled (.nil Text.allBlank_nil)
    refine ⟨hshows, gap ++ front, more, [step], ?_, by simpa using hsteps⟩
    rw [List.append_assoc, ← hfront]
    exact htext
  | @later text rest step error hopens hread _ ih =>
    obtain ⟨gap, hgap, htext⟩ := Text.exists_gap text
    obtain ⟨hshows, front, more, steps, hfront, hsteps⟩ := ih
    obtain ⟨token, htoken, hspelled⟩ := exists_spelled_of_readStep hread
    have hwhole := Step.SpelledInTurn.cons hgap hspelled hsteps
    refine ⟨hshows, gap ++ token ++ front, more, step :: steps, ?_, by simpa using hwhole⟩
    rw [List.append_assoc, List.append_assoc, ← hfront, ← htoken]
    exact htext

/-! ### Commands

Commands have no brace at their end, so each has to stop where it did when another text follows. A
blank stops it. -/

theorem valueText_append_ne_nil (hK : Vocabulary.Delimited K) {entry : Entry K}
    (h : entry.Spelled False token) (rest : List Char) : valueText (token ++ rest) ≠ [] := by
  cases h with
  | @known key value gap token hgap hne hvalue =>
    have hstart : Text.startsBlank (token ++ rest) = false :=
      startsBlank_append_of_spells hK hvalue False.elim
    rw [List.append_assoc, valueText_append_of_isName (hK.isName_tag key) hgap hne hstart]
    exact List.append_ne_nil_of_left_ne_nil hvalue.ne_nil rest
  | @unknown name gap token value hname _ hgap hne hvalue =>
    have hstart : Text.startsBlank (token ++ rest) = false :=
      startsBlank_append_of_spellsText hK hvalue False.elim
    rw [List.append_assoc, valueText_append_of_isName hname hgap hne hstart]
    exact List.append_ne_nil_of_left_ne_nil hvalue.ne_nil rest

/-- An entry with a value is read again in front of a text that parts from the old one at a
blank. -/
theorem readEntry_append_of_parts (hK : Vocabulary.Delimited K) {entry : Entry K}
    {whole : List Char} (hspelled : entry.Spelled False token)
    (h : readEntry K (token ++ rest) = .ok (entry, rest)) (hparts : PartsAtBlank rest whole) :
    readEntry K (token ++ whole) = .ok (entry, whole) := by
  obtain ⟨start, after, c, tail, rfl, rfl, hc⟩ := hparts
  rw [← List.append_assoc] at h ⊢
  exact readEntry_append_cons hK (readEntry_of_append h) (valueText_append_ne_nil hK hspelled start)
    hc tail

/-- The induction is on where the text fails; the commands before it are kept. -/
theorem exists_completion_of_fails_commands (h : commandReader.Fails text error) :
    error.fault.Shows error.remaining ∧
      ∃ front more commands, text = front ++ error.remaining ∧
        commandReader.readWhole (front ++ more) = .ok commands ∧
          PartsAtBlank text (front ++ more) := by
  induction h with
  | @trailing text _ _ =>
    obtain ⟨gap, hgap, htext⟩ := Text.exists_gap text
    refine ⟨trivial, gap, [' '], [], htext, ?_, gap, _, ' ', [], htext, rfl, rfl⟩
    rw [ItemReader.readWhole_append_of_allBlank hgap, ItemReader.readWhole_eq_ok_nil_iff]
    exact Text.allBlank_singleton rfl
  | @item text error hopens hread =>
    obtain ⟨gap, hgap, htext⟩ := Text.exists_gap text
    have hbreaks := breaksOff_of_readEntry hread
    obtain ⟨front, more, command, hfront, hspelled, hparts⟩ := hbreaks.exists_spelled CommandKey
    have hapart := Command.SpelledApart.cons hgap (hspelled.imp False.elim)
      (stops_iff.mpr (.inl rfl)) (.nil Text.allBlank_nil)
    rw [List.append_nil, ← List.append_assoc] at hapart
    refine ⟨hbreaks.shows, gap ++ front, more, [command], ?_, readWhole_of_spelledApart hapart, ?_⟩
    · rw [List.append_assoc, ← hfront]
      exact htext
    · rw [htext, List.append_assoc]
      exact (hparts hopens).append_left gap
  | @later text rest command error hopens hread hfails ih =>
    obtain ⟨gap, hgap, htext⟩ := Text.exists_gap text
    obtain ⟨hshows, front, more, commands, hfront, hmore, hparts⟩ := ih
    obtain ⟨token, htoken, hspelled⟩ := exists_spelled_of_readEntry hread
    have hvalued : command.Spelled False token := by
      refine hspelled.imp fun hshuts => hfails.skipBlanks_ne_nil ?_
      rw [eq_nil_of_shuts hshuts]
      rfl
    have hwhole : gap ++ token ++ front ++ more = gap ++ (token ++ (front ++ more)) := by simp
    refine ⟨hshows, gap ++ token ++ front, more, command :: commands, ?_, ?_, ?_⟩
    · rw [List.append_assoc, List.append_assoc, ← hfront, ← htoken]
      exact htext
    · obtain ⟨c, tail, rfl, hc⟩ := exists_isKeyChar_of_spelled CommandKey.delimited hvalued
      have hread' : readEntry CommandKey (c :: tail ++ rest) = .ok (command, rest) :=
        htoken ▸ hread
      have hskip : Text.skipBlanks (gap ++ c :: (tail ++ (front ++ more))) =
          c :: (tail ++ (front ++ more)) :=
        Text.skipBlanks_append hgap (startsBlank_cons_of_isKeyChar hc)
      rw [hwhole, List.cons_append, ItemReader.readWhole_eq_ok_cons_iff, hskip]
      exact ⟨hc, _, readEntry_append_of_parts CommandKey.delimited hvalued hread' hparts, hmore⟩
    · rw [hwhole, htext, htoken]
      exact (hparts.append_left token).append_left gap

/-! ### The place of a failure -/

theorem locatedIn_of_completion {α : Type} {read : String → Except ParseError α} {text : String}
    {front more : List Char} {value : α} (hshows : error.fault.Shows error.remaining)
    (htext : text.toList = front ++ error.remaining)
    (hread : read (String.ofList (front ++ more)) = .ok value) : error.LocatedIn read text where
  viable := by
    refine ⟨String.ofList front, String.ofList more, ?_, value, ?_⟩
    · rw [← String.ofList_append, ← htext, String.ofList_toList]
    · rwa [← String.ofList_append]
  tag_longest := by
    intro tag expected hfault
    rw [hfault] at hshows
    have htag : tag.toList = error.remaining.takeWhile Text.isTagLike := by
      rw [hshows.1, String.toList_ofList]
      rfl
    rw [htag]
    refine ⟨List.takeWhile_prefix _, fun _ => Text.of_mem_takeWhile, fun front hfront hall => ?_⟩
    exact Text.prefix_takeWhile hfront hall
  not_reported := by
    intro family message hfault
    rw [hfault] at hshows
    exact hshows

/-- **Located failures.** Whatever text is refused, by the reader of steps or the reader of
documents, the failure names the place where it goes wrong: what stands before can be gone on with
so that the same reader accepts it. -/
theorem locatedIn_of_readAll_eq_error :
    (∀ text error, Step.readAll text = .error error → error.LocatedIn Step.readAll text) ∧
      ∀ text error, Command.readAll text = .error error →
        error.LocatedIn Command.readAll text := by
  constructor
  · intro text error h
    obtain ⟨hshows, front, more, steps, htext, hspelled⟩ :=
      exists_completion_of_fails_steps (ItemReader.fails_of_readWhole h)
    apply locatedIn_of_completion hshows htext
    unfold Step.readAll
    rw [String.toList_ofList]
    exact readWhole_eq_ok_iff_spelledInTurn.mpr hspelled
  · intro text error h
    obtain ⟨hshows, front, more, commands, htext, hread, _⟩ :=
      exists_completion_of_fails_commands (ItemReader.fails_of_readWhole h)
    apply locatedIn_of_completion hshows htext
    unfold Command.readAll
    rw [String.toList_ofList]
    exact hread

/-- A pump after a sensor, and a beverage after a word. -/
theorem locatedIn_of_unknown_tags :
    (∃ error, Step.readAll "\x7bsensor water pump fl\x7d" = .error error ∧
      error.remaining = "fl\x7d".toList ∧
        error.LocatedIn Step.readAll "\x7bsensor water pump fl\x7d") ∧
    ∃ error, Command.readAll "z 1 beverage_type mud" = .error error ∧
      error.remaining = "mud".toList ∧ error.LocatedIn Command.readAll "z 1 beverage_type mud" := by
  have hpump : failure? (Step.readAll "\x7bsensor water pump fl\x7d") =
      some ⟨.unrecognized "fl" (Tagged.tags Pump), "fl\x7d".toList⟩ := by decide +kernel
  have hbeverage : failure? (Command.readAll "z 1 beverage_type mud") =
      some ⟨.unrecognized "mud" (Tagged.tags Beverage), "mud".toList⟩ := by decide +kernel
  have hstep := failure?_eq_some_iff.mp hpump
  have hcommand := failure?_eq_some_iff.mp hbeverage
  exact ⟨⟨_, hstep, rfl, locatedIn_of_readAll_eq_error.1 _ _ hstep⟩,
    ⟨_, hcommand, rfl, locatedIn_of_readAll_eq_error.2 _ _ hcommand⟩⟩

end Reading

end Espresso
