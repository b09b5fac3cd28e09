import Espresso.Proofs.Grammar.Entry
import Espresso.Proofs.Grammar.Item
import Espresso.Reading.Step

/-!
# Spelled steps

The grammar of step texts, and that it is exactly what is read. Properties are separated by blanks
and a step ends with a brace, so each property is followed by a character that ends a word; nothing
has to be known about what follows a step.
-/

namespace Espresso

/-- The properties of a step after its first, and the closing brace. A word is empty only directly
before that brace. -/
inductive Property.SpelledTail : List Property → List Char → Prop
  | close {gap : List Char} : Text.AllBlank gap → SpelledTail [] (gap ++ ['}'])
  | more {gap token tail : List Char} {property : Property} {properties : List Property} :
      Text.AllBlank gap → gap ≠ [] → property.Spelled (tail.head? = some '}') token →
      SpelledTail properties tail → SpelledTail (property :: properties) (gap ++ token ++ tail)

namespace Step

inductive Spelled : Step → List Char → Prop
  | bare {gap : List Char} : Text.AllBlank gap → Spelled ⟨[]⟩ ('{' :: gap ++ ['}'])
  | filled {gap token tail : List Char} {property : Property} {properties : List Property} :
      Text.AllBlank gap → property.Spelled (tail.head? = some '}') token →
      Property.SpelledTail properties tail →
      Spelled ⟨property :: properties⟩ ('{' :: gap ++ token ++ tail)

/-- Steps one after another, with or without blanks around them. -/
inductive SpelledInTurn : List Step → List Char → Prop
  | nil {gap : List Char} : Text.AllBlank gap → SpelledInTurn [] gap
  | cons {gap token rest : List Char} {step : Step} {steps : List Step} :
      Text.AllBlank gap → step.Spelled token → SpelledInTurn steps rest →
      SpelledInTurn (step :: steps) (gap ++ token ++ rest)

end Step

/-! ### The properties of spelled steps -/

theorem Property.SpelledTail.exists_spelled {properties : List Property} {tail : List Char}
    (h : SpelledTail properties tail) {property : Property} (hmem : property ∈ properties) :
    ∃ (p : Prop) (token : List Char), property.Spelled p token := by
  induction h with
  | close => cases hmem
  | more _ _ hproperty _ ih =>
    rcases List.mem_cons.mp hmem with rfl | hmem
    · exact ⟨_, _, hproperty⟩
    · exact ih hmem

theorem Step.Spelled.exists_spelled {step : Step} {token : List Char} (h : step.Spelled token)
    {property : Property} (hmem : property ∈ step.properties) :
    ∃ (p : Prop) (token : List Char), property.Spelled p token := by
  cases h with
  | bare => cases hmem
  | filled _ hproperty htail =>
    rcases List.mem_cons.mp hmem with rfl | hmem
    · exact ⟨_, _, hproperty⟩
    · exact htail.exists_spelled hmem

theorem Step.SpelledInTurn.exists_spelled {steps : List Step} {text : List Char}
    (h : SpelledInTurn steps text) {step : Step} (hmem : step ∈ steps) :
    ∃ token, step.Spelled token := by
  induction h with
  | nil => cases hmem
  | cons _ hstep _ ih =>
    rcases List.mem_cons.mp hmem with rfl | hmem
    · exact ⟨_, hstep⟩
    · exact ih hmem

namespace Reading

variable {properties : List Property} {token tail rest text : List Char}

theorem readMoreProperties_of_ends {text : List Char}
    (h : (Text.startsBlank text && !endsProperties (Text.skipBlanks text)) = false) :
    readMoreProperties text = .ok ([], text) := by
  unfold readMoreProperties
  simp [h]

theorem readMoreProperties_of_goesOn {text : List Char}
    (h : (Text.startsBlank text && !endsProperties (Text.skipBlanks text)) = true) :
    readMoreProperties text =
      match readEntry StepKey (Text.skipBlanks text) with
      | .ok (property, rest) => (readMoreProperties rest).map (property :: ·)
      | .error error => .error error := by
  rw [readMoreProperties]
  simp only [h, if_true]
  split <;> simp_all

/-- A closing brace or a blank comes first in the rest of a step. -/
theorem stops_of_spelledTail (h : Property.SpelledTail properties tail) :
    Vocabulary.Stops StepKey (tail ++ rest) := by
  have hblanks : ∀ {gap after : List Char}, Text.AllBlank gap →
      gap ≠ [] ∨ after.head? = some '}' → Vocabulary.Stops StepKey (gap ++ after) := by
    intro gap after hgap hafter c hc
    cases gap with
    | nil =>
      rw [List.nil_append, hafter.resolve_left (by simp)] at hc
      cases hc
      rfl
    | cons d gap =>
      cases hc
      exact StepKey.delimited.endsWord_of_isBlank c (hgap c (by simp))
  cases h with
  | close hgap =>
    rw [List.append_assoc]
    exact hblanks hgap (.inr rfl)
  | more hgap hne =>
    rw [List.append_assoc, List.append_assoc]
    exact hblanks hgap (.inl hne)

/-- A word in a step that is stopped at once is stopped by a brace, or by the end. -/
theorem head?_of_shuts (hshuts : Vocabulary.Shuts StepKey (tail ++ rest)) :
    (tail ++ ['}']).head? = some '}' := by
  cases tail with
  | nil => rfl
  | cons c tail =>
    rcases StepKey.delimited.isBlank_or_closing c (hshuts.stops c rfl) with hblank | rfl
    · have hstart : Text.isBlank c = false := hshuts.startsBlank_eq_false
      rw [hblank] at hstart
      cases hstart
    · rfl

/-- A word that stands directly before the closing brace is not followed by a blank. -/
theorem startsBlank_of_closing (h : tail.head? = some '}') :
    Text.startsBlank (tail ++ rest) = false := by
  obtain ⟨after, rfl⟩ := List.head?_eq_some_iff.mp h
  rw [List.cons_append]
  rfl

theorem readEntry_append_of_tail {property : Property}
    (hproperty : property.Spelled (tail.head? = some '}') token)
    (htail : Property.SpelledTail properties tail) :
    readEntry StepKey (token ++ (tail ++ rest)) = .ok (property, tail ++ rest) :=
  readEntry_append StepKey.delimited hproperty startsBlank_of_closing (stops_of_spelledTail htail)

theorem startsBlank_append_of_entry {property : Property} {p : Prop} (rest : List Char)
    (hproperty : property.Spelled p token) :
    Text.startsBlank (token ++ rest) = false ∧ endsProperties (token ++ rest) = false := by
  obtain ⟨c, token, rfl, hc⟩ := exists_isKeyChar_of_spelled StepKey.delimited hproperty
  refine ⟨startsBlank_cons_of_isKeyChar hc, ?_⟩
  rw [List.cons_append]
  simp only [endsProperties, beq_eq_false_iff_ne]
  rintro rfl
  revert hc
  decide

/-- The induction is on the tail: its last blanks are left for the step to skip. -/
theorem exists_readMoreProperties_append (rest : List Char)
    (h : Property.SpelledTail properties tail) :
    ∃ gap, Text.AllBlank gap ∧
      readMoreProperties (tail ++ rest) = .ok (properties, gap ++ '}' :: rest) := by
  induction h with
  | @close gap hgap =>
    refine ⟨gap, hgap, ?_⟩
    rw [List.append_assoc, readMoreProperties_of_ends]
    · rfl
    · rw [Text.skipBlanks_append hgap rfl]
      simp [endsProperties]
  | @more gap token tail property properties hgap hne hproperty htail ih =>
    obtain ⟨last, hlast, hmore⟩ := ih
    obtain ⟨hstart, hends⟩ := startsBlank_append_of_entry (tail ++ rest) hproperty
    refine ⟨last, hlast, ?_⟩
    rw [List.append_assoc, List.append_assoc, readMoreProperties_of_goesOn,
      Text.skipBlanks_append hgap hstart, readEntry_append_of_tail hproperty htail]
    · simp only [hmore, map]
    · rw [Text.startsBlank_append hgap hne, Text.skipBlanks_append hgap hstart, hends]
      rfl

theorem readStep_append {step : Step} (h : step.Spelled token) :
    readStep (token ++ rest) = .ok (step, rest) := by
  cases h with
  | @bare gap hgap =>
    have hbody : Text.skipBlanks (gap ++ ['}'] ++ rest) = '}' :: rest := by
      rw [List.append_assoc]
      exact Text.skipBlanks_append hgap rfl
    unfold readStep
    simp only [List.cons_append, hbody]
    unfold readProperties
    rfl
  | @filled gap token tail property properties hgap hproperty htail =>
    obtain ⟨hstart, hends⟩ := startsBlank_append_of_entry (tail ++ rest) hproperty
    obtain ⟨last, hlast, hmore⟩ := exists_readMoreProperties_append rest htail
    have hbody : Text.skipBlanks (gap ++ token ++ tail ++ rest) = token ++ (tail ++ rest) := by
      rw [List.append_assoc, List.append_assoc]
      exact Text.skipBlanks_append hgap hstart
    unfold readStep
    simp only [List.cons_append, hbody]
    unfold readProperties
    rw [hends, readEntry_append_of_tail hproperty htail]
    simp only [Bool.false_eq_true, if_false, hmore, map]
    rw [Text.skipBlanks_append hlast rfl]
    rfl

/-- The induction follows the reader; the blanks that it leaves are the gap in which the step could
be closed. -/
theorem exists_spelledTail_of_readMoreProperties {left : List Char}
    (h : readMoreProperties text = .ok (properties, left)) :
    ∃ tail, text = tail ++ Text.skipBlanks left ∧
      Property.SpelledTail properties (tail ++ ['}']) := by
  fun_induction readMoreProperties text generalizing properties with
  | case1 text hgoesOn property after hentry _ ih =>
    obtain ⟨more, hmore, rfl⟩ := map_eq_ok_iff.mp h
    obtain ⟨tail, hafter, htail⟩ := ih hmore
    obtain ⟨gap, hgap, hne, htext⟩ :=
      Text.exists_gap_of_startsBlank (Bool.and_eq_true_iff.mp hgoesOn).1
    obtain ⟨token, htoken, hspelled⟩ := exists_spelled_of_readEntry hentry
    refine ⟨gap ++ token ++ tail, ?_, ?_⟩
    · rw [List.append_assoc, List.append_assoc, ← hafter, ← htoken]
      exact htext
    · rw [List.append_assoc]
      refine .more hgap hne (hspelled.imp fun hshuts => ?_) htail
      exact head?_of_shuts (hafter ▸ hshuts)
  | case2 => cases h
  | case3 =>
    cases h
    obtain ⟨gap, hgap, htext⟩ := Text.exists_gap left
    exact ⟨gap, htext, .close hgap⟩

theorem exists_spelled_of_readProperties {gap left : List Char} (hgap : Text.AllBlank gap)
    (htext : Text.startsBlank text = false) (h : readProperties text = .ok (properties, left)) :
    ∃ body, text = body ++ Text.skipBlanks left ∧
      Step.Spelled ⟨properties⟩ ('{' :: gap ++ (body ++ ['}'])) := by
  unfold readProperties at h
  split at h
  · cases h
    exact ⟨[], (Text.skipBlanks_of_not_startsBlank htext).symm, .bare hgap⟩
  · split at h
    · next property more hentry =>
      obtain ⟨others, hmore, rfl⟩ := map_eq_ok_iff.mp h
      obtain ⟨token, htoken, hspelled⟩ := exists_spelled_of_readEntry hentry
      obtain ⟨tail, hafter, htail⟩ := exists_spelledTail_of_readMoreProperties hmore
      refine ⟨token ++ tail, by rw [htoken, hafter, List.append_assoc], ?_⟩
      rw [List.append_assoc, ← List.append_assoc]
      exact .filled hgap (hspelled.imp fun hshuts => head?_of_shuts (hafter ▸ hshuts)) htail
    · cases h

theorem exists_spelled_of_readStep {step : Step} (h : readStep text = .ok (step, rest)) :
    ∃ token, text = token ++ rest ∧ step.Spelled token := by
  unfold readStep at h
  split at h
  · next body =>
    obtain ⟨gap, hgap, hbody⟩ := Text.exists_gap body
    split at h
    · next properties left hproperties =>
      obtain ⟨inner, hinner, hspelled⟩ := exists_spelled_of_readProperties hgap
        (Text.startsBlank_skipBlanks body) hproperties
      split at h
      · next after hleft =>
        cases h
        refine ⟨'{' :: gap ++ (inner ++ ['}']), ?_, hspelled⟩
        rw [hbody, hinner, hleft]
        simp
      · exact absurd h stuck_ne_ok
    · cases h
  · exact absurd h stuck_ne_ok

theorem exists_opening_of_spelled {step : Step} (h : step.Spelled token) :
    ∃ body, token = '{' :: body := by
  cases h with
  | bare => exact ⟨_, rfl⟩
  | filled => exact ⟨_, rfl⟩

/-- The induction is on the steps; each takes its own spelling off the text. -/
theorem readWhole_eq_ok_iff_spelledInTurn {steps : List Step} :
    stepReader.readWhole text = .ok steps ↔ Step.SpelledInTurn steps text := by
  induction steps generalizing text with
  | nil =>
    rw [ItemReader.readWhole_eq_ok_nil_iff]
    constructor
    · exact .nil
    · rintro ⟨hgap⟩
      exact hgap
  | cons step steps ih =>
    rw [ItemReader.readWhole_eq_ok_cons_iff]
    constructor
    · rintro ⟨_, rest, hread, hrest⟩
      obtain ⟨gap, hgap, htext⟩ := Text.exists_gap text
      obtain ⟨token, htoken, hspelled⟩ := exists_spelled_of_readStep hread
      rw [htext, htoken, ← List.append_assoc]
      exact .cons hgap hspelled (ih.mp hrest)
    · intro h
      cases h with
      | @cons gap token rest _ _ hgap hspelled hrest =>
        obtain ⟨body, rfl⟩ := exists_opening_of_spelled hspelled
        have hskip : Text.skipBlanks (gap ++ '{' :: body ++ rest) = '{' :: body ++ rest := by
          rw [List.append_assoc]
          exact Text.skipBlanks_append hgap rfl
        rw [hskip]
        exact ⟨rfl, rest, readStep_append hspelled, ih.mpr hrest⟩

end Reading

/-- **The step grammar.** A text is read as the steps it spells, and a text that spells none is
refused. -/
theorem Step.readAll_eq_ok_iff_spelledInTurn (text : String) :
    (∀ steps, Step.readAll text = .ok steps ↔ Step.SpelledInTurn steps text.toList) ∧
      ((∃ error, Step.readAll text = .error error) ↔
        ¬ ∃ steps, Step.SpelledInTurn steps text.toList) := by
  have hread : ∀ steps, Step.readAll text = .ok steps ↔ Step.SpelledInTurn steps text.toList :=
    fun _ => Reading.readWhole_eq_ok_iff_spelledInTurn
  refine ⟨hread, ?_⟩
  simp only [← hread]
  cases Step.readAll text <;> simp

end Espresso
