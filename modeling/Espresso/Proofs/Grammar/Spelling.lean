import Espresso.Proofs.Grammar.Tag
import Espresso.Proofs.Grammar.Token

/-!
# Spelled entries

How a key with its value is written. The value's kind says how it is spelled; only an unquoted word
may be empty, and only where `mayBeEmpty` holds. An entry ends where a character follows that ends a
word.
-/

namespace Espresso

/-- A text in braces, or a word that has no character that ends one and does not start like a text
in braces. -/
inductive SpellsText (endsWord : Char → Bool) (mayBeEmpty : Prop) : String → List Char → Prop
  | braced {inner : List Char} : Text.Balanced inner →
      SpellsText endsWord mayBeEmpty (String.ofList inner) ('{' :: inner ++ ['}'])
  | word {word : List Char} : (∀ c ∈ word, endsWord c = false) → word.head? ≠ some '{' →
      (word = [] → mayBeEmpty) → SpellsText endsWord mayBeEmpty (String.ofList word) word

/-- How the values of a kind are spelled. -/
def Kind.Spells (endsWord : Char → Bool) (mayBeEmpty : Prop) :
    (kind : Kind) → kind.Value → List Char → Prop
  | flag, value, token => token = [if value then '1' else '0']
  | number, value, token => Decimal.Numeral.SpellsValue value token
  | text, value, token => SpellsText endsWord mayBeEmpty value token
  | transition, member, token => Tagged.Spelled member token
  | sensor, member, token => Tagged.Spelled member token
  | pump, member, token => Tagged.Spelled member token
  | exit, member, token => Tagged.Spelled member token
  | beverage, member, token => Tagged.Spelled member token
  | profileType, member, token => Tagged.Spelled member token

/-- A key, blanks, and a value of the key's kind; after a name that is no key, a text. -/
inductive Entry.Spelled {K : Type} [Vocabulary K] (mayBeEmpty : Prop) : Entry K → List Char → Prop
  | known {key : K} {value : (Vocabulary.kind key).Value} {gap token : List Char} :
      Text.AllBlank gap → gap ≠ [] →
      (Vocabulary.kind key).Spells (Vocabulary.endsWord K) mayBeEmpty value token →
      Spelled mayBeEmpty (.known key value) ((Tagged.tag key).toList ++ gap ++ token)
  | unknown {name gap token : List Char} {value : String} :
      Reading.IsName name → (∀ key : K, (Tagged.tag key).toList ≠ name) →
      Text.AllBlank gap → gap ≠ [] →
      SpellsText (Vocabulary.endsWord K) mayBeEmpty value token →
      Spelled mayBeEmpty (.unknown (String.ofList name) value) (name ++ gap ++ token)

theorem SpellsText.imp {endsWord : Char → Bool} {p q : Prop} {value : String} {token : List Char}
    (hpq : p → q) (h : SpellsText endsWord p value token) : SpellsText endsWord q value token := by
  cases h with
  | braced hbalanced => exact .braced hbalanced
  | word hword hhead hempty => exact .word hword hhead fun h => hpq (hempty h)

theorem Kind.Spells.imp {endsWord : Char → Bool} {p q : Prop} {kind : Kind} {value : kind.Value}
    {token : List Char} (hpq : p → q) (h : kind.Spells endsWord p value token) :
    kind.Spells endsWord q value token := by
  cases kind with
  | text => exact SpellsText.imp hpq h
  | flag | number | transition | sensor | pump | exit | beverage | profileType => exact h

theorem Entry.Spelled.imp {K : Type} [Vocabulary K] {p q : Prop} {entry : Entry K}
    {token : List Char} (hpq : p → q) (h : entry.Spelled p token) : entry.Spelled q token := by
  cases h with
  | known hgap hne hvalue => exact .known hgap hne (hvalue.imp hpq)
  | unknown hname hfresh hgap hne hvalue => exact .unknown hname hfresh hgap hne (hvalue.imp hpq)

/-! ### Without empty words

An empty text can be written in braces, so whatever is spelled is spelled without an empty word. -/

theorem SpellsText.exists_of_false {endsWord : Char → Bool} {p : Prop} {value : String}
    {token : List Char} (h : SpellsText endsWord p value token) :
    ∃ token, SpellsText endsWord False value token := by
  cases h with
  | braced hbalanced => exact ⟨_, .braced hbalanced⟩
  | word hword hhead _ =>
    by_cases hnil : token = []
    · subst hnil
      exact ⟨_, .braced Text.balanced_nil⟩
    · exact ⟨token, .word hword hhead hnil⟩

theorem SpellsText.ne_nil {endsWord : Char → Bool} {value : String} {token : List Char}
    (h : SpellsText endsWord False value token) : token ≠ [] := by
  cases h with
  | braced _ => exact List.cons_ne_nil _ _
  | word _ _ hempty => exact hempty

theorem Kind.Spells.exists_of_false {endsWord : Char → Bool} {p : Prop} {kind : Kind}
    {value : kind.Value} {token : List Char} (h : kind.Spells endsWord p value token) :
    ∃ token, kind.Spells endsWord False value token := by
  cases kind with
  | text => exact SpellsText.exists_of_false h
  | flag | number | transition | sensor | pump | exit | beverage | profileType => exact ⟨token, h⟩

theorem Entry.Spelled.exists_of_false {K : Type} [Vocabulary K] {p : Prop} {entry : Entry K}
    {token : List Char} (h : entry.Spelled p token) : ∃ token, entry.Spelled False token := by
  cases h with
  | known hgap hne hvalue =>
    obtain ⟨_, hvalue⟩ := hvalue.exists_of_false
    exact ⟨_, .known hgap hne hvalue⟩
  | unknown hname hfresh hgap hne hvalue =>
    obtain ⟨_, hvalue⟩ := hvalue.exists_of_false
    exact ⟨_, .unknown hname hfresh hgap hne hvalue⟩

theorem Kind.Spells.ne_nil {endsWord : Char → Bool} {kind : Kind} {value : kind.Value}
    {token : List Char} (h : kind.Spells endsWord False value token) : token ≠ [] := by
  have htag : ∀ {α : Type} [Tagged α] (_ : Tagged.Named α) {member : α},
      Tagged.Spelled member token → token ≠ [] :=
    fun hnamed _ hspelled => (hnamed.isName_of_spelled hspelled).1
  cases kind with
  | flag =>
    rw [show token = _ from h]
    exact List.cons_ne_nil _ _
  | number =>
    obtain ⟨numeral, hspelled, _⟩ := h
    exact hspelled.ne_nil
  | text => exact SpellsText.ne_nil h
  | transition => exact htag Tagged.plain_transition.named h
  | sensor => exact htag Tagged.plain_sensor.named h
  | pump => exact htag Tagged.plain_pump.named h
  | exit => exact htag Tagged.plain_exit.named h
  | beverage => exact htag Tagged.named_beverage h
  | profileType => exact htag Tagged.plain_profileType.named h

/-! ### What ends a value -/

namespace Text

theorem isKeyChar_eq_false_of_isBlank {c : Char} (h : isBlank c = true) :
    Reading.isKeyChar c = false := by
  rw [Bool.eq_false_iff, ne_eq, Reading.isKeyChar_iff]
  simp only [isBlank, Bool.or_eq_true, Bool.and_eq_true, decide_eq_true_eq, beq_iff_eq] at h
  omega

theorem isBlank_eq_false_of_isKeyChar {c : Char} (h : Reading.isKeyChar c = true) :
    isBlank c = false := by
  cases hblank : isBlank c with
  | false => rfl
  | true =>
    rw [isKeyChar_eq_false_of_isBlank hblank] at h
    cases h

end Text

/-- Words end at every blank, and besides at most at a closing brace; keys are names. -/
structure Vocabulary.Delimited (K : Type) [Vocabulary K] : Prop where
  isName_tag : ∀ key : K, Reading.IsName (Tagged.tag key).toList
  endsWord_of_isBlank : ∀ c, Text.isBlank c = true → Vocabulary.endsWord K c = true
  isBlank_or_closing : ∀ c, Vocabulary.endsWord K c = true → Text.isBlank c = true ∨ c = '}'

/-- Nothing follows, or a character that ends a word. -/
def Vocabulary.Stops (K : Type) [Vocabulary K] (rest : List Char) : Prop :=
  ∀ c ∈ rest.head?, Vocabulary.endsWord K c = true

/-- Nothing follows, or a character that ends a word and is no blank. -/
structure Vocabulary.Shuts (K : Type) [Vocabulary K] (rest : List Char) : Prop where
  stops : Stops K rest
  startsBlank_eq_false : Text.startsBlank rest = false

theorem StepKey.delimited : Vocabulary.Delimited StepKey where
  isName_tag key := by cases key <;> exact Reading.isName_toList rfl rfl
  endsWord_of_isBlank c h := by simp [Vocabulary.endsWord, h]
  isBlank_or_closing c h := by simpa [Vocabulary.endsWord] using h

namespace Vocabulary.Stops

variable {K : Type} [Vocabulary K] {rest : List Char}

theorem any_head?_eq_false {p : Char → Bool} (h : Stops K rest)
    (hp : ∀ c, endsWord K c = true → p c = false) : rest.head?.any p = false := by
  cases hhead : rest.head? with
  | none => rfl
  | some c => simpa using hp c (h c hhead)

theorem not_isKeyChar (h : Stops K rest) (hK : Delimited K) :
    rest.head?.any Reading.isKeyChar = false := by
  refine h.any_head?_eq_false fun c hc => ?_
  rcases hK.isBlank_or_closing c hc with hblank | rfl
  · exact Text.isKeyChar_eq_false_of_isBlank hblank
  · decide

theorem not_continuesNumeral (h : Stops K rest) (hK : Delimited K) :
    rest.head?.any Decimal.continuesNumeral = false := by
  refine h.any_head?_eq_false fun c hc => ?_
  rcases hK.isBlank_or_closing c hc with hblank | rfl
  · have hkey := Text.isKeyChar_eq_false_of_isBlank hblank
    have hpoint : c ≠ '.' := by
      rintro rfl
      exact absurd hblank (by decide)
    simp only [Reading.isKeyChar, Char.isAlphanum, Bool.or_eq_false_iff] at hkey
    simp [Decimal.continuesNumeral, hkey.1.2, hpoint]
  · decide

theorem head?_ne_opening (h : Stops K rest) (hK : Delimited K) : rest.head? ≠ some '{' := by
  intro hhead
  rcases hK.isBlank_or_closing '{' (h '{' hhead) with hblank | hclosing
  · exact absurd hblank (by decide)
  · exact absurd hclosing (by decide)

end Vocabulary.Stops

end Espresso
