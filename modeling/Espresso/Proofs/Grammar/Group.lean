import Espresso.Proofs.Grammar.Step

/-!
# Brace groups

A document cuts its step text out by counting every brace, and a step counts none of those inside an
unquoted word. Such a word opens braces and closes none, so a text that holds as many braces of both
sorts has no brace in any word of its steps, and it falls into the same pieces either way.
-/

namespace Espresso

/-! ### What is spelled never closes more than it opens -/

theorem Text.AllBlank.nests {gap : List Char} (h : AllBlank gap) : Nests gap :=
  nests_of_not_mem fun hmem => absurd (h _ hmem) (by decide)

theorem Reading.IsName.nests {name : List Char} (h : IsName name) : Text.Nests name :=
  Text.nests_of_not_mem fun hmem => absurd (h.2 _ hmem) (by decide)

theorem Decimal.Numeral.Spelled.nests {numeral : Numeral} {token : List Char}
    (h : numeral.Spelled token) : Text.Nests token := by
  have hdigits : ∀ {digits : List Char}, (∀ c ∈ digits, c.isDigit = true) → '}' ∉ digits :=
    fun hdigit hmem => absurd (hdigit _ hmem) (by decide)
  apply Text.nests_of_not_mem
  cases h with
  | whole _ hwhole => exact hdigits hwhole
  | pointed _ hwhole hfraction => simp [hdigits hwhole, hdigits hfraction]
  | leading _ hfraction => simp [hdigits hfraction]

/-- A word does not go past a closing brace. -/
theorem SpellsText.nests {endsWord : Char → Bool} {p : Prop} {value : String} {token : List Char}
    (hends : endsWord '}' = true) (h : SpellsText endsWord p value token) : Text.Nests token := by
  cases h with
  | braced hbalanced => exact (Text.balanced_iff_nests.mp hbalanced).1.braced
  | word hword _ _ =>
    apply Text.nests_of_not_mem
    intro hmem
    rw [hword _ hmem] at hends
    cases hends

theorem Kind.Spells.nests {endsWord : Char → Bool} {p : Prop} {kind : Kind} {value : kind.Value}
    {token : List Char} (hends : endsWord '}' = true) (h : kind.Spells endsWord p value token) :
    Text.Nests token := by
  have htag : ∀ {α : Type} [Tagged α] (_ : Tagged.Named α) {member : α},
      Tagged.Spelled member token → Text.Nests token :=
    fun hnamed _ hspelled => (hnamed.isName_of_spelled hspelled).nests
  cases kind with
  | flag =>
    rw [show token = _ from h]
    cases value <;> exact Text.nests_of_not_mem (by decide)
  | number =>
    obtain ⟨numeral, hspelled, _⟩ := h
    exact hspelled.nests
  | text => exact SpellsText.nests hends h
  | transition => exact htag Tagged.plain_transition.named h
  | sensor => exact htag Tagged.plain_sensor.named h
  | pump => exact htag Tagged.plain_pump.named h
  | exit => exact htag Tagged.plain_exit.named h
  | beverage => exact htag Tagged.named_beverage h
  | profileType => exact htag Tagged.plain_profileType.named h

theorem Property.Spelled.nests {property : Property} {p : Prop} {token : List Char}
    (h : property.Spelled p token) : Text.Nests token := by
  have hends : Vocabulary.endsWord StepKey '}' = true := rfl
  cases h with
  | @known key value gap token hgap _ hvalue =>
    exact ((StepKey.delimited.isName_tag key).nests.append hgap.nests).append (hvalue.nests hends)
  | unknown hname _ hgap _ hvalue =>
    exact (hname.nests.append hgap.nests).append (hvalue.nests hends)

/-- What stands before the brace that closes the step. -/
theorem Property.SpelledTail.exists_nests {properties : List Property} {tail : List Char}
    (h : SpelledTail properties tail) : ∃ body, tail = body ++ ['}'] ∧ Text.Nests body := by
  induction h with
  | @close gap hgap => exact ⟨gap, rfl, hgap.nests⟩
  | @more gap token tail property properties hgap _ hproperty _ ih =>
    obtain ⟨body, rfl, hbody⟩ := ih
    refine ⟨gap ++ token ++ body, by simp, (hgap.nests.append ?_).append hbody⟩
    exact Property.Spelled.nests hproperty

namespace Step

theorem Spelled.exists_nests {step : Step} {token : List Char} (h : step.Spelled token) :
    ∃ body, token = '{' :: body ++ ['}'] ∧ Text.Nests body := by
  cases h with
  | @bare gap hgap => exact ⟨gap, rfl, hgap.nests⟩
  | @filled gap token tail property properties hgap hproperty htail =>
    obtain ⟨body, rfl, hbody⟩ := htail.exists_nests
    refine ⟨gap ++ token ++ body, by simp, (hgap.nests.append ?_).append hbody⟩
    exact Property.Spelled.nests hproperty

theorem SpelledInTurn.nests {steps : List Step} {text : List Char}
    (h : SpelledInTurn steps text) : Text.Nests text := by
  induction h with
  | nil hgap => exact hgap.nests
  | cons hgap hstep _ ih =>
    obtain ⟨body, rfl, hbody⟩ := hstep.exists_nests
    exact (hgap.nests.append hbody.braced).append ih

/-- Blanks at the end are no part of a step. -/
theorem SpelledInTurn.of_append {steps : List Step} {text gap : List Char}
    (hgap : Text.AllBlank gap) (h : SpelledInTurn steps (text ++ gap)) :
    SpelledInTurn steps text := by
  generalize hwhole : text ++ gap = whole at h
  induction h generalizing text with
  | nil hblank =>
    subst hwhole
    exact .nil fun c hc => hblank c (List.mem_append_left gap hc)
  | @cons front token rest step steps hfront hstep hrest ih =>
    rcases List.append_eq_append_iff.mp hwhole with ⟨more, htoken, hmore⟩ | ⟨more, rfl, hmore⟩
    · rcases List.eq_nil_or_concat more with rfl | ⟨before, last, rfl⟩
      · have hempty : SpelledInTurn steps [] := ih hmore
        rw [List.append_nil] at htoken
        rw [← htoken, ← List.append_nil (front ++ token)]
        exact .cons hfront hstep hempty
      · -- The gap does not reach back over the brace that ends the step.
        obtain ⟨body, rfl, _⟩ := hstep.exists_nests
        have hends : (front ++ '{' :: body) ++ ['}'] = (text ++ before) ++ [last] := by
          simpa using htoken
        have hlast : '}' = last := by simpa using (List.append_inj' hends rfl).2
        subst hlast
        have hblank := hgap '}' (by simp [hmore])
        exact absurd hblank (by decide)
    · exact .cons hfront hstep (ih hmore.symm)

end Step

namespace Reading

theorem length_lt_of_readBraced {text rest : List Char} {value : String}
    (h : readBraced text = .ok (value, rest)) : rest.length < text.length := by
  obtain ⟨rfl, _⟩ := readBraced_eq_ok_iff.mp h
  simp only [List.length_append, List.length_cons]
  omega

/-- Texts in braces, with or without blanks between them. -/
def groupReader : ItemReader String where
  opens c := c == '{'
  read := readBraced
  shrinks := length_lt_of_readBraced

/-- The group, put back between its braces, read as a step. -/
def readGroup (group : String) : Reading Step :=
  readStep ('{' :: group.toList ++ ['}'])

/-- The induction is on the steps. No piece closes more braces than it opens, so all of them close
as many as they open as soon as the whole text does. -/
theorem exists_groups_of_spelledInTurn {steps : List Step} {text : List Char}
    (h : Step.SpelledInTurn steps text) (hcount : text.count '}' = text.count '{') :
    ∃ groups,
      (∀ last, Text.AllBlank last → groupReader.readWhole (text ++ last) = .ok groups) ∧
      groups.map readGroup = steps.map fun step => .ok (step, []) := by
  induction h with
  | @nil gap hgap =>
    refine ⟨[], fun last hlast => ItemReader.readWhole_eq_ok_nil_iff.mpr ?_, rfl⟩
    exact fun c hc => (List.mem_append.mp hc).elim (hgap c) (hlast c)
  | @cons gap token rest step steps hgap hstep hrest ih =>
    obtain ⟨body, rfl, hbody⟩ := hstep.exists_nests
    have hgapCount := hgap.nests.count_le
    have hbodyCount := hbody.count_le
    have hrestCount := hrest.nests.count_le
    have hgapOpening : gap.count '{' = 0 :=
      List.count_eq_zero.mpr fun hmem => absurd (hgap _ hmem) (by decide)
    simp only [List.count_append, List.count_cons, List.count_nil, beq_iff_eq, Char.reduceEq,
      if_true, if_false] at hcount
    obtain ⟨groups, hgroups, hsteps⟩ := ih (by omega)
    have hbalanced : Text.Balanced body := Text.balanced_iff_nests.mpr ⟨hbody, by omega⟩
    have hgroup : readGroup (String.ofList body) = .ok (step, []) := by
      have hstepRead : readStep ('{' :: body ++ ['}'] ++ []) = .ok (step, []) :=
        readStep_append hstep
      unfold readGroup
      rwa [String.toList_ofList, ← List.append_nil ('{' :: body ++ ['}'])]
    refine ⟨String.ofList body :: groups, fun last hlast => ?_, ?_⟩
    · have hskip : Text.skipBlanks (gap ++ ('{' :: body ++ ['}']) ++ rest ++ last) =
          '{' :: body ++ '}' :: (rest ++ last) := by
        rw [List.append_assoc, List.append_assoc, Text.skipBlanks_append hgap rfl]
        simp
      have hread : readBraced ('{' :: body ++ '}' :: (rest ++ last)) =
          .ok (String.ofList body, rest ++ last) :=
        readBraced_eq_ok_iff.mpr ⟨by simp, by simpa using hbalanced⟩
      rw [ItemReader.readWhole_eq_ok_cons_iff, hskip]
      exact ⟨rfl, rest ++ last, hread, hgroups last hlast⟩
    · rw [List.map_cons, List.map_cons, hgroup, hsteps]

end Reading

end Espresso
