import Espresso.Proofs.Grammar.Token

/-!
# Texts in braces

The reader of texts in braces only counts how many braces are open. What it takes off a text is the
one balanced text that stands in braces in front. There is none when the text does not start with a
brace, or when nothing closes that brace.
-/

namespace Espresso

namespace Text

/-- The text is `inner` in braces, which is balanced, and then `rest`. -/
structure Encloses (text inner rest : List Char) : Prop where
  eq_append : text = '{' :: inner ++ '}' :: rest
  balanced : Balanced inner

variable {text inner rest : List Char}

/-- The brace that closes a balanced text does not belong to a longer one. -/
theorem Balanced.not_concat_prefix {longer : List Char} (hinner : Balanced inner)
    (hlonger : Balanced longer) : ¬ inner ++ ['}'] <+: longer := by
  intro hfront
  have hcount := hlonger.1 _ hfront
  have hsame := hinner.2
  simp only [List.count_append, List.count_singleton, beq_iff_eq, Char.reduceEq, if_true,
    if_false] at hcount
  omega

/-- A text is cut in one way at most: of two cuts the longer would go past the brace of the
shorter. -/
theorem Encloses.unique {other left : List Char} (h : Encloses text inner rest)
    (hother : Encloses text other left) : inner = other ∧ rest = left := by
  have hbody : inner ++ '}' :: rest = other ++ '}' :: left := by
    simpa using h.eq_append.symm.trans hother.eq_append
  rcases List.append_eq_append_iff.mp hbody with ⟨more, rfl, hmore⟩ | ⟨more, rfl, hmore⟩
  · cases more with
    | nil => simpa using hmore
    | cons c more =>
      obtain ⟨rfl, _⟩ := List.cons.inj hmore
      have hfront : inner ++ ['}'] <+: inner ++ '}' :: more := by simp
      exact absurd hfront (h.balanced.not_concat_prefix hother.balanced)
  · cases more with
    | nil => simpa [eq_comm] using hmore
    | cons c more =>
      obtain ⟨rfl, _⟩ := List.cons.inj hmore
      have hfront : other ++ ['}'] <+: other ++ '}' :: more := by simp
      exact absurd hfront (hother.balanced.not_concat_prefix h.balanced)

end Text

namespace Reading

variable {text rest : List Char}

theorem readBraced_eq_ok_iff_encloses {value : String} :
    readBraced text = .ok (value, rest) ↔ Text.Encloses text value.toList rest := by
  rw [readBraced_eq_ok_iff]
  exact ⟨fun ⟨htext, hbalanced⟩ => ⟨htext, hbalanced⟩, fun h => ⟨h.eq_append, h.balanced⟩⟩

theorem readBraced_of_head?_ne (h : text.head? ≠ some '{') :
    readBraced text = .error ⟨.malformed .brace, text⟩ := by
  unfold readBraced
  split
  · simp at h
  · rfl

/-- A text that starts with a brace is cut, or its brace is not closed. -/
theorem readBraced_of_head?_eq (h : text.head? = some '{') :
    (∃ value rest, readBraced text = .ok (value, rest)) ∨
      readBraced text = .error ⟨.unterminated, text⟩ := by
  obtain ⟨body, rfl⟩ := List.head?_eq_some_iff.mp h
  simp only [readBraced]
  cases splitBraced? 0 body with
  | none => exact .inr rfl
  | some pair => exact .inl ⟨_, _, rfl⟩

theorem exists_encloses_iff :
    (∃ inner rest, Text.Encloses text inner rest) ↔
      ∃ value rest, readBraced text = .ok (value, rest) := by
  constructor
  · rintro ⟨inner, rest, h⟩
    exact ⟨String.ofList inner, rest,
      readBraced_eq_ok_iff_encloses.mpr (by rwa [String.toList_ofList])⟩
  · rintro ⟨value, rest, h⟩
    exact ⟨_, _, readBraced_eq_ok_iff_encloses.mp h⟩

theorem readBraced_eq_unterminated_iff :
    readBraced text = .error ⟨.unterminated, text⟩ ↔
      text.head? = some '{' ∧ ¬ ∃ inner rest, Text.Encloses text inner rest := by
  rw [exists_encloses_iff]
  by_cases hhead : text.head? = some '{'
  · rcases readBraced_of_head?_eq hhead with ⟨value, rest, hread⟩ | hunterminated
    · simp [hread]
    · simp [hhead, hunterminated]
  · simp [hhead, readBraced_of_head?_ne hhead]

theorem readBraced_eq_malformed_iff :
    readBraced text = .error ⟨.malformed .brace, text⟩ ↔ text.head? ≠ some '{' := by
  refine ⟨fun h hhead => ?_, readBraced_of_head?_ne⟩
  rcases readBraced_of_head?_eq hhead with ⟨value, rest, hread⟩ | hunterminated
  · cases hread.symm.trans h
  · cases hunterminated.symm.trans h

/-- **Texts in braces.** What is taken off a text is what the text encloses between its first brace
and the one that closes it, and no text encloses something in two ways. The reader fails at the
whole text: for want of the closing brace where the text starts with a brace and encloses nothing,
for want of the opening brace where it starts otherwise. -/
theorem readBraced_recognizes (text : List Char) :
    (∀ value rest, readBraced text = .ok (value, rest) ↔ Text.Encloses text value.toList rest) ∧
    (∀ inner rest other left, Text.Encloses text inner rest → Text.Encloses text other left →
      inner = other ∧ rest = left) ∧
    (readBraced text = .error ⟨.unterminated, text⟩ ↔
      text.head? = some '{' ∧ ¬ ∃ inner rest, Text.Encloses text inner rest) ∧
    (readBraced text = .error ⟨.malformed .brace, text⟩ ↔ text.head? ≠ some '{') :=
  ⟨fun _ _ => readBraced_eq_ok_iff_encloses, fun _ _ _ _ h hother => h.unique hother,
    readBraced_eq_unterminated_iff, readBraced_eq_malformed_iff⟩

/-- A text with a brace to spare encloses up to the brace that closes the first one, and a text with
one too few encloses nothing. -/
theorem readBraced_nested_texts :
    (∀ inner rest, Text.Encloses "\x7ba \x7bb\x7d\x7d c\x7d".toList inner rest →
      inner = "a \x7bb\x7d".toList ∧ rest = " c\x7d".toList) ∧
    (¬ ∃ inner rest, Text.Encloses "\x7ba \x7bb\x7d".toList inner rest) ∧
    "a \x7bb\x7d".toList.head? ≠ some '{' := by
  have hnested : readBraced "\x7ba \x7bb\x7d\x7d c\x7d".toList =
      .ok ("a \x7bb\x7d", " c\x7d".toList) := by rfl
  have hopen : readBraced "\x7ba \x7bb\x7d".toList =
      .error ⟨.unterminated, "\x7ba \x7bb\x7d".toList⟩ := by rfl
  have hword : readBraced "a \x7bb\x7d".toList =
      .error ⟨.malformed .brace, "a \x7bb\x7d".toList⟩ := by rfl
  have hencloses := ((readBraced_recognizes _).1 _ _).mp hnested
  refine ⟨fun inner rest h => ?_, ((readBraced_recognizes _).2.2.1.mp hopen).2,
    (readBraced_recognizes _).2.2.2.mp hword⟩
  exact (readBraced_recognizes _).2.1 _ _ _ _ h hencloses

end Reading

end Espresso
