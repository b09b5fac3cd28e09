import Espresso.Proofs.Result
import Espresso.Proofs.Text.Span
import Espresso.Reading.Basic

/-!
# Reading many items

A whole text is read item by item: it is all blank, or an item is read off it after its blanks and
the rest is read as a whole again.
-/

namespace Espresso

namespace ItemReader

variable {α : Type} {reader : ItemReader α} {text : List Char}

theorem readMany_of_not_opens (h : (Text.skipBlanks text).head?.any reader.opens = false) :
    reader.readMany text = .ok ([], text) := by
  unfold readMany
  simp [h]

theorem readMany_of_opens (h : (Text.skipBlanks text).head?.any reader.opens = true) :
    reader.readMany text =
      match reader.read (Text.skipBlanks text) with
      | .ok (item, rest) => (reader.readMany rest).map (item :: ·)
      | .error error => .error error := by
  rw [readMany]
  simp only [h, if_true]
  split <;> simp_all

theorem readWhole_of_not_opens (h : (Text.skipBlanks text).head?.any reader.opens = false) :
    reader.readWhole text =
      if (Text.skipBlanks text).isEmpty then .ok []
      else .error ⟨.malformed .trailing, Text.skipBlanks text⟩ := by
  unfold readWhole
  rw [readMany_of_not_opens h]

theorem readWhole_of_opens (h : (Text.skipBlanks text).head?.any reader.opens = true) :
    reader.readWhole text =
      match reader.read (Text.skipBlanks text) with
      | .ok (item, rest) => (reader.readWhole rest).map (item :: ·)
      | .error error => .error error := by
  unfold readWhole
  rw [readMany_of_opens h]
  cases reader.read (Text.skipBlanks text) with
  | error error => rfl
  | ok pair =>
    obtain ⟨item, rest⟩ := pair
    dsimp only
    cases reader.readMany rest with
    | error error => rfl
    | ok many =>
      obtain ⟨items, left⟩ := many
      simp only [Reading.map]
      split <;> rfl

theorem skipBlanks_ne_nil_of_opens (h : (Text.skipBlanks text).head?.any reader.opens = true) :
    Text.skipBlanks text ≠ [] := by
  intro hnil
  rw [hnil] at h
  cases h

/-- More text behind an item does not change where it starts. -/
theorem skipBlanks_append_of_opens (h : (Text.skipBlanks text).head?.any reader.opens = true)
    (after : List Char) :
    Text.skipBlanks (text ++ after) = Text.skipBlanks text ++ after ∧
      (Text.skipBlanks text ++ after).head?.any reader.opens = true := by
  have hne := skipBlanks_ne_nil_of_opens h
  refine ⟨Text.skipBlanks_append_of_ne_nil hne after, ?_⟩
  obtain ⟨c, tail, hcons⟩ := List.exists_cons_of_ne_nil hne
  rw [hcons] at h ⊢
  exact h

theorem readWhole_eq_ok_nil_iff : reader.readWhole text = .ok [] ↔ Text.AllBlank text := by
  rw [← Text.skipBlanks_eq_nil_iff]
  cases hopens : (Text.skipBlanks text).head?.any reader.opens with
  | false =>
    rw [readWhole_of_not_opens hopens]
    simp
  | true =>
    rw [readWhole_of_opens hopens]
    simp only [skipBlanks_ne_nil_of_opens hopens, iff_false]
    cases reader.read (Text.skipBlanks text) with
    | error error => simp
    | ok pair => simp [map_eq_ok_iff]

theorem readWhole_eq_ok_cons_iff {item : α} {items : List α} :
    reader.readWhole text = .ok (item :: items) ↔
      (Text.skipBlanks text).head?.any reader.opens = true ∧
        ∃ rest, reader.read (Text.skipBlanks text) = .ok (item, rest) ∧
          reader.readWhole rest = .ok items := by
  cases hopens : (Text.skipBlanks text).head?.any reader.opens with
  | false =>
    rw [readWhole_of_not_opens hopens]
    split <;> simp
  | true =>
    rw [readWhole_of_opens hopens]
    cases reader.read (Text.skipBlanks text) with
    | error error => simp
    | ok pair =>
      obtain ⟨found, rest⟩ := pair
      simp only [map_eq_ok_iff, List.cons.injEq, Except.ok.injEq, Prod.mk.injEq, true_and]
      constructor
      · rintro ⟨more, hmore, rfl, rfl⟩
        exact ⟨rest, ⟨rfl, rfl⟩, hmore⟩
      · rintro ⟨_, ⟨rfl, rfl⟩, hmore⟩
        exact ⟨items, hmore, rfl, rfl⟩

/-- Why the text cannot be read: something follows the items that is none, or an item has a
fault. -/
inductive Fails (reader : ItemReader α) : List Char → ParseError → Prop
  | trailing {text : List Char} :
      (Text.skipBlanks text).head?.any reader.opens = false → Text.skipBlanks text ≠ [] →
      Fails reader text ⟨.malformed .trailing, Text.skipBlanks text⟩
  | item {text : List Char} {error : ParseError} :
      (Text.skipBlanks text).head?.any reader.opens = true →
      reader.read (Text.skipBlanks text) = .error error → Fails reader text error
  | later {text rest : List Char} {item : α} {error : ParseError} :
      (Text.skipBlanks text).head?.any reader.opens = true →
      reader.read (Text.skipBlanks text) = .ok (item, rest) → Fails reader rest error →
      Fails reader text error

theorem fails_of_readWhole {text : List Char} {error : ParseError}
    (h : reader.readWhole text = .error error) : reader.Fails text error := by
  cases hopens : (Text.skipBlanks text).head?.any reader.opens with
  | false =>
    rw [readWhole_of_not_opens hopens] at h
    split at h
    · cases h
    · next hne =>
      cases h
      exact .trailing hopens (by simpa using hne)
  | true =>
    rw [readWhole_of_opens hopens] at h
    cases hread : reader.read (Text.skipBlanks text) with
    | error found =>
      rw [hread] at h
      cases h
      exact .item hopens hread
    | ok pair =>
      obtain ⟨item, rest⟩ := pair
      rw [hread] at h
      have hshorter : rest.length < text.length :=
        Nat.lt_of_lt_of_le (reader.shrinks hread) (Text.length_skipBlanks_le text)
      exact .later hopens hread (fails_of_readWhole (map_eq_error_iff.mp h))
termination_by text.length

/-- A text that fails is not all blank. -/
theorem Fails.skipBlanks_ne_nil {error : ParseError} (h : reader.Fails text error) :
    Text.skipBlanks text ≠ [] := by
  cases h with
  | trailing _ hne => exact hne
  | item hopens _ => exact skipBlanks_ne_nil_of_opens hopens
  | later hopens _ _ => exact skipBlanks_ne_nil_of_opens hopens

/-- All that is read of a text comes after its first blanks. -/
theorem readWhole_congr {other : List Char} (h : Text.skipBlanks text = Text.skipBlanks other) :
    reader.readWhole text = reader.readWhole other := by
  cases hopens : (Text.skipBlanks text).head?.any reader.opens with
  | false => rw [readWhole_of_not_opens hopens, readWhole_of_not_opens (h ▸ hopens), h]
  | true => rw [readWhole_of_opens hopens, readWhole_of_opens (h ▸ hopens), h]

theorem readWhole_append_of_allBlank {gap : List Char} (hgap : Text.AllBlank gap)
    (text : List Char) : reader.readWhole (gap ++ text) = reader.readWhole text :=
  readWhole_congr (Text.skipBlanks_append_of_allBlank hgap text)

/-- While the text is read, an item is taken off `start`, which leaves `rest`. -/
inductive Takes (reader : ItemReader α) : List Char → List Char → List Char → Prop
  | first {text rest : List Char} {item : α} :
      (Text.skipBlanks text).head?.any reader.opens = true →
      reader.read (Text.skipBlanks text) = .ok (item, rest) →
      Takes reader text (Text.skipBlanks text) rest
  | later {text rest start left : List Char} {item : α} :
      (Text.skipBlanks text).head?.any reader.opens = true →
      reader.read (Text.skipBlanks text) = .ok (item, rest) → Takes reader rest start left →
      Takes reader text start left

/-- The induction is on the items. If each of them is taken just so when more text follows, that
text is read by itself, faults and all. -/
theorem readWhole_append {items : List α} {after : List Char}
    (hread : reader.readWhole text = .ok items)
    (htakes : ∀ start rest item, reader.Takes text start rest →
      reader.read start = .ok (item, rest) →
        reader.read (start ++ after) = .ok (item, rest ++ after)) :
    reader.readWhole (text ++ after) = (reader.readWhole after).map (items ++ ·) := by
  induction items generalizing text with
  | nil =>
    rw [readWhole_append_of_allBlank (readWhole_eq_ok_nil_iff.mp hread)]
    cases reader.readWhole after <;> rfl
  | cons item items ih =>
    obtain ⟨hopens, rest, hfirst, hmore⟩ := readWhole_eq_ok_cons_iff.mp hread
    obtain ⟨hskip, hstill⟩ := skipBlanks_append_of_opens hopens after
    rw [← hskip] at hstill
    have hrest := ih hmore fun start left other htaken =>
      htakes start left other (.later hopens hfirst htaken)
    rw [readWhole_of_opens hstill, hskip, htakes _ _ _ (.first hopens hfirst) hfirst]
    dsimp only
    rw [hrest]
    cases reader.readWhole after <;> rfl

/-- What is left of a text after one of the items read from it. -/
inductive Leaves (reader : ItemReader α) : List Char → List Char → Prop
  | first {text rest : List Char} {item : α} :
      (Text.skipBlanks text).head?.any reader.opens = true →
      reader.read (Text.skipBlanks text) = .ok (item, rest) → Leaves reader text rest
  | later {text rest left : List Char} {item : α} :
      (Text.skipBlanks text).head?.any reader.opens = true →
      reader.read (Text.skipBlanks text) = .ok (item, rest) → Leaves reader rest left →
      Leaves reader text left

theorem exists_readWhole_of_opens {items : List α}
    (hopens : (Text.skipBlanks text).head?.any reader.opens = true)
    (h : reader.readWhole text = .ok items) :
    ∃ item rest more, reader.read (Text.skipBlanks text) = .ok (item, rest) ∧
      reader.readWhole rest = .ok more := by
  cases items with
  | nil =>
    have hskip := Text.skipBlanks_of_allBlank (readWhole_eq_ok_nil_iff.mp h)
    rw [hskip] at hopens
    cases hopens
  | cons item more =>
    obtain ⟨_, rest, hread, hmore⟩ := readWhole_eq_ok_cons_iff.mp h
    exact ⟨item, rest, more, hread, hmore⟩

/-- What is left after an item of a text that can be read can be read itself. -/
theorem Leaves.exists_readWhole {rest : List Char} (hleaves : reader.Leaves text rest)
    {items : List α} (h : reader.readWhole text = .ok items) :
    ∃ more, reader.readWhole rest = .ok more := by
  induction hleaves generalizing items with
  | first hopens hread =>
    obtain ⟨_, _, more, hread', hmore⟩ := exists_readWhole_of_opens hopens h
    cases hread.symm.trans hread'
    exact ⟨more, hmore⟩
  | later hopens hread _ ih =>
    obtain ⟨_, _, more, hread', hmore⟩ := exists_readWhole_of_opens hopens h
    cases hread.symm.trans hread'
    exact ih hmore

/-- A text that can be read is empty, or starts with a blank or an item. -/
theorem startsBlank_or_opens_of_readWhole {items : List α} (h : reader.readWhole text = .ok items) :
    text = [] ∨ Text.startsBlank text = true ∨ text.head?.any reader.opens = true := by
  cases hblank : Text.startsBlank text with
  | true => exact .inr (.inl rfl)
  | false =>
    have hskip := Text.skipBlanks_of_not_startsBlank hblank
    cases items with
    | nil =>
      have hempty := Text.skipBlanks_of_allBlank (readWhole_eq_ok_nil_iff.mp h)
      exact .inl (hskip.symm.trans hempty)
    | cons item items =>
      have hopens := (readWhole_eq_ok_cons_iff.mp h).1
      rw [hskip] at hopens
      exact .inr (.inr hopens)

end ItemReader

end Espresso
