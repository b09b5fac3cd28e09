import Espresso.Proofs.Decimal.Numeral
import Espresso.Proofs.Text.Span
import Espresso.Reading.Token

/-!
# Tokens

How numbers, flags and braced texts are spelled, said without a reader. What a reader takes off a
text is a spelling of its value, and a spelling is taken whole when what follows it cannot go on
with it.
-/

namespace Espresso

namespace Decimal

/-- Digits alone, or digits on at least one side of a point. -/
inductive Numeral.Spelled : Numeral → List Char → Prop
  | whole {digits : List Char} : digits ≠ [] → (∀ c ∈ digits, c.isDigit = true) →
      Spelled ⟨digits, []⟩ digits
  | pointed {whole fraction : List Char} : whole ≠ [] → (∀ c ∈ whole, c.isDigit = true) →
      (∀ c ∈ fraction, c.isDigit = true) → Spelled ⟨whole, fraction⟩ (whole ++ '.' :: fraction)
  | leading {fraction : List Char} : fraction ≠ [] → (∀ c ∈ fraction, c.isDigit = true) →
      Spelled ⟨[], fraction⟩ ('.' :: fraction)

/-- The token is a numeral, and `value` the double nearest to the number that it stands for. -/
def Numeral.SpellsValue (value : Float) (token : List Char) : Prop :=
  ∃ numeral : Numeral, numeral.Spelled token ∧
    Nearest numeral.number value.toModel.toBits.toNat

theorem Numeral.Spelled.spellsValue {numeral : Numeral} {token : List Char}
    (h : numeral.Spelled token) : SpellsValue numeral.value token :=
  ⟨numeral, h, numeral.nearest_value⟩

namespace Numeral.SpellsValue

variable {value : Float} {token : List Char}

theorem exists_value_eq (h : SpellsValue value token) :
    ∃ numeral : Numeral, numeral.Spelled token ∧ numeral.value = value := by
  obtain ⟨numeral, hspelled, hnearest⟩ := h
  exact ⟨numeral, hspelled, Numeral.nearest_iff.mp hnearest⟩

theorem isMagnitude (h : SpellsValue value token) : IsMagnitude value := by
  obtain ⟨_, _, hnearest⟩ := h
  exact hnearest.le_infinityBits

end Numeral.SpellsValue

theorem Numeral.Spelled.ne_nil {numeral : Numeral} {token : List Char} (h : numeral.Spelled token) :
    token ≠ [] := by
  cases h with
  | whole hne _ => exact hne
  | pointed hne _ _ => exact List.append_ne_nil_of_left_ne_nil hne _
  | leading _ _ => exact List.cons_ne_nil _ _

/-- Whether a numeral could go on with this character. -/
def continuesNumeral (c : Char) : Bool :=
  c.isDigit || c == '.'

/-- No digit follows, and no point unless the token has one already. -/
structure Numeral.Stops (token rest : List Char) : Prop where
  digit : rest.head?.any Char.isDigit = false
  point : '.' ∈ token ∨ rest.head? ≠ some '.'

theorem Numeral.Stops.of_stop {token rest : List Char}
    (h : rest.head?.any continuesNumeral = false) : Stops token rest := by
  cases rest with
  | nil => exact ⟨rfl, .inr (by simp)⟩
  | cons c rest =>
    obtain ⟨hdigit, hpoint⟩ := Bool.or_eq_false_iff.mp h
    exact ⟨by simpa using hdigit, .inr (by simpa using hpoint)⟩

theorem Numeral.Stops.of_append {token rest after : List Char} (h : Stops token (rest ++ after)) :
    Stops token rest := by
  cases rest with
  | nil => exact ⟨rfl, .inr (by simp)⟩
  | cons c rest => exact ⟨h.digit, h.point⟩

theorem Numeral.Stops.append_cons {token rest : List Char} {c : Char} (h : Stops token rest)
    (hc : continuesNumeral c = false) (after : List Char) : Stops token (rest ++ c :: after) := by
  cases rest with
  | nil => exact .of_stop (by simpa using hc)
  | cons d rest => exact ⟨h.digit, h.point⟩

namespace Numeral

variable {numeral : Numeral} {text token rest : List Char}

theorem exists_spelled_of_read? (h : read? text = some (numeral, rest)) :
    ∃ token, text = token ++ rest ∧ numeral.Spelled token ∧ Stops token rest := by
  have htext : text = text.takeWhile Char.isDigit ++ text.dropWhile Char.isDigit :=
    List.takeWhile_append_dropWhile.symm
  have hwhole : ∀ c ∈ text.takeWhile Char.isDigit, c.isDigit = true :=
    fun _ => Text.of_mem_takeWhile
  unfold read? at h
  dsimp only at h
  split at h
  · next after hafter =>
    split at h
    · cases h
    · next hne =>
      cases h
      have hfraction : ∀ c ∈ after.takeWhile Char.isDigit, c.isDigit = true :=
        fun _ => Text.of_mem_takeWhile
      refine ⟨text.takeWhile Char.isDigit ++ '.' :: after.takeWhile Char.isDigit, ?_, ?_, ?_⟩
      · rw [List.append_assoc, List.cons_append, List.takeWhile_append_dropWhile, ← hafter]
        exact htext
      · by_cases hempty : text.takeWhile Char.isDigit = []
        · rw [hempty] at hne ⊢
          exact .leading (by simpa using hne) hfraction
        · exact .pointed hempty hwhole hfraction
      · exact ⟨Text.stop_dropWhile _ _, .inl (by simp)⟩
  · next hpoint =>
    split at h
    · cases h
    · next hne =>
      cases h
      refine ⟨_, htext, .whole (by simpa using hne) hwhole, Text.stop_dropWhile _ _, .inr ?_⟩
      intro hhead
      obtain ⟨after, hafter⟩ := List.head?_eq_some_iff.mp hhead
      exact hpoint after hafter

theorem read?_append (h : numeral.Spelled token) (hstops : Stops token rest) :
    read? (token ++ rest) = some (numeral, rest) := by
  unfold read?
  cases h with
  | whole hne hwhole =>
    have hpoint : ∀ after, rest ≠ '.' :: after := by
      rintro after rfl
      rcases hstops.point with hmem | hhead
      · exact absurd (hwhole '.' hmem) (by decide)
      · exact hhead rfl
    rw [Text.takeWhile_append_of_stop hwhole hstops.digit,
      Text.dropWhile_append_of_stop hwhole hstops.digit]
    simp [hne]
  | @pointed whole fraction hne hwhole hfraction =>
    have hstop : (('.' :: fraction) ++ rest).head?.any Char.isDigit = false := by
      simp only [List.cons_append, List.head?_cons, Option.any_some]
      decide
    rw [List.append_assoc, Text.takeWhile_append_of_stop hwhole hstop,
      Text.dropWhile_append_of_stop hwhole hstop]
    simp [hne, Text.takeWhile_append_of_stop hfraction hstops.digit,
      Text.dropWhile_append_of_stop hfraction hstops.digit]
  | @leading fraction hne hfraction =>
    simp [hne, Text.takeWhile_append_of_stop hfraction hstops.digit,
      Text.dropWhile_append_of_stop hfraction hstops.digit]

/-- What is read is a numeral that cannot be gone on with. -/
theorem read?_eq_some_iff :
    read? text = some (numeral, rest) ↔
      ∃ token, text = token ++ rest ∧ numeral.Spelled token ∧ Stops token rest := by
  constructor
  · exact exists_spelled_of_read?
  · rintro ⟨token, rfl, hspelled, hstops⟩
    exact read?_append hspelled hstops

/-- A numeral that was read is read again when a character follows that does not go on with it. -/
theorem read?_append_cons {c : Char} (h : read? text = some (numeral, rest))
    (hc : continuesNumeral c = false) (after : List Char) :
    read? (text ++ c :: after) = some (numeral, rest ++ c :: after) := by
  obtain ⟨token, rfl, hspelled, hstops⟩ := exists_spelled_of_read? h
  rw [List.append_assoc]
  exact read?_append hspelled (hstops.append_cons hc after)

/-- It is read again off any shorter text that still holds it. -/
theorem read?_of_append {after : List Char}
    (h : read? (token ++ rest ++ after) = some (numeral, rest ++ after)) :
    read? (token ++ rest) = some (numeral, rest) := by
  obtain ⟨own, htext, hspelled, hstops⟩ := exists_spelled_of_read? h
  rw [List.append_assoc] at htext
  obtain rfl := List.append_cancel_right htext
  exact read?_append hspelled hstops.of_append

end Numeral

end Decimal

namespace Reading

variable {text rest token : List Char}

theorem map_eq_error_iff {α β : Type} {f : α → β} {reading : Reading α} {error : ParseError} :
    reading.map f = .error error ↔ reading = .error error := by
  cases reading <;> simp [map]

theorem readFlag_eq_ok_iff {value : Bool} :
    readFlag text = .ok (value, rest) ↔ text = (if value then '1' else '0') :: rest := by
  unfold readFlag
  split <;> cases value <;> simp_all [stuck, eq_comm]

/-- A character put in front of a split, when `opened` says what is open behind it. -/
theorem map_cons_eq_some_iff {c : Char} {split : Option (List Char × List Char)}
    {opened closed : List Char → Prop}
    (hsplit : ∀ inner rest, split = some (inner, rest) ↔ text = inner ++ '}' :: rest ∧ opened inner)
    (hnil : c = '}' → ¬ closed []) (hcons : ∀ inner, closed (c :: inner) ↔ opened inner)
    {inner rest : List Char} :
    split.map (fun (inner, after) => (c :: inner, after)) = some (inner, rest) ↔
      c :: text = inner ++ '}' :: rest ∧ closed inner := by
  simp only [Option.map_eq_some_iff, Prod.exists, Prod.mk.injEq, hsplit]
  constructor
  · rintro ⟨tail, _, ⟨rfl, hopened⟩, rfl, rfl⟩
    exact ⟨rfl, (hcons tail).mpr hopened⟩
  · rintro ⟨htext, hclosed⟩
    cases inner with
    | nil =>
      have hc := (List.cons.inj htext).1
      exact absurd hclosed (hnil hc)
    | cons d tail =>
      obtain ⟨rfl, rfl⟩ := List.cons.inj htext
      exact ⟨tail, rest, ⟨rfl, (hcons tail).mp hclosed⟩, rfl, rfl⟩

theorem splitBraced?_eq_some_iff {depth : Nat} {text inner rest : List Char} :
    splitBraced? depth text = some (inner, rest) ↔
      text = inner ++ '}' :: rest ∧ Text.Closes depth inner := by
  fun_induction splitBraced? depth text generalizing inner rest with
  | case1 => simp
  | case2 depth text ih =>
    exact map_cons_eq_some_iff (fun _ _ => ih) (by simp) fun _ => Text.closes_open_iff
  | case3 text =>
    simp only [Option.some.injEq, Prod.mk.injEq]
    constructor
    · rintro ⟨rfl, rfl⟩
      exact ⟨rfl, Text.closes_nil_iff.mpr rfl⟩
    · rintro ⟨htext, hcloses⟩
      cases inner with
      | nil => simpa using htext
      | cons c inner =>
        obtain ⟨rfl, rfl⟩ := List.cons.inj htext
        exact absurd hcloses Text.not_closes_zero_close
  | case4 depth text ih =>
    refine map_cons_eq_some_iff (fun _ _ => ih) ?_ fun _ => Text.closes_close_iff
    simp [Text.closes_nil_iff]
  | case5 depth c text hopen hzero hclose ih =>
    have hc : c ≠ '}' := by
      cases depth with
      | zero => exact fun h => hzero rfl h
      | succ depth => exact fun h => hclose depth rfl h
    exact map_cons_eq_some_iff (fun _ _ => ih) (fun h => absurd h hc) fun _ =>
      Text.closes_other_iff hopen hc

theorem readBraced_eq_ok_iff {value : String} :
    readBraced text = .ok (value, rest) ↔
      text = '{' :: value.toList ++ '}' :: rest ∧ Text.Balanced value.toList := by
  rw [← Text.closes_zero_iff]
  unfold readBraced
  split
  · next body =>
    cases h : splitBraced? 0 body with
    | none =>
      simp only [reduceCtorEq, List.cons_append, List.cons.injEq, true_and, false_iff]
      rintro ⟨rfl, hcloses⟩
      have hsome : splitBraced? 0 (value.toList ++ '}' :: rest) = some (value.toList, rest) :=
        splitBraced?_eq_some_iff.mpr ⟨rfl, hcloses⟩
      rw [h] at hsome
      cases hsome
    | some pair =>
      obtain ⟨inner, after⟩ := pair
      obtain ⟨rfl, hcloses⟩ := splitBraced?_eq_some_iff.mp h
      simp only [Except.ok.injEq, Prod.mk.injEq, List.cons_append, List.cons.injEq, true_and]
      constructor
      · rintro ⟨rfl, rfl⟩
        simpa using hcloses
      · rintro ⟨hbody, hvalue⟩
        have hsame := h.symm.trans (hbody ▸ splitBraced?_eq_some_iff.mpr ⟨rfl, hvalue⟩)
        cases hsame
        simp
  · next hother =>
    simp only [stuck_ne_ok, false_iff]
    rintro ⟨rfl, _⟩
    exact hother _ rfl

end Reading

end Espresso
