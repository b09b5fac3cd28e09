import Espresso.Text.Blank

/-!
# Spans

Where a run of characters of one class ends, and which braces close one another. Readers cut a text
at such places; what they cut off is here said without them.
-/

namespace Espresso

namespace Text

variable {p : Char → Bool} {token rest text : List Char}

theorem takeWhile_append_of_stop (htoken : ∀ c ∈ token, p c = true)
    (hrest : rest.head?.any p = false) : (token ++ rest).takeWhile p = token := by
  rw [List.takeWhile_append_of_pos htoken]
  cases rest with
  | nil => simp
  | cons c rest =>
    have hc : p c = false := by simpa using hrest
    simp [hc]

theorem dropWhile_append_of_stop (htoken : ∀ c ∈ token, p c = true)
    (hrest : rest.head?.any p = false) : (token ++ rest).dropWhile p = rest := by
  rw [List.dropWhile_append_of_pos htoken]
  cases rest with
  | nil => rfl
  | cons c rest =>
    have hc : p c = false := by simpa using hrest
    simp [hc]

theorem takeWhile_append_cons {c : Char} (hc : p c = false) (text after : List Char) :
    (text ++ c :: after).takeWhile p = text.takeWhile p := by
  induction text with
  | nil => simp [hc]
  | cons d text ih => by_cases hd : p d <;> simp [hd, ih]

theorem dropWhile_append_cons {c : Char} (hc : p c = false) (text after : List Char) :
    (text ++ c :: after).dropWhile p = text.dropWhile p ++ c :: after := by
  induction text with
  | nil => simp [hc]
  | cons d text ih => by_cases hd : p d <;> simp [hd, ih]

theorem isPrefixOf_append_of_stop (htoken : ∀ c ∈ token, p c = true)
    (hrest : rest.head?.any p = false) :
    token.isPrefixOf (text ++ rest) = token.isPrefixOf text := by
  induction token generalizing text with
  | nil => simp
  | cons d token ih =>
    cases text with
    | nil =>
      cases rest with
      | nil => rfl
      | cons c rest =>
        have hd : p d = true := htoken d (by simp)
        have hc : p c = false := by simpa using hrest
        have hne : d ≠ c := by
          rintro rfl
          rw [hd] at hc
          cases hc
        simp [List.isPrefixOf, hne]
    | cons e text =>
      have htail : token.isPrefixOf (text ++ rest) = token.isPrefixOf text :=
        ih fun c hc => htoken c (by simp [hc])
      simp [List.isPrefixOf, htail]

theorem stop_dropWhile (p : Char → Bool) (text : List Char) :
    (text.dropWhile p).head?.any p = false := by
  have hhead := List.head?_dropWhile_not p text
  cases h : (text.dropWhile p).head? with
  | none => rfl
  | some c =>
    rw [h] at hhead
    simpa using hhead

theorem stop_of_append {after : List Char} (h : (rest ++ after).head?.any p = false) :
    rest.head?.any p = false := by
  cases rest with
  | nil => rfl
  | cons c rest => exact h

theorem of_mem_takeWhile {c : Char} (h : c ∈ text.takeWhile p) : p c = true :=
  List.all_eq_true.mp List.all_takeWhile c h

theorem prefix_takeWhile {front : List Char} (hfront : front <+: text)
    (hall : ∀ c ∈ front, p c = true) : front <+: text.takeWhile p := by
  obtain ⟨after, rfl⟩ := hfront
  rw [List.takeWhile_append_of_pos hall]
  exact List.prefix_append front _

/-- A run of blanks, which may be empty. -/
def AllBlank (gap : List Char) : Prop :=
  ∀ c ∈ gap, isBlank c = true

theorem skipBlanks_append {gap : List Char} (hgap : AllBlank gap)
    (hrest : startsBlank rest = false) : skipBlanks (gap ++ rest) = rest :=
  dropWhile_append_of_stop hgap hrest

theorem skipBlanks_append_of_allBlank {gap : List Char} (hgap : AllBlank gap) (text : List Char) :
    skipBlanks (gap ++ text) = skipBlanks text :=
  List.dropWhile_append_of_pos hgap

theorem skipBlanks_append_of_ne_nil (h : skipBlanks text ≠ []) (after : List Char) :
    skipBlanks (text ++ after) = skipBlanks text ++ after := by
  unfold skipBlanks at h ⊢
  rw [List.dropWhile_append, if_neg (by simpa using h)]

theorem skipBlanks_of_not_startsBlank (h : startsBlank text = false) : skipBlanks text = text := by
  have hempty : AllBlank [] := by simp [AllBlank]
  exact skipBlanks_append hempty h

theorem skipBlanks_of_allBlank {gap : List Char} (hgap : AllBlank gap) : skipBlanks gap = [] := by
  have hempty : startsBlank [] = false := rfl
  simpa using skipBlanks_append hgap hempty

theorem startsBlank_skipBlanks (text : List Char) : startsBlank (skipBlanks text) = false :=
  stop_dropWhile isBlank text

theorem startsBlank_append {gap : List Char} (hgap : AllBlank gap) (hne : gap ≠ []) :
    startsBlank (gap ++ rest) = true := by
  obtain ⟨c, gap, rfl⟩ := List.exists_cons_of_ne_nil hne
  simpa [startsBlank] using hgap c (by simp)

theorem exists_gap (text : List Char) :
    ∃ gap, AllBlank gap ∧ text = gap ++ skipBlanks text :=
  ⟨text.takeWhile isBlank, fun _ => of_mem_takeWhile, List.takeWhile_append_dropWhile.symm⟩

theorem exists_gap_of_startsBlank (h : startsBlank text = true) :
    ∃ gap, AllBlank gap ∧ gap ≠ [] ∧ text = gap ++ skipBlanks text := by
  obtain ⟨gap, hgap, htext⟩ := exists_gap text
  refine ⟨gap, hgap, ?_, htext⟩
  rintro rfl
  rw [htext, List.nil_append, startsBlank_skipBlanks] at h
  cases h

theorem allBlank_nil : AllBlank [] := by
  simp [AllBlank]

theorem allBlank_singleton {c : Char} (hc : isBlank c = true) : AllBlank [c] := by
  simpa [AllBlank] using hc

theorem skipBlanks_eq_nil_iff : skipBlanks text = [] ↔ AllBlank text := by
  constructor
  · intro h
    obtain ⟨gap, hgap, htext⟩ := exists_gap text
    rwa [htext, h, List.append_nil]
  · exact skipBlanks_of_allBlank

/-! ### Braces -/

/-- A text closes `depth` open braces and all that it opens itself, and none before its time. -/
def Closes (depth : Nat) (text : List Char) : Prop :=
  (∀ front, front <+: text → front.count '}' ≤ depth + front.count '{') ∧
    text.count '}' = depth + text.count '{'

/-- No front of the text has more closing braces than opening ones, and the text has as many of
both. -/
def Balanced (text : List Char) : Prop :=
  (∀ front, front <+: text → front.count '}' ≤ front.count '{') ∧
    text.count '}' = text.count '{'

theorem closes_zero_iff : Closes 0 text ↔ Balanced text := by
  simp [Closes, Balanced]

theorem balanced_nil : Balanced [] := by
  simp [Balanced]

theorem closes_nil_iff {depth : Nat} : Closes depth [] ↔ depth = 0 := by
  simp [Closes, eq_comm]

theorem forall_front_cons_iff {c : Char} {P : List Char → Prop} (hnil : P []) :
    (∀ front, front <+: c :: text → P front) ↔ ∀ front, front <+: text → P (c :: front) := by
  constructor
  · intro h front hfront
    exact h _ ((List.prefix_cons_inj c).mpr hfront)
  · intro h front hfront
    rcases List.prefix_cons_iff.mp hfront with rfl | ⟨tail, rfl, htail⟩
    · exact hnil
    · exact h tail htail

theorem closes_open_iff {depth : Nat} : Closes depth ('{' :: text) ↔ Closes (depth + 1) text := by
  unfold Closes
  rw [forall_front_cons_iff (by simp)]
  simp only [List.count_cons, beq_iff_eq, Char.reduceEq, if_false, if_true, Nat.add_zero]
  simp only [Nat.add_assoc, Nat.add_comm 1]

theorem closes_close_iff {depth : Nat} : Closes (depth + 1) ('}' :: text) ↔ Closes depth text := by
  unfold Closes
  rw [forall_front_cons_iff (by simp)]
  simp only [List.count_cons, beq_iff_eq, Char.reduceEq, if_false, if_true, Nat.add_zero]
  simp only [Nat.add_right_comm depth 1, Nat.add_le_add_iff_right, Nat.add_right_cancel_iff]

theorem closes_other_iff {depth : Nat} {c : Char} (hopen : c ≠ '{') (hclose : c ≠ '}') :
    Closes depth (c :: text) ↔ Closes depth text := by
  unfold Closes
  rw [forall_front_cons_iff (by simp)]
  simp [hopen, hclose]

theorem not_closes_zero_close : ¬ Closes 0 ('}' :: text) := by
  intro h
  have hfront := h.1 ['}'] (by simp)
  simp at hfront

/-- No front of the text has more closing braces than opening ones. -/
def Nests (text : List Char) : Prop :=
  ∀ front, front <+: text → front.count '}' ≤ front.count '{'

theorem balanced_iff_nests :
    Balanced text ↔ Nests text ∧ text.count '}' = text.count '{' :=
  Iff.rfl

theorem Nests.count_le (h : Nests text) : text.count '}' ≤ text.count '{' :=
  h text (List.prefix_refl text)

theorem nests_of_not_mem (h : '}' ∉ text) : Nests text := by
  intro front hfront
  rw [List.count_eq_zero.mpr fun hmem => h (hfront.subset hmem)]
  exact Nat.zero_le _

theorem Nests.append {first second : List Char} (hfirst : Nests first) (hsecond : Nests second) :
    Nests (first ++ second) := by
  intro front hfront
  rw [List.prefix_iff_eq_take.mp hfront, List.take_append, List.count_append, List.count_append]
  exact Nat.add_le_add (hfirst _ (List.take_prefix _ _)) (hsecond _ (List.take_prefix _ _))

theorem Nests.braced {inner : List Char} (h : Nests inner) : Nests ('{' :: inner ++ ['}']) := by
  intro front hfront
  rcases List.prefix_cons_iff.mp hfront with rfl | ⟨tail, rfl, htail⟩
  · simp
  · rcases List.prefix_concat_iff.mp htail with rfl | hinner
    · have hcount := h.count_le
      simp only [List.count_cons, List.count_append, List.count_nil, beq_iff_eq, Char.reduceEq,
        if_true, if_false]
      omega
    · have hcount := h tail hinner
      simp only [List.count_cons, beq_iff_eq, Char.reduceEq, if_true, if_false]
      omega

end Text

end Espresso
