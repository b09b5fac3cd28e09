import Espresso.Reading.Entry

/-!
# Letters in either case

A text is compared in lower case, and what is found there is cut from the text as it was written.
For a word made of the characters of keys the two agree: its letters can only have come from letters
of ASCII, unless one of them is a `k` or the last one is an `i`.
-/

namespace Espresso

namespace Reading

theorem isKeyChar_iff {c : Char} :
    isKeyChar c = true ↔
      (65 ≤ c.toNat ∧ c.toNat ≤ 90) ∨ (97 ≤ c.toNat ∧ c.toNat ≤ 122) ∨
        (48 ≤ c.toNat ∧ c.toNat ≤ 57) ∨ c.toNat = 95 := by
  have hrange (low high : Char) : (decide (c.val ≥ low.val) && decide (c.val ≤ high.val)) = true ↔
      low.toNat ≤ c.toNat ∧ c.toNat ≤ high.toNat := by
    simp only [Bool.and_eq_true, decide_eq_true_eq]
    rfl
  have hupper : c.isUpper = true ↔ 65 ≤ c.toNat ∧ c.toNat ≤ 90 := decide_eq_true_iff
  have hlower : c.isLower = true ↔ 97 ≤ c.toNat ∧ c.toNat ≤ 122 := hrange 'a' 'z'
  have hdigit : c.isDigit = true ↔ 48 ≤ c.toNat ∧ c.toNat ≤ 57 := hrange '0' '9'
  have hunderscore : c = '_' ↔ c.toNat = 95 := Char.toNat_inj.symm
  have hclasses : isKeyChar c = (c.isUpper || c.isLower || c.isDigit || c == '_') := rfl
  rw [hclasses]
  simp only [Bool.or_eq_true, beq_iff_eq, hupper, hlower, hdigit, hunderscore, or_assoc]

end Reading

namespace Text

theorem toNat_ofNat_eq (n : Nat) : (Char.ofNat n).toNat = n ∨ (Char.ofNat n).toNat = 0 := by
  unfold Char.ofNat
  by_cases h : n.isValidChar
  · rw [dif_pos h]
    exact .inl rfl
  · rw [dif_neg h]
    exact .inr rfl

theorem toNat_toLower (c : Char) :
    c.toLower.toNat = if 65 ≤ c.toNat ∧ c.toNat ≤ 90 then c.toNat + 32 else c.toNat := by
  have hcapital : (c.val ≥ 'A'.val ∧ c.val ≤ 'Z'.val) ↔ 65 ≤ c.toNat ∧ c.toNat ≤ 90 := by
    simp only [ge_iff_le, UInt32.le_iff_toNat_le, Char.toNat_val]
    rfl
  unfold Char.toLower
  split
  · next h =>
    have hrange := hcapital.mp h
    have hdistance : ('a'.val - 'A'.val).toNat = 32 := rfl
    have hsum : (c.val + ('a'.val - 'A'.val)).toNat = c.toNat + 32 := by
      rw [UInt32.toNat_add, Char.toNat_val, hdistance]
      exact Nat.mod_eq_of_lt (by omega)
    rw [if_pos hrange]
    exact hsum
  · next h => rw [if_neg fun hrange => h (hcapital.mpr hrange)]

theorem isKeyChar_toLower (c : Char) : Reading.isKeyChar c.toLower = Reading.isKeyChar c := by
  rw [Bool.eq_iff_iff, Reading.isKeyChar_iff, Reading.isKeyChar_iff, toNat_toLower]
  split <;> omega

theorem small_of_mem_capitals :
    ∀ run ∈ capitals, 0x80 ≤ run.small ∨ run.first = 0x212a ∧ run.last = 0x212a := by
  decide +kernel

theorem lowercaseOf_of_isKeyChar {c : Char} (h : Reading.isKeyChar c = true) :
    lowercaseOf c = [c.toLower] := by
  have hascii : c.toNat < 0x80 := by
    have hrange := Reading.isKeyChar_iff.mp h
    omega
  simp [lowercaseOf, hascii]

/-- The capital I with a dot and the sign for kelvin are the characters that become letters of
ASCII. -/
theorem exists_lowercaseOf_eq {c : Char} (hc : Reading.isKeyChar c = false)
    (hdotted : c.toNat ≠ 0x130) (hkelvin : c.toNat ≠ 0x212a) :
    ∃ d, lowercaseOf c = [d] ∧ Reading.isKeyChar d = false := by
  have hbeyond : ∀ d : Char, d.toNat = 0 ∨ 0x80 ≤ d.toNat → Reading.isKeyChar d = false := by
    intro d hd
    rw [Bool.eq_false_iff, ne_eq, Reading.isKeyChar_iff]
    omega
  unfold lowercaseOf
  split
  · exact ⟨_, rfl, by rw [isKeyChar_toLower, hc]⟩
  · split
    · next run hrun =>
      have hsmall := small_of_mem_capitals run (List.mem_of_find?_eq_some hrun)
      have hholds := List.find?_some hrun
      simp only [CaseRun.holds, Bool.and_eq_true, decide_eq_true_eq] at hholds
      refine ⟨_, rfl, hbeyond _ ?_⟩
      rcases toNat_ofNat_eq (run.small + (c.toNat - run.first)) with h | h <;> omega
    · exact ⟨c, rfl, hc⟩

theorem lowercase_cons (c : Char) (text : List Char) :
    lowercase (c :: text) = lowercaseOf c ++ lowercase text :=
  List.flatMap_cons

theorem lowercase_append (text rest : List Char) :
    lowercase (text ++ rest) = lowercase text ++ lowercase rest :=
  List.flatMap_append

theorem lowercase_of_isKeyChar {token : List Char} (h : ∀ c ∈ token, Reading.isKeyChar c = true) :
    lowercase token = token.map Char.toLower := by
  induction token with
  | nil => rfl
  | cons c token ih =>
    rw [lowercase_cons, lowercaseOf_of_isKeyChar (h c (by simp)),
      ih fun d hd => h d (List.mem_cons_of_mem c hd)]
    rfl

theorem lowercaseOf_dotted {c : Char} (h : c.toNat = 0x130) :
    lowercaseOf c = ['i', Char.ofNat 0x307] := by
  simp [lowercaseOf, h]

theorem lowercaseOf_kelvin {c : Char} (h : c.toNat = 0x212a) : lowercaseOf c = ['k'] := by
  have hc : c = Char.ofNat 0x212a := Char.toNat_inj.mp h
  rw [hc]
  decide +kernel

/-- Any other character would stand for a `k`, or for an `i` with a combining dot behind it. -/
theorem isKeyChar_of_prefix_lowercase {c : Char} {spelling text : List Char} (hne : spelling ≠ [])
    (hname : ∀ d ∈ spelling, Reading.isKeyChar d = true) (hkelvin : 'k' ∉ spelling)
    (hdotted : spelling.getLast? ≠ some 'i') (h : spelling <+: lowercase (c :: text)) :
    Reading.isKeyChar c = true := by
  refine (Bool.not_eq_false _).mp fun hc => ?_
  obtain ⟨d, spelling, rfl⟩ := List.exists_cons_of_ne_nil hne
  rw [lowercase_cons] at h
  by_cases hdot : c.toNat = 0x130
  · rw [lowercaseOf_dotted hdot] at h
    obtain ⟨rfl, hfront⟩ := List.cons_prefix_cons.mp h
    cases spelling with
    | nil => exact hdotted rfl
    | cons e spelling =>
      obtain ⟨rfl, _⟩ := List.cons_prefix_cons.mp hfront
      have hmark : Reading.isKeyChar (Char.ofNat 0x307) = true := hname _ (by simp)
      exact absurd hmark (by decide)
  · by_cases hsign : c.toNat = 0x212a
    · rw [lowercaseOf_kelvin hsign] at h
      obtain ⟨rfl, _⟩ := List.cons_prefix_cons.mp h
      exact hkelvin List.mem_cons_self
    · obtain ⟨e, he, hstop⟩ := exists_lowercaseOf_eq hc hdot hsign
      rw [he] at h
      obtain ⟨rfl, _⟩ := List.cons_prefix_cons.mp h
      rw [hname d List.mem_cons_self] at hstop
      cases hstop

/-- The induction is on the spelling. -/
theorem exists_of_prefix_lowercase {spelling text : List Char}
    (hname : ∀ c ∈ spelling, Reading.isKeyChar c = true) (hkelvin : 'k' ∉ spelling)
    (hdotted : spelling.getLast? ≠ some 'i') (h : spelling <+: lowercase text) :
    ∃ token rest, text = token ++ rest ∧ token.map Char.toLower = spelling := by
  induction spelling generalizing text with
  | nil => exact ⟨[], text, rfl, rfl⟩
  | cons d spelling ih =>
    cases text with
    | nil => simp [lowercase] at h
    | cons c text =>
      have hc := isKeyChar_of_prefix_lowercase (by simp) hname hkelvin hdotted h
      rw [lowercase_cons, lowercaseOf_of_isKeyChar hc] at h
      obtain ⟨rfl, hfront⟩ := List.cons_prefix_cons.mp h
      have hlast : spelling.getLast? ≠ some 'i' := by
        intro hlast
        obtain ⟨front, rfl⟩ := List.getLast?_eq_some_iff.mp hlast
        exact hdotted (by rw [← List.cons_append, List.getLast?_concat])
      obtain ⟨token, rest, rfl, rfl⟩ := ih (fun e he => hname e (List.mem_cons_of_mem _ he))
        (fun hk => hkelvin (List.mem_cons_of_mem _ hk)) hlast hfront
      exact ⟨c :: token, rest, rfl, rfl⟩

end Text
end Espresso
