import Espresso.Proofs.Text.Span

/-!
# Lines

A text falls into lines at the characters that break one, where a carriage return and the line feed
after it count once. All of these are blank, so a trimmed text that is not empty has a first line,
and that line is not empty either.
-/

namespace Espresso

namespace Text

variable {text front : List Char}

/-- What follows the first line and its break. -/
def dropLine (text : List Char) : List Char :=
  match text.dropWhile fun c => !isLineBreak c with
  | '\r' :: '\n' :: rest => rest
  | rest => rest.tail

theorem length_dropLine_lt (h : text ≠ []) : (dropLine text).length < text.length := by
  have hlength : (text.dropWhile fun c => !isLineBreak c).length ≤ text.length :=
    (List.dropWhile_suffix _).length_le
  have hpos : 0 < text.length := List.length_pos_iff.mpr h
  unfold dropLine
  split
  · next hdrop =>
    simp only [hdrop, List.length_cons] at hlength
    omega
  · rw [List.length_tail]
    omega

/-- A break at the end of the text starts no line. -/
def splitLines (text : List Char) : List (List Char) :=
  if h : text = [] then []
  else
    have : (dropLine text).length < text.length := length_dropLine_lt h
    firstLine text :: splitLines (dropLine text)
termination_by text.length

theorem head?_splitLines (h : text ≠ []) : (splitLines text).head? = some (firstLine text) := by
  rw [splitLines, dif_neg h, List.head?_cons]

example : splitLines "a\r\nb\u2028\n".toList = ["a".toList, "b".toList, []] := by decide +kernel

theorem firstLine_isPrefix (text : List Char) : firstLine text <+: text :=
  List.takeWhile_prefix _

theorem isLineBreak_eq_false {c : Char} (h : isBlank c = false) : isLineBreak c = false := by
  refine Bool.eq_false_iff.mpr fun hbreak => ?_
  rw [isBlank_of_isLineBreak hbreak] at h
  cases h

theorem firstLine_ne_nil (h : text ≠ []) (hstart : startsBlank text = false) :
    firstLine text ≠ [] := by
  obtain ⟨c, rest, rfl⟩ := List.exists_cons_of_ne_nil h
  have hbreak : isLineBreak c = false := isLineBreak_eq_false hstart
  simp [firstLine, hbreak]

/-! ### Trimmed texts -/

theorem startsBlank_of_isPrefix (h : front <+: text) (hstart : startsBlank text = false) :
    startsBlank front = false := by
  obtain ⟨after, rfl⟩ := h
  exact stop_of_append hstart

theorem trim_prefix_skipBlanks (text : List Char) : trim text <+: skipBlanks text := by
  rw [← List.reverse_suffix]
  unfold trim
  rw [List.reverse_reverse]
  exact skipBlanks_suffix _

theorem trim_eq_nil_iff : trim text = [] ↔ AllBlank text := by
  unfold trim
  rw [List.reverse_eq_nil_iff, skipBlanks_eq_nil_iff]
  constructor
  · intro h
    -- Blanks from the first that is none on, so there is no such.
    have hskip : AllBlank (skipBlanks text) := fun c hc => h c (List.mem_reverse.mpr hc)
    have htwice := skipBlanks_of_not_startsBlank (startsBlank_skipBlanks text)
    rw [skipBlanks_of_allBlank hskip] at htwice
    exact skipBlanks_eq_nil_iff.mp htwice.symm
  · intro h
    rw [skipBlanks_of_allBlank h]
    exact allBlank_nil

theorem startsBlank_trim (text : List Char) : startsBlank (trim text) = false :=
  startsBlank_of_isPrefix (trim_prefix_skipBlanks text) (startsBlank_skipBlanks text)

/-! ### Texts on one line -/

/-- No character of the text breaks a line. -/
def Unbroken (text : List Char) : Prop :=
  ∀ c ∈ text, isLineBreak c = false

instance (text : List Char) : Decidable (Unbroken text) :=
  decidable_of_iff (text.all fun c => !isLineBreak c) (by simp [Unbroken])

theorem unbroken_append {first second : String} (hfirst : Unbroken first.toList)
    (hsecond : Unbroken second.toList) : Unbroken (first ++ second).toList := by
  rw [String.toList_append]
  exact List.forall_mem_append.mpr ⟨hfirst, hsecond⟩

theorem Unbroken.of_isPrefix (h : Unbroken text) (hfront : front <+: text) : Unbroken front :=
  fun c hc => h c (hfront.subset hc)

theorem unbroken_firstLine (text : List Char) : Unbroken (firstLine text) := by
  intro c hc
  simpa using of_mem_takeWhile hc

theorem unbroken_of_not_isBlank (h : ∀ c ∈ text, isBlank c = false) : Unbroken text :=
  fun c hc => isLineBreak_eq_false (h c hc)

theorem unbroken_intercalate {separator : String} {words : List String}
    (hseparator : Unbroken separator.toList) (hwords : ∀ word ∈ words, Unbroken word.toList) :
    Unbroken (separator.intercalate words).toList := by
  induction words with
  | nil => simp [Unbroken]
  | cons word words ih =>
    have hword := hwords word (by simp)
    have hmore := ih fun other hother => hwords other (by simp [hother])
    cases words with
    | nil => simpa using hword
    | cons next words =>
      rw [String.intercalate_cons_cons]
      exact unbroken_append (unbroken_append hword hseparator) hmore

/-- A line feed at the end of a text is no part of its lines. -/
theorem Unbroken.infix_of_concat {piece : List Char} (hpiece : Unbroken piece)
    (h : piece <:+: text ++ ['\n']) : piece <:+: text := by
  rcases List.infix_concat_iff.mp h with hends | hinside
  · rcases List.suffix_concat_iff.mp hends with rfl | ⟨front, rfl, _⟩
    · exact List.nil_infix
    · have hbreak := hpiece '\n' (by simp)
      cases hbreak
  · exact hinside

end Text

end Espresso
