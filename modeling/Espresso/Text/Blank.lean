/-!
# Blanks and lines

Which characters stand between the words of a document, and which end a line. Every character
that ends a line is blank, so a text without surrounding blanks has a non-empty first line.
-/

namespace Espresso.Text

def isBlank (c : Char) : Bool :=
  let n := c.toNat
  (0x09 ≤ n && n ≤ 0x0d) || (0x1c ≤ n && n ≤ 0x20) || n == 0x85 || n == 0xa0 || n == 0x1680 ||
    (0x2000 ≤ n && n ≤ 0x200a) || n == 0x2028 || n == 0x2029 || n == 0x202f || n == 0x205f ||
    n == 0x3000

/-- The unit separator, U+001F, is blank and ends no line. -/
def isLineBreak (c : Char) : Bool :=
  let n := c.toNat
  (0x0a ≤ n && n ≤ 0x0d) || (0x1c ≤ n && n ≤ 0x1e) || n == 0x85 || n == 0x2028 || n == 0x2029

def startsBlank (text : List Char) : Bool :=
  text.head?.any isBlank

def skipBlanks (text : List Char) : List Char :=
  text.dropWhile isBlank

def trim (text : List Char) : List Char :=
  (skipBlanks (skipBlanks text).reverse).reverse

def firstLine (text : List Char) : List Char :=
  text.takeWhile fun c => !isLineBreak c

theorem isBlank_of_isLineBreak {c : Char} (h : isLineBreak c = true) : isBlank c = true := by
  simp only [isLineBreak, isBlank, Bool.or_eq_true, Bool.and_eq_true, decide_eq_true_eq,
    beq_iff_eq] at h ⊢
  omega

theorem skipBlanks_suffix (text : List Char) : skipBlanks text <:+ text :=
  List.dropWhile_suffix isBlank

theorem length_skipBlanks_le (text : List Char) : (skipBlanks text).length ≤ text.length :=
  (skipBlanks_suffix text).length_le

theorem length_skipBlanks_lt {text : List Char} (h : startsBlank text = true) :
    (skipBlanks text).length < text.length := by
  cases text with
  | nil => simp [startsBlank] at h
  | cons c rest =>
    have hc : isBlank c = true := by simpa [startsBlank] using h
    have hrest := length_skipBlanks_le rest
    simp only [skipBlanks, List.dropWhile_cons, hc, if_true, List.length_cons] at hrest ⊢
    omega

end Espresso.Text
