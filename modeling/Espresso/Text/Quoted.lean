import Espresso.Text.Printable

/-!
# Quoted text

How a message shows a piece of a document: between marks, with what cannot be printed spelled
out by its code point.
-/

namespace Espresso.Text

/-- The double mark is taken only for a text with a single mark and no double one. -/
def quoteMark (text : List Char) : Char :=
  if text.contains '\'' && !text.contains '"' then '"' else '\''

def hexDigits (width n : Nat) : List Char :=
  (List.range width).reverse.map fun place => Nat.digitChar (n / Nat.pow 16 place % 16)

def escaped (mark c : Char) : List Char :=
  if c == mark || c == '\\' then ['\\', c]
  else if c == '\n' then ['\\', 'n']
  else if c == '\r' then ['\\', 'r']
  else if c == '\t' then ['\\', 't']
  else if isPrintable c then [c]
  else if c.toNat < 0x100 then '\\' :: 'x' :: hexDigits 2 c.toNat
  else if c.toNat < 0x10000 then '\\' :: 'u' :: hexDigits 4 c.toNat
  else '\\' :: 'U' :: hexDigits 8 c.toNat

def quoted (text : List Char) : List Char :=
  let mark := quoteMark text
  mark :: text.flatMap (escaped mark) ++ [mark]

/-- The text itself, or its first characters and three dots when it is longer than `limit`. -/
def excerpt (limit : Nat) (text : List Char) : List Char :=
  if text.length ≤ limit then text else text.take limit ++ ['.', '.', '.']

end Espresso.Text
