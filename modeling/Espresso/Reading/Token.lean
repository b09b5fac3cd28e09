import Espresso.Decimal.Numeral
import Espresso.Reading.Basic

/-!
# Tokens

Flags, numbers and text. Text is one unquoted word, or anything between a brace and the one that
closes it; braces inside are counted, and kept.
-/

namespace Espresso.Reading

def readFlag : List Char → Reading Bool
  | '1' :: rest => .ok (true, rest)
  | '0' :: rest => .ok (false, rest)
  | text => stuck .flag text

def readNumber (text : List Char) : Reading Float :=
  match Decimal.Numeral.read? text with
  | some (numeral, rest) => .ok (numeral.value, rest)
  | none => stuck .number text

/-- The text up to the brace that closes the `depth`-th open one, and what follows that brace. -/
def splitBraced? : Nat → List Char → Option (List Char × List Char)
  | _, [] => none
  | depth, '{' :: rest =>
    (splitBraced? (depth + 1) rest).map fun (inner, after) => ('{' :: inner, after)
  | 0, '}' :: rest => some ([], rest)
  | depth + 1, '}' :: rest =>
    (splitBraced? depth rest).map fun (inner, after) => ('}' :: inner, after)
  | depth, c :: rest =>
    (splitBraced? depth rest).map fun (inner, after) => (c :: inner, after)

def readBraced : List Char → Reading String
  | '{' :: rest =>
    match splitBraced? 0 rest with
    | some (inner, after) => .ok (String.ofList inner, after)
    | none => .error ⟨.unterminated, '{' :: rest⟩
  | text => stuck .brace text

/-- A word may be empty: it ends before the first character for which `endsWord` holds. -/
def readWord (endsWord : Char → Bool) (text : List Char) : Reading String :=
  .ok (String.ofList (text.takeWhile fun c => !endsWord c), text.dropWhile fun c => !endsWord c)

def readText (endsWord : Char → Bool) : List Char → Reading String
  | '{' :: rest => readBraced ('{' :: rest)
  | text => readWord endsWord text

theorem suffix_of_readFlag {text rest : List Char} {value : Bool}
    (h : readFlag text = .ok (value, rest)) : rest <:+ text := by
  unfold readFlag at h
  split at h
  · cases h
    exact List.suffix_cons _ _
  · cases h
    exact List.suffix_cons _ _
  · exact absurd h stuck_ne_ok

theorem suffix_of_readNumber {text rest : List Char} {value : Float}
    (h : readNumber text = .ok (value, rest)) : rest <:+ text := by
  unfold readNumber at h
  split at h
  · next hread =>
    cases h
    exact Decimal.Numeral.suffix_of_read? hread
  · exact absurd h stuck_ne_ok

theorem suffix_of_splitBraced? {depth : Nat} {text inner rest : List Char}
    (h : splitBraced? depth text = some (inner, rest)) : rest <:+ text := by
  fun_induction splitBraced? depth text generalizing inner with
  | case1 => cases h
  | case2 depth text ih | case4 depth text ih | case5 depth c text _ _ _ ih =>
    obtain ⟨⟨inside, after⟩, hsplit, hpair⟩ := Option.map_eq_some_iff.mp h
    cases hpair
    exact (ih hsplit).trans (List.suffix_cons _ _)
  | case3 text =>
    cases h
    exact List.suffix_cons _ _

theorem suffix_of_readBraced {text rest : List Char} {value : String}
    (h : readBraced text = .ok (value, rest)) : rest <:+ text := by
  unfold readBraced at h
  split at h
  · split at h
    · next hsplit =>
      cases h
      exact (suffix_of_splitBraced? hsplit).trans (List.suffix_cons _ _)
    · cases h
  · exact absurd h stuck_ne_ok

theorem suffix_of_readWord {endsWord : Char → Bool} {text rest : List Char} {value : String}
    (h : readWord endsWord text = .ok (value, rest)) : rest <:+ text := by
  cases h
  exact List.dropWhile_suffix _

theorem suffix_of_readText {endsWord : Char → Bool} {text rest : List Char} {value : String}
    (h : readText endsWord text = .ok (value, rest)) : rest <:+ text := by
  unfold readText at h
  split at h
  · exact suffix_of_readBraced h
  · exact suffix_of_readWord h

end Espresso.Reading
