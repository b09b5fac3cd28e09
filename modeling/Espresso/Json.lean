import Espresso.Decimal.Layout
import Espresso.Text.Quoted

/-!
# JSON text

The values a resource is made of, and their text: one line for each item, two blanks for each level
of nesting, and ASCII alone, so that the text survives any channel.
-/

namespace Espresso

inductive Json where
  | null
  | flag (value : Bool)
  | count (value : Nat)
  | number (value : Float)
  | text (value : String)
  | array (items : List Json)
  | object (fields : List (String × Json))

namespace Json

/-- Numbers are positional from 0.0001 up to sixteen digits, and infinity has its name. -/
def numberLayout : Decimal.Layout where
  lowest := -4
  highest := 15
  exponentDigits := 2
  infinity := "Infinity"
  undefined := "NaN"

def unitEscape (unit : Nat) : List Char :=
  '\\' :: 'u' :: Text.hexDigits 4 unit

/-- A code point above U+FFFF is written as the pair of units that stands for it. -/
def escaped (c : Char) : List Char :=
  let n := c.toNat
  if c == '"' || c == '\\' then ['\\', c]
  else if c == '\n' then ['\\', 'n']
  else if c == '\r' then ['\\', 'r']
  else if c == '\t' then ['\\', 't']
  else if n == 0x08 then ['\\', 'b']
  else if n == 0x0c then ['\\', 'f']
  else if 0x20 ≤ n && n ≤ 0x7e then [c]
  else if n < 0x10000 then unitEscape n
  else unitEscape (0xd800 + (n - 0x10000) / 0x400) ++ unitEscape (0xdc00 + (n - 0x10000) % 0x400)

def quoted (text : String) : String :=
  String.ofList ('"' :: text.toList.flatMap escaped ++ ['"'])

def newline (depth : Nat) : String :=
  String.ofList ('\n' :: List.replicate (2 * depth) ' ')

/-- Items between the marks `opening` and `closing`, each on a line of its own. -/
def bracketed (depth : Nat) (opening closing : String) (items : List String) : String :=
  if items.isEmpty then opening ++ closing
  else opening ++ newline (depth + 1) ++
    String.intercalate ("," ++ newline (depth + 1)) items ++ newline depth ++ closing

mutual

def render (depth : Nat) : Json → String
  | null => "null"
  | flag value => if value then "true" else "false"
  | count value => String.ofList (Nat.toDigits 10 value)
  | number value => numberLayout.float value
  | text value => quoted value
  | array items => bracketed depth "[" "]" (renderItems (depth + 1) items)
  | object fields => bracketed depth "\x7b" "\x7d" (renderFields (depth + 1) fields)

def renderItems (depth : Nat) : List Json → List String
  | [] => []
  | item :: rest => render depth item :: renderItems depth rest

def renderFields (depth : Nat) : List (String × Json) → List String
  | [] => []
  | (name, value) :: rest => (quoted name ++ ": " ++ render depth value) :: renderFields depth rest

end

end Json

end Espresso
