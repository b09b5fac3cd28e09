/-!
# Numbered lists

A message with several parts gives each a line and a number, counted from one.
-/

namespace Espresso.Text

def counted {α : Type} (items : List α) : List (Nat × α) :=
  items.zipIdx.map fun (item, index) => (index + 1, item)

def numbered (items : List String) : List String :=
  (counted items).map fun (number, item) => s!"{number}. {item}"

def lines (items : List String) : String :=
  String.intercalate "\n" items

/-- A headline alone, or with numbered details below an empty line. -/
def withDetails (headline : String) (details : List String) : String :=
  if details.isEmpty then headline else lines (headline :: "" :: numbered details)

end Espresso.Text
