import Espresso.Vocabulary.Tag

/-!
# Kinds of values

Every known key carries values of one kind, and a kind is a type: a look-up by key has the type of
that key's values, so no reader of a profile ever meets a value of the wrong kind.
-/

namespace Espresso

inductive Kind where
  | flag
  | number
  | text
  | transition
  | sensor
  | pump
  | exit
  | beverage
  | profileType
  deriving DecidableEq, Repr

@[reducible]
def Kind.Value : Kind → Type
  | flag => Bool
  | number => Float
  | text => String
  | transition => Transition
  | sensor => Sensor
  | pump => Pump
  | exit => Exit
  | beverage => Beverage
  | profileType => ProfileType

instance : (kind : Kind) → DecidableEq kind.Value
  | .flag => inferInstanceAs (DecidableEq Bool)
  | .number => inferInstanceAs (DecidableEq Float)
  | .text => inferInstanceAs (DecidableEq String)
  | .transition => inferInstanceAs (DecidableEq Transition)
  | .sensor => inferInstanceAs (DecidableEq Sensor)
  | .pump => inferInstanceAs (DecidableEq Pump)
  | .exit => inferInstanceAs (DecidableEq Exit)
  | .beverage => inferInstanceAs (DecidableEq Beverage)
  | .profileType => inferInstanceAs (DecidableEq ProfileType)

end Espresso
