import Espresso.Text.Numbered
import Espresso.Text.Quoted

/-!
# Failures

Why a document could not be read, or a request about it not be answered. Each failure keeps its
cause; the wording is a function of the cause, and a failure to read also keeps the input that was
left when it arose.
-/

namespace Espresso

/-- What stood where the grammar wants something else. -/
inductive Malformation where
  | flag
  | number
  | brace
  | key
  | unspacedKey (key : String)
  | stepOpening
  | stepClosing
  | trailing
  deriving DecidableEq, Repr

def Malformation.message : Malformation → String
  | flag => "Expected boolean '0' or '1'"
  | number => "Expected a number"
  | brace => "Expected '\x7b'"
  | key => "Expected a key"
  | unspacedKey name => s!"Expected whitespace after key '{name}'"
  | stepOpening => "Expected '\x7b' opening a step"
  | stepClosing => "Expected '\x7d' closing a step"
  | trailing => "Unexpected trailing input"

/-- The families of faults that a host may report in words of its own. -/
inductive FaultFamily where
  | unspecified
  | malformed
  | unterminated
  deriving DecidableEq, Repr

/-- What stopped a reader. A fault is `reported` when a host reads something by itself. -/
inductive Fault where
  | malformed (shape : Malformation)
  | unterminated
  | unrecognized (tag : String) (expected : List String)
  | reported (family : FaultFamily) (message : String)
  deriving DecidableEq, Repr

def Fault.headline : Fault → String
  | malformed shape => shape.message
  | unterminated => "Unterminated '\x7b' string"
  | unrecognized tag expected =>
    let shown := String.ofList (Text.quoted tag.toList)
    let choices := String.intercalate ", " expected
    s!"Unrecognized tag {shown} (expected one of: {choices})"
  | reported _ message => message

/-- A fault and the input that was left when it arose. -/
structure ParseError where
  fault : Fault
  remaining : List Char
  deriving DecidableEq, Repr

def ParseError.headline (error : ParseError) : String :=
  error.fault.headline

/-- How many characters of the remaining input a message shows. -/
def excerptLimit : Nat := 40

/-- Nothing is shown of an input that was used up. -/
def ParseError.details (error : ParseError) : List String :=
  if error.remaining.isEmpty then []
  else ["near: " ++ String.ofList (Text.quoted (Text.excerpt excerptLimit error.remaining))]

/-- A value that must be there, and the step or document that lacks it. -/
structure Missing where
  key : String
  place : String
  deriving DecidableEq, Repr

def Missing.headline (missing : Missing) : String :=
  let key := missing.key
  let place := missing.place
  s!"Missing required '{key}' in {place}"

/-- What goes wrong with a profile. A `general` failure is a host's own, in words of its own. -/
inductive Failure where
  | general (message : String) (details : List String)
  | unreadable (error : ParseError)
  | missing (what : Missing)
  | unknownPreset (name : String)
  | invalid (message : String) (errors : List String)
  deriving DecidableEq, Repr

namespace Failure

def headline : Failure → String
  | general message _ => message
  | unreadable error => error.headline
  | missing what => what.headline
  | unknownPreset name => s!"Unknown preset: {name}"
  | invalid message _ => message

def details : Failure → List String
  | general _ details => details
  | unreadable error => error.details
  | missing _ => []
  | unknownPreset _ => []
  | invalid _ errors => errors

def message (failure : Failure) : String :=
  Text.withDetails failure.headline failure.details

end Failure

end Espresso
