import Espresso.Reading.Entry

/-!
# Reading commands

A document is a run of commands, with or without blanks between them, and nothing else.
-/

namespace Espresso

def Reading.commandReader : ItemReader Command where
  opens := isKeyChar
  read := readEntry CommandKey
  shrinks := length_lt_of_readEntry

def Command.readAll (text : String) : Except ParseError (List Command) :=
  Reading.commandReader.readWhole text.toList

end Espresso
