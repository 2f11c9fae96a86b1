import Munch.CharClass
import Munch.Parser.Bounded
import Munch.Word

namespace Munch.Parser

def satisfy (condition : Char → Bool) : Parser Char :=
  ofFunction fun s => s.next?.filter fun r => condition r.1

instance (condition : Char → Bool) : Bounded (satisfy condition) :=
  .ofFunction 0 fun _ hs h => by
    have h := (Option.filter_eq_some_iff.1 h).1
    have := (Stream.next?_eq_some_iff.1 h).2.1
    have := Stream.offset_le_of_next? h
    grind

def ofClass (k : CharClass) : Parser Char := satisfy k.contains

def digit : Parser Char := ofClass .asciiDigit

def char (c : Char) : Parser Char := ofClass (.exactly c)

/-- A character that may start an identifier, then all that follow and may stand in one. -/
def identifier : Parser Text :=
  ((ofClass .identifierStart).andThen (ofClass .identifierContinue).many).map
    fun (c, more) => c :: more

/-- The word that a run of digits stands for, if there are any digits and a word can hold it. -/
def wordOfDigits (digits : Text) : Option Int64 :=
  if digits.isEmpty then none else Word.ofInt? (Text.decimalValue digits)

def integer : Parser Int64 := digit.many.filterMap wordOfDigits

instance (k : CharClass) : Bounded (ofClass k) := inferInstanceAs (Bounded (satisfy _))

instance : Bounded digit := inferInstanceAs (Bounded (ofClass _))

instance (c : Char) : Bounded (char c) := inferInstanceAs (Bounded (ofClass _))

instance : Bounded identifier :=
  inferInstanceAs (Bounded
    (((ofClass .identifierStart).andThen (ofClass .identifierContinue).many).map _))

instance : Bounded integer := inferInstanceAs (Bounded (digit.many.filterMap _))

end Munch.Parser
