import Munch.Parser.Character
import Munch.Parser.Error
import Munch.Value.Basic

namespace Munch

namespace Parser

/-- The product of two numbers with an asterisk between them, if a word can hold it. -/
def product : Parser Int64 :=
  ((fun m _ n => Word.mul? m n) <$> integer <*> char '*' <*> integer).filterMap id

instance : Bounded product := inferInstanceAs (Bounded (filterMap id (_ <$> _ <*> _ <*> _)))

def assignment : Parser (Text × Int64) :=
  ((identifier.andThen (char '=')).andThen integer).map fun ((name, _), n) => (name, n)

instance : Bounded assignment :=
  inferInstanceAs (Bounded (((identifier.andThen (char '=')).andThen integer).map _))

end Parser

namespace Catalogue

inductive Entry where
  | digits
  | integer
  | identifier
  | multiplication
  | assignment
  deriving DecidableEq, Repr

def renderAssignment (a : Text × Int64) : Text :=
  a.1 ++ '=' :: Text.ofInt a.2.toInt

namespace Entry

def name : Entry → String
  | digits => "digits"
  | integer => "integer"
  | identifier => "identifier"
  | multiplication => "multiplication"
  | assignment => "assignment"

def all : List Entry := [digits, integer, identifier, multiplication, assignment]

def parser : Entry → Parser Value
  | digits => Parser.digit.many.map fun cs => .list (cs.map .char)
  | integer => Parser.integer.map .int
  | identifier => Parser.identifier.map .text
  | multiplication => Parser.product.map .int
  | assignment => Parser.assignment.map fun a => .text (renderAssignment a)

instance : (e : Entry) → Parser.Bounded e.parser
  | digits => inferInstanceAs (Parser.Bounded (Parser.digit.many.map _))
  | integer => inferInstanceAs (Parser.Bounded (Parser.integer.map _))
  | identifier => inferInstanceAs (Parser.Bounded (Parser.identifier.map _))
  | multiplication => inferInstanceAs (Parser.Bounded (Parser.product.map _))
  | assignment => inferInstanceAs (Parser.Bounded (Parser.assignment.map _))

end Entry

def find? (name : String) : Option Entry :=
  Entry.all.find? fun e => e.name == name

def unknownMessage (name : Text) : Text :=
  "Unknown grammar ".toList ++ Text.quote name

end Catalogue

end Munch
