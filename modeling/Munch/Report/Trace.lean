import Munch.Parser.Character

namespace Munch.Report.Trace

def defaultText : Text := "width=80;depth=3".toList

/-- What one parser made of the text: the value in words and the stream that is left. -/
structure Step where
  name : Text
  outcome : Option (Text × Stream)
  deriving DecidableEq, Repr

/-- A list of digits in words: each one between single quotes, where no digit needs an escape. -/
def describeChars (cs : List Char) : Text :=
  '[' :: (", ".toList.intercalate (cs.map fun c => ['\x27', c, '\x27']) ++ [']'])

def steps (t : Text) : List Step :=
  [⟨"digits".toList, (Parser.digit.many.map describeChars).parse t⟩,
   ⟨"integer".toList, (Parser.integer.map fun n => Text.ofInt n.toInt).parse t⟩,
   ⟨"identifier".toList, Parser.identifier.parse t⟩,
   ⟨['\x27', '=', '\x27'], ((Parser.char '=').map fun c => [c]).parse t⟩]

def Step.render (step : Step) : Text :=
  let name := "  ".toList ++ step.name.rightpad 10 ' ' ++ " => ".toList
  match step.outcome with
  | some (value, rest) => name ++ value.rightpad 12 ' ' ++ ' ' :: rest.describe
  | none => name ++ "no match".toList

def lines (t : Text) : List Text :=
  ("Input: ".toList ++ Text.quote t) :: [] :: (steps t).map Step.render

def report (t : Text) : Text :=
  (lines t).flatMap fun line => line ++ ['\n']

end Munch.Report.Trace
