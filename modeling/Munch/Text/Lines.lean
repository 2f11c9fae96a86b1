import Munch.Text.Basic

namespace Munch.Text

/-- The text up to the first line feed, and the texts between and after the line feeds. -/
def splitAtFeeds : Text → Text × List Text
  | [] => ([], [])
  | c :: t =>
    let (line, more) := splitAtFeeds t
    if c = '\n' then ([], line :: more) else (c :: line, more)

def dropReturn (line : Text) : Text :=
  if line.getLast? = some '\r' then line.dropLast else line

/-- The lines of a text, without the line feed at their end and a carriage return right before it.
-/
def linesFrom (line : Text) : List Text → List Text
  | [] => if line.isEmpty then [] else [line]
  | next :: more => dropReturn line :: linesFrom next more

/-- The lines of a text, without their ends. -/
def lines (t : Text) : List Text :=
  linesFrom (splitAtFeeds t).1 (splitAtFeeds t).2

end Munch.Text
