import Munch.Catalogue
import Munch.Text.Lines

namespace Munch.Report

inductive Verdict where
  | equation (line : Text)
  | complaint (line : Text)
  deriving DecidableEq, Repr

namespace Products

/-- The report on a line: a product and its value, or the whole line and what is wrong with it. -/
def verdict (line : Text) : Verdict :=
  let trimmed := line.trimEnd Unicode.isWhiteSpace
  match Parser.product.parseAll trimmed with
  | .ok n => .equation (trimmed ++ " = ".toList ++ Text.ofInt n.toInt)
  | .error e => .complaint (Text.quote line ++ ": ".toList ++ e.describe)

def verdicts (t : Text) : List Verdict := t.lines.map verdict

def renderEquations (vs : List Verdict) : Text :=
  vs.flatMap fun
    | .equation line => line ++ ['\n']
    | .complaint _ => []

def renderComplaints (vs : List Verdict) : Text :=
  vs.flatMap fun
    | .equation _ => []
    | .complaint line => line ++ ['\n']

end Products

end Munch.Report
