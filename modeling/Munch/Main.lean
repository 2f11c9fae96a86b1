import Munch.Report.Products
import Munch.Report.Trace

namespace Munch

partial def readLines (input : IO.FS.Stream) (before : String) : IO String := do
  let line ← input.getLine
  if line.isEmpty then return before else readLines input (before ++ line)

def reportProducts : IO Unit := do
  let input ← readLines (← IO.getStdin) ""
  let verdicts := Report.Products.verdicts input.toList
  IO.print (String.ofList (Report.Products.renderEquations verdicts))
  IO.eprint (String.ofList (Report.Products.renderComplaints verdicts))

def reportTrace (arg : Option String) : IO Unit := do
  let text := (arg.map String.toList).getD Report.Trace.defaultText
  IO.print (String.ofList (Report.Trace.report text))

end Munch

def main (args : List String) : IO UInt32 := do
  match args with
  | ["products"] =>
    Munch.reportProducts
    return 0
  | "trace" :: rest =>
    Munch.reportTrace rest.head?
    return 0
  | _ =>
    IO.eprintln "usage: munch products | munch trace [text]"
    return 2
