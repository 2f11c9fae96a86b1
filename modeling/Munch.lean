import Munch.Catalogue
import Munch.CharClass
import Munch.Curried
import Munch.Grammar.Basic
import Munch.Grammar.Script
import Munch.Main
import Munch.Parser.Basic
import Munch.Parser.Bounded
import Munch.Parser.Character
import Munch.Parser.Error
import Munch.Parser.Lemmas
import Munch.Parser.Position
import Munch.Proofs.Application
import Munch.Proofs.Assignments
import Munch.Proofs.Bracketing
import Munch.Proofs.ErrorTexts
import Munch.Proofs.Filtering
import Munch.Proofs.Identifiers
import Munch.Proofs.Lines
import Munch.Proofs.MadeStreams
import Munch.Proofs.Movement
import Munch.Proofs.Numbers
import Munch.Proofs.Parts
import Munch.Proofs.Places
import Munch.Proofs.PlainText
import Munch.Proofs.ProductReports
import Munch.Proofs.Repetition
import Munch.Proofs.Resuming
import Munch.Proofs.Runs
import Munch.Proofs.Sessions
import Munch.Proofs.Spelling
import Munch.Proofs.StopCharacter
import Munch.Proofs.SuffixOrder
import Munch.Proofs.Termination
import Munch.Proofs.TraceReports
import Munch.Report.Products
import Munch.Report.Trace
import Munch.Stream.Basic
import Munch.Stream.Script
import Munch.Text.Basic
import Munch.Text.Decimal
import Munch.Text.Lines
import Munch.Text.Quoted
import Munch.Unicode.IdentifierContinue
import Munch.Unicode.IdentifierStart
import Munch.Unicode.Ranges
import Munch.Unicode.Unprintable
import Munch.Unicode.WhiteSpace
import Munch.Value.Basic
import Munch.Value.Function
import Munch.Word
