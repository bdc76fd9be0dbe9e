import Sprout.Main
import Sprout.Proofs.Grammar
import Sprout.Proofs.Reading
import Sprout.Proofs.LongestMatch
import Sprout.Proofs.Diagnostics
import Sprout.Proofs.FaultAutomaton
import Sprout.Proofs.Concatenation
import Sprout.Proofs.Rendering
import Sprout.Proofs.Places
import Sprout.Proofs.FaultReports
import Sprout.Proofs.Escaping
import Sprout.Proofs.TokenLines
import Sprout.Proofs.Sessions
import Sprout.Proofs.Splitting
import Sprout.Proofs.LineByLine
import Sprout.Proofs.TokenStream
import Sprout.Proofs.Spellings
import Sprout.Proofs.Progress
import Sprout.Proofs.CommandLines
import Sprout.Proofs.FileAndText
import Sprout.Proofs.QuotedLiterals
import Sprout.Proofs.Lookahead
import Sprout.Proofs.ReportedPlaces
import Sprout.Proofs.StringEnds
import Sprout.Proofs.Undecodable
import Sprout.Proofs.MessageEscapes
import Sprout.Proofs.Precedence
import Sprout.Proofs.Cursor
import Sprout.Proofs.CursorProgress
