import ProseGuard.Command.Serve
import ProseGuard.Http
import ProseGuard.Main
import ProseGuard.Proofs.Candidate.Ambiguity
import ProseGuard.Proofs.Candidate.Calls
import ProseGuard.Proofs.Guard.ModalComment
import ProseGuard.Proofs.Guard.Threshold
import ProseGuard.Proofs.Guard.Operands
import ProseGuard.Proofs.Guard.ReadBack
import ProseGuard.Proofs.Candidate.Origin
import ProseGuard.Proofs.Guard.Failure
import ProseGuard.Proofs.Program.Reach
import ProseGuard.Proofs.Candidate.Balance
import ProseGuard.Proofs.Comment.Characters
import ProseGuard.Proofs.Guard.Parentheses
import ProseGuard.Proofs.Guard.Locality
import ProseGuard.Proofs.Guard.TagOrder
import ProseGuard.Proofs.Candidate.Expressions
import ProseGuard.Proofs.Candidate.FirstOffers
import ProseGuard.Proofs.Program.Reread
import ProseGuard.Proofs.Guard.SelfCall
import ProseGuard.Proofs.Text.Edits
import ProseGuard.Proofs.Program.Reading
import ProseGuard.Proofs.Command.Finish
import ProseGuard.Proofs.Command.ProgramFiles
import ProseGuard.Proofs.Command.Service
import ProseGuard.Proofs.Command.SettingsFiles
import ProseGuard.Proofs.Candidate.NearestElements
import ProseGuard.Proofs.Guard.Readings
import ProseGuard.Proofs.Guard.NumberComparisons
import ProseGuard.Proofs.Guard.Denial
import ProseGuard.Proofs.Guard.Zero
import ProseGuard.Proofs.Comment.Splitting
import ProseGuard.Proofs.Guard.WholeWord
import ProseGuard.Proofs.Guard.Parenthetical
import ProseGuard.Proofs.Comment.Negation
import ProseGuard.Proofs.Program.Lineage
import ProseGuard.Proofs.Program.Listing
import ProseGuard.Proofs.Program.Hiding
import ProseGuard.Proofs.Program.Declared
import ProseGuard.Proofs.Candidate.Documented
import ProseGuard.Proofs.Candidate.MinedWords
import ProseGuard.Proofs.Guard.NullCheck
import ProseGuard.Proofs.Guard.Polarity
import ProseGuard.Proofs.Guard.TruthValues
import ProseGuard.Proofs.Comment.Reordering
import ProseGuard.Proofs.Program.TypeReference
import ProseGuard.Proofs.Program.TypeWords
import ProseGuard.Proofs.Settings.Precedence
import ProseGuard.Proofs.Json.Wholeness
