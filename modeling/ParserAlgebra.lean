import ParserAlgebra.Grammar
import ParserAlgebra.Parser.Description
import ParserAlgebra.Parser.Whole
import ParserAlgebra.Proofs.Complaints
import ParserAlgebra.Proofs.Extension
import ParserAlgebra.Proofs.Messages
import ParserAlgebra.Proofs.PositionIndependence
import ParserAlgebra.Proofs.Refactoring
import ParserAlgebra.Proofs.Repetition
import ParserAlgebra.Proofs.Termination
import ParserAlgebra.Proofs.RankedRules
import ParserAlgebra.Proofs.Unfolding
import ParserAlgebra.Proofs.Calls
import ParserAlgebra.Proofs.Rounds
import ParserAlgebra.Proofs.Choice
import ParserAlgebra.Proofs.Locations
import ParserAlgebra.Proofs.Verdict
import ParserAlgebra.Proofs.Succession
import ParserAlgebra.Proofs.Saturation
import ParserAlgebra.Cut
import ParserAlgebra.Proofs.Cuts
import ParserAlgebra.Proofs.Reaching
import ParserAlgebra.Proofs.Spans
import ParserAlgebra.Proofs.Joining
import ParserAlgebra.Proofs.Ordering
import ParserAlgebra.Proofs.Delimiting
import ParserAlgebra.Proofs.ErrorTexts
import ParserAlgebra.Proofs.Naturality
import ParserAlgebra.Language.Nesting
import ParserAlgebra.Proofs.Nesting
import ParserAlgebra.Language.Values
import ParserAlgebra.Proofs.Numerals
import ParserAlgebra.Proofs.Derivations
import ParserAlgebra.Proofs.ValueTexts
import ParserAlgebra.Proofs.Acceptance
