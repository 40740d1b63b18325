import Parsing.Grammar.Meaning
import Parsing.Input.Text
import Parsing.Script.Cursor
import Parsing.Script.Session
import Parsing.Proofs.Result
import Parsing.Proofs.Depth
import Parsing.Grammar.Nested
import Parsing.Proofs.Consumption
import Parsing.Proofs.Progress
import Parsing.Proofs.Derivation
import Parsing.Proofs.Composition
import Parsing.Grammar.Watch
import Parsing.Proofs.Watch
import Parsing.Proofs.Finality
import Parsing.Proofs.Translation
import Parsing.Proofs.Representation
import Parsing.Proofs.Termination
import Parsing.Grammar.Trace
import Parsing.Proofs.Trace
import Parsing.Grammar.Arithmetic
import Parsing.Proofs.Arithmetic
import Parsing.Proofs.Conservation
import Parsing.Proofs.Repetition
import Parsing.Proofs.OneOrMore
import Parsing.Proofs.Choice
import Parsing.Proofs.Spelling
import Parsing.Proofs.Unfolding
import Parsing.Grammar.Raise
import Parsing.Proofs.Raise
import Parsing.Proofs.Bytes
import Parsing.Proofs.Factoring
import Parsing.Proofs.Layers
import Parsing.Proofs.Munch
import Parsing.Proofs.Keywords
import Parsing.Proofs.Splitting
import Parsing.Proofs.Nesting
import Parsing.Proofs.EqualTokens
import Parsing.Proofs.ErrorEquality
import Parsing.Proofs.Reading
