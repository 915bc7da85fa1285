import Descent.Grammar
import Descent.Main
import Descent.Proofs.Bookkeeping
import Descent.Proofs.Bounds
import Descent.Proofs.Counts
import Descent.Proofs.Derivation
import Descent.Proofs.Diagnostics
import Descent.Proofs.Invariant
import Descent.Proofs.Merging
import Descent.Proofs.Recognition
import Descent.Proofs.Runs
import Descent.Proofs.Simulation
import Descent.Proofs.Alternatives
import Descent.Proofs.Repetition
import Descent.Proofs.Lookahead
import Descent.Proofs.Translation
import Descent.Proofs.NumberLists
import Descent.Proofs.Agreement
import Descent.Proofs.Wording
import Descent.Proofs.Shape
import Descent.Proofs.RoundTrip
import Descent.Proofs.Exhaustion
import Descent.Proofs.Splitting
import Descent.Proofs.Sequencing
import Descent.Proofs.Factoring
import Descent.Proofs.Omission
import Descent.Proofs.Labelling
import Descent.Proofs.Frames
import Descent.Proofs.Overflow
import Descent.Proofs.Ranges
import Descent.Proofs.Fallback
import Descent.Proofs.Contract
import Descent.Proofs.Histories
import Descent.Proofs.Bands
