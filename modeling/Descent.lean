import Descent.Cursor.Machine
import Descent.Main
import Descent.Proofs.Primitive
import Descent.Proofs.Everywhere
import Descent.Proofs.Limits
import Descent.Proofs.Safety
import Descent.Proofs.Locations
import Descent.Proofs.Simulation
import Descent.Proofs.Derivation
import Descent.Proofs.Refinement
import Descent.Proofs.Transparency
import Descent.Proofs.Calculator.Token
import Descent.Proofs.Calculator.Reading
import Descent.Proofs.Calculator.Correctness
import Descent.Proofs.Tiling
import Descent.Proofs.Translation
import Descent.Proofs.Log
import Descent.Proofs.Propagation
import Descent.Proofs.Guarded
import Descent.Proofs.Calls
import Descent.Proofs.Backtracking
import Descent.Proofs.Reach
import Descent.Proofs.LeftRecursion
import Descent.Proofs.Unrolling
import Descent.Proofs.Matching
import Descent.Proofs.Verdicts
import Descent.Proofs.Discrimination
import Descent.Proofs.Visits
import Descent.Proofs.Repetition
import Descent.Proofs.Alternatives
import Descent.Proofs.Flattening
import Descent.Proofs.Factoring
import Descent.Proofs.Checkpoints
import Descent.Proofs.Lines
import Descent.Text.JsonReading
import Descent.Proofs.JsonRoundTrip
import Descent.Proofs.SingleLine
import Descent.Proofs.Scanning
import Descent.Proofs.Registration
