import EscapeClause.Main
import EscapeClause.Session
import EscapeClause.Proofs.Denotation
import EscapeClause.Proofs.Skeleton
import EscapeClause.Proofs.TwoPhase
import EscapeClause.Proofs.SingleCall
import EscapeClause.Proofs.ClauseFree
import EscapeClause.Proofs.Completion
import EscapeClause.Proofs.Concatenation
import EscapeClause.Proofs.DispatchOrder
import EscapeClause.Proofs.Fields
import EscapeClause.Proofs.NestedCalls
import EscapeClause.Proofs.Conservation
import EscapeClause.Proofs.Alike
import EscapeClause.Proofs.Canonical
import EscapeClause.Proofs.Layout
import EscapeClause.Proofs.Runs
import EscapeClause.Proofs.Output
import EscapeClause.Proofs.HandlersDocument
import EscapeClause.Proofs.Sharing
import EscapeClause.Proofs.Cuts
import EscapeClause.Proofs.Regions
import EscapeClause.Proofs.Positions
import EscapeClause.Proofs.Unclosed
import EscapeClause.Proofs.Precedence
import EscapeClause.Proofs.CallReadings
import EscapeClause.Proofs.Specifications
import EscapeClause.Proofs.FrameScan
import EscapeClause.Proofs.FrameStack
import EscapeClause.Proofs.Declarations
