import CtorScan.Analysis.Diagnostic
import CtorScan.Main
import CtorScan.Proofs.Analysis.Conservation
import CtorScan.Proofs.Constructor.Scan
import CtorScan.Proofs.Run.Cancellation
import CtorScan.Proofs.Directive.Usage
import CtorScan.Proofs.Program.Description
import CtorScan.Proofs.Program.Resolution
import CtorScan.Proofs.Run.Failure
import CtorScan.Proofs.Program.Validity
import CtorScan.Proofs.Assembly.Module
import CtorScan.Proofs.Assembly.Description
import CtorScan.Proofs.Report.Answers
import CtorScan.Proofs.Report.Decoding
import CtorScan.Proofs.Report.Lines
import CtorScan.Proofs.Run.Stream
import CtorScan.Proofs.Command.Flags
import CtorScan.Proofs.Command.Layers
import CtorScan.Proofs.Command.Inputs
import CtorScan.Proofs.Analysis.Generated
import CtorScan.Proofs.Assembly.Lowering
import CtorScan.Proofs.Analysis.Placement
import CtorScan.Proofs.Pass.Registry
import CtorScan.Proofs.Run.Relevance
import CtorScan.Proofs.Directive.History
import CtorScan.Proofs.Directive.Writing
import CtorScan.Proofs.Directive.EmptyReason
import CtorScan.Proofs.Directive.Addition
import CtorScan.Proofs.Program.Order
import CtorScan.Proofs.Constructor.Refinement
import CtorScan.Proofs.Text.Lines
import CtorScan.Proofs.Assembly.PointerWord
import CtorScan.Proofs.Assembly.Pieces
import CtorScan.Proofs.Assembly.PointerType
import CtorScan.Proofs.Analysis.Notices
import CtorScan.Proofs.Assembly.TypeText
import CtorScan.Proofs.Flow.Declarations
import CtorScan.Proofs.Directive.Completeness
