import LiabilityProof.Field.Scalar
import LiabilityProof.Curve.Jacobian
import LiabilityProof.Curve.Pairing
import LiabilityProof.Number.Shortest
import LiabilityProof.Text.Numeral
import LiabilityProof.Text.Hex
import LiabilityProof.Json.Reader
import LiabilityProof.Json.Printer
import LiabilityProof.Wire.Integer
import LiabilityProof.Polynomial.Transform
import LiabilityProof.Curve.Groups
import LiabilityProof.Curve.Bytes
import LiabilityProof.Kzg.ParameterFile
import LiabilityProof.Ledger.Csv
import LiabilityProof.Ledger.Columns
import LiabilityProof.SumTree.Proof
import LiabilityProof.Wire.MerkleProof
import LiabilityProof.Wire.Parameters
import LiabilityProof.Kzg.EitherGroup
import LiabilityProof.Kzg.InclusionProof
import LiabilityProof.Epoch.Round
import LiabilityProof.Server.Service
import LiabilityProof.Wire.Polynomial
import LiabilityProof.Epoch.LedgerFile
import LiabilityProof.Proofs.Curve.Bytes
import LiabilityProof.Proofs.Curve.GroupLaw
import LiabilityProof.Proofs.Curve.Groups
import LiabilityProof.Proofs.Epoch.ForeignEntries
import LiabilityProof.Proofs.Epoch.InclusionProof
import LiabilityProof.Proofs.Epoch.Publication
import LiabilityProof.Proofs.Field.Orders
import LiabilityProof.Proofs.Polynomial.Evaluation
import LiabilityProof.Proofs.Polynomial.Interpolation
import LiabilityProof.Proofs.Polynomial.Canonical
import LiabilityProof.Proofs.Kzg.Binding
import LiabilityProof.Proofs.Kzg.Capacity
import LiabilityProof.Proofs.Kzg.Commitment
import LiabilityProof.Proofs.Kzg.AcceptedProof
import LiabilityProof.Proofs.Kzg.DomainExponent
import LiabilityProof.Proofs.Ledger.Identity
import LiabilityProof.Proofs.Ledger.Representation
import LiabilityProof.Proofs.Ledger.Reading
import LiabilityProof.Proofs.Ledger.Separation
import LiabilityProof.Proofs.Server.Dispatches
import LiabilityProof.Proofs.Server.Events
import LiabilityProof.Proofs.Server.FailedRegistration
import LiabilityProof.Proofs.Server.Interleaving
import LiabilityProof.Proofs.Server.Refinement
import LiabilityProof.Proofs.SumTree.Acceptance
import LiabilityProof.Proofs.SumTree.Exchange
import LiabilityProof.Proofs.SumTree.Split
import LiabilityProof.Proofs.SumTree.Tree
import LiabilityProof.Proofs.Epoch.Loading
import LiabilityProof.Proofs.Epoch.SavedParameters
import LiabilityProof.Proofs.Server.Handover
import LiabilityProof.Proofs.Server.Verification
import LiabilityProof.Proofs.Wire.WrittenProof
