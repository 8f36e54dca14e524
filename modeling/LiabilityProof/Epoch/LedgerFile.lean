import LiabilityProof.Epoch.Round
import LiabilityProof.Ledger.Columns
import LiabilityProof.Ledger.Csv

/-!
# Rounds of ledger files

A ledger file and a parameter file make a round: the columns are computed from the entries, so
the snapshot's entries are those that were committed to.
-/

namespace LiabilityProof

/-- The ledger in a file. -/
def Ledger.ofFile (dir : Directory) (path : String) : Except Failure Ledger := do
  let file ← dir.find path
  Ledger.readBytes path file.toBytes

/-- The round of a ledger file on the parameters of another. -/
def Round.ofLedgerFile (dir : Directory) (ledgerPath : String) (parametersPath : Datum)
    (signer : Signer) (timestamp : Datum) : Except Failure Round := do
  let ledger ← Ledger.ofFile dir ledgerPath
  let currencies := Datum.integer ledger.currencies.length
  let setup ← TrustedSetup.ofFile dir parametersPath currencies
  let columns ← Columns.polynomials ledger.entries currencies setup.domain
  ofSetup signer columns ledger.entries setup timestamp .inTurn

end LiabilityProof
