import LiabilityProof.Epoch.Signer
import LiabilityProof.Epoch.Snapshot
import LiabilityProof.Kzg.ParameterFile

/-!
# Rounds

A round is one epoch: a timestamp, a snapshot, and the signer to whom the commitment of the
snapshot is handed. It keeps what it handed over. Dispatching never changes the snapshot, and
whatever keeps the signer from accepting is reported as a failure of dispatch, if it can be put
into words; a commitment that cannot be computed is reported as what it is, before the signer is
called.
-/

namespace LiabilityProof

/-- An epoch. -/
structure Round where
  /-- What names the epoch. -/
  timestamp : Datum
  /-- The committed ledger. -/
  snapshot : Snapshot
  /-- Who puts the commitment on a ledger. -/
  signer : Signer
  /-- What was handed to the signer, in order. -/
  submissions : List Submission

namespace Round

/-- The number of currencies of a ledger: the balances of its first entry, or, without entries,
all columns but one. -/
def inferCurrencies (columns : List Poly) : List Entry → Datum
  | [] => .integer ((columns.length : Int) - 1)
  | e :: _ => .integer e.balances.length

/-- The round of columns and entries on a set-up. -/
def ofSetup (signer : Signer) (columns : List Poly) (entries : List Entry)
    (setup : TrustedSetup) (timestamp : Datum) (schedule : Schedule) : Except Failure Round := do
  let snapshot ← Snapshot.make columns entries setup schedule
  pure ⟨timestamp, snapshot, signer, []⟩

/-- The round of columns and entries on the parameters of a file. -/
def ofFile (signer : Signer) (columns : List Poly) (entries : List Entry) (dir : Directory)
    (path : Datum) (currencies : Option Datum) (timestamp : Datum) (schedule : Schedule) :
    Except Failure Round := do
  let currencies := currencies.getD (inferCurrencies columns entries)
  let setup ← TrustedSetup.ofFile dir path currencies
  ofSetup signer columns entries setup timestamp schedule

/-- The proof of a user, with the claims of the round's own entries. -/
def inclusionProof (E : PairingGroups) (r : Round) (user : Datum) :
    Except Failure InclusionProof :=
  r.snapshot.inclusionProof E user r.snapshot.entries

/-! ### Dispatch -/

/-- How a time limit in seconds bears on a submission. -/
inductive Limit where
  /-- There is time for the signer to answer. -/
  | ample
  /-- The time is up before the signer is called. -/
  | over
  /-- The limit is not one. -/
  | unusable (limit : Datum)
  /-- The limit lies beyond all clocks. -/
  | tooLarge

/-- What a time limit amounts to; there need not be one. -/
def limitOf : Datum → Limit
  | .null => .ample
  | d =>
    match d.compareInteger? 0 with
    | none => .unusable d
    | some (some .gt) | some none =>
      if d.asInteger?.any Double.isBeyond then .tooLarge else .ample
    | some _ => .over

/-- The receipt of a submission, or the failure it amounts to. -/
def outcome (timestamp timeout : Datum) : Verdict → Except Failure Datum
  | .accepted receipt => .ok receipt
  | .refused refusal (.ok reason) =>
    .error (.showing [timestamp] (.dispatchRefused timestamp refusal reason))
  | .refused _ (.error failure) => .error (.showing [timestamp] failure)
  | .failed (.ok reason) => .error (.dispatchFailed reason)
  | .failed (.error failure) => .error (.dispatchUnspoken failure)
  | .silent => .error (.showing [timestamp, timeout] (.dispatchTimedOut timestamp timeout))

/-- Hands the commitment to the signer. -/
def dispatch (E : PairingGroups) (r : Round) (timeout : Datum) : Round × Except Failure Datum :=
  match r.snapshot.commitment E with
  | .error failure => (r, .error failure)
  | .ok bytes =>
    match limitOf timeout with
    | .unusable limit => (r, .error (.showing [r.timestamp] (.dispatchLimit r.timestamp limit)))
    | .tooLarge => (r, .error (.showing [r.timestamp] (.dispatchLimitTooLarge r.timestamp)))
    | .over =>
      (r, .error (.showing [r.timestamp, timeout] (.dispatchTimedOut r.timestamp timeout)))
    | .ample =>
      let submission : Submission := ⟨bytes, r.timestamp⟩
      ({ r with submissions := r.submissions ++ [submission] },
        outcome r.timestamp timeout (r.signer r.submissions submission))

end Round

end LiabilityProof
