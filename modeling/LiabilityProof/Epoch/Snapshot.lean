import LiabilityProof.Curve.Bytes
import LiabilityProof.Epoch.Schedule
import LiabilityProof.Kzg.InclusionProof
import LiabilityProof.Kzg.Setup
import LiabilityProof.Ledger.Entry

/-!
# Snapshots

A snapshot ties the columns and the entries of one epoch to a set-up. Its shape is checked once,
when it is made: the columns are as many as the circuit's, the users fit into its rows, every
entry has a balance for each currency, and every column has a degree below the number of rows.
That the columns are those of the entries is not checked.

The commitment of a snapshot is the bytes of the commitments to its columns. The proof of a user
is the bytes of the openings of all columns at the point `ω ^ i` of the user's row, each of them
verified before it is handed out; a column whose value there is not the one claimed by the
entry makes the proof fail.
-/

namespace LiabilityProof

namespace Snapshot

/-- Why an entry does not fit the number of currencies. -/
def entryMismatch? (currencies : Datum) (e : Entry) : Option Failure :=
  if (Datum.integer e.balances.length).same currencies then none
  else
    some (.showing [e.username, currencies]
      (.balanceCount e.username e.balances.length currencies))

/-- Why one of the columns, counted from `j`, does not fit the number of rows. -/
def degreeMismatch? (rows : Nat) : Nat → List Poly → Option Failure
  | _, [] => none
  | j, f :: fs =>
    if f.degree < rows then degreeMismatch? rows (j + 1) fs
    else some (.columnDegree j f.degree rows)

/-- Why columns and entries do not fit a set-up. -/
def mismatch? (columns : List Poly) (entries : List Entry) (setup : TrustedSetup) :
    Option Failure :=
  let rows := setup.domain.size
  if (Datum.integer columns.length).same setup.columns = false then
    some (.showing [setup.columns] (.columnCount columns.length setup.columns))
  else if rows < entries.length then some (.tooManyUsers entries.length (.integer rows))
  else
    match entries.findSome? (entryMismatch? setup.currencies) with
    | some failure => some failure
    | none => degreeMismatch? rows 0 columns

end Snapshot

/-- The columns and entries of an epoch, tied to a set-up. -/
structure Snapshot where
  /-- The column of identities, and one column for each currency. -/
  columns : List Poly
  /-- The entries; that of index `i` has the row `i`. -/
  entries : List Entry
  /-- The set-up. -/
  setup : TrustedSetup
  /-- How the columns of a row are opened. -/
  schedule : Schedule
  /-- The columns and the entries fit the set-up. -/
  fits : Snapshot.mismatch? columns entries setup = none

namespace Snapshot

/-- The snapshot of columns and entries, if they fit the set-up. -/
def make (columns : List Poly) (entries : List Entry) (setup : TrustedSetup)
    (schedule : Schedule) : Except Failure Snapshot :=
  match h : mismatch? columns entries setup with
  | some failure => .error failure
  | none => .ok ⟨columns, entries, setup, schedule, h⟩

/-- The number of columns. -/
def width (s : Snapshot) : Nat := s.columns.length

/-- The commitments to the columns. -/
def columnCommitments (E : PairingGroups) (s : Snapshot) : Except Failure (List G1Point) :=
  s.columns.mapM fun f => Kzg.commit E f s.setup.parameters.key

/-- What is handed to the signer: the commitments to the columns as bytes. -/
def commitment (E : PairingGroups) (s : Snapshot) : Except Failure (List UInt8) :=
  (s.columnCommitments E).map fun points => points.flatMap G1.toBytes

/-- The point of a user's row. -/
def challenge (s : Snapshot) (user : Datum) : Except Failure Scalar :=
  user.exponent.map s.setup.domain.point

/-- The member of a list at a position; negative positions count from the end. -/
def memberAt? {α : Type} (xs : List α) (i : Int) : Option α :=
  if 0 ≤ i then xs[i.toNat]?
  else if 0 ≤ xs.length + i then xs[(xs.length + i).toNat]?
  else none

/-- The value that an entry claims for a column. -/
def claimedValue (e : Entry) (column : Datum) : Except Failure Scalar :=
  if column.same (.integer 0) then e.identity.map Scalar.encode
  else
    match column.asInteger? with
    | some j =>
      match memberAt? e.balances (j - 1) with
      | some b => .ok (Scalar.encode b)
      | none => .error .pastTheEnd
    | none => .error .wrongShape

/-- The column of an index, which has to lie within the width and to be whole. -/
def column (s : Snapshot) (column : Datum) : Except Failure Poly :=
  match column.compareInteger? 0, column.compareInteger? s.width with
  | some low, some high =>
    if low.any (· ≠ .lt) && high == some .lt then
      match column.asInteger?.bind fun j => s.columns[j.toNat]? with
      | some f => .ok f
      | none => .error .wrongShape
    else .error (.showing [column] (.columnOutOfRange column s.width))
  | _, _ => .error .wrongShape

/-- The bytes of the opening of a column at the point of a user's row, which has to be
verified. -/
def openColumnAt (E : PairingGroups) (s : Snapshot) (user : Datum) (point : Except Failure Scalar)
    (e : Entry) (column : Datum) : Except Failure (List UInt8) := do
  let f ← s.column column
  let commitment ← Kzg.commit E f s.setup.parameters.key
  let point ← point
  let value ← claimedValue e column
  let opening ← Kzg.openAt E f point value s.setup.provingKey.key
  let accepted ← Kzg.verify E commitment opening point value s.setup.verifyingKey.powers2
  if accepted then pure (G1.toBytes opening) else .error (.selfCheck user column)

/-- The bytes of the opening of a column at a user's row, where the row is not trusted. -/
def openColumn (E : PairingGroups) (s : Snapshot) (user : Datum) (e : Entry) (column : Datum) :
    Except Failure (List UInt8) :=
  s.openColumnAt E user (s.challenge user) e column

/-- The proof of the user at a row, with what the entry claims. The row is the position of an
entry, so that its power of the root is within reach. -/
def prove (E : PairingGroups) (s : Snapshot) (user : Nat) (e : Entry) :
    Except Failure InclusionProof :=
  let currencies : Int := s.width - 1
  if (e.balances.length : Int) ≠ currencies then
    .error (.showing [e.username]
      (.balanceCount e.username e.balances.length (.integer currencies)))
  else
    let point := s.setup.domain.point user
    (s.schedule.run s.width fun j =>
      s.openColumnAt E (.integer user) (.ok point) e (.integer j)).map fun openings =>
        ⟨openings.flatten, []⟩

/-- The proof of a user, with the claims of an entry list. The user's index is not trusted. -/
def inclusionProof (E : PairingGroups) (s : Snapshot) (user : Datum) (entries : List Entry) :
    Except Failure InclusionProof :=
  match user with
  | .integer i =>
    match (if 0 ≤ i then entries[i.toNat]? else none) with
    | none => .error (.showing [user] (.userOutOfRange i entries.length))
    | some e => s.prove E i.toNat e
  | other => .error (.showing [other] (.userNotInteger other))

end Snapshot

end LiabilityProof
