import LiabilityProof.Epoch.Round
import LiabilityProof.Storage.RecordFile

/-!
# The state of the server

The server keeps the rounds that were registered, each under its timestamp, and records: values
under keys. A registered round has its summary under `round.T`, the proofs that were made of it
under `proof.T.i`, and, once its commitment was accepted, a note under `dispatch.T`.

The records are kept in memory or in a file of the directory that the server runs in. In memory
nothing can happen to them; in a file, every look at them and every change can fail.

Registration and the answer to a proof request are made of steps that other requests may come
between; each of them has a name here.

* Registration: `dropProofs`, `setRound`, and the record of the summary.
* A proof: `round?`, `record`, the round's own `inclusionProof`, and `putRecord`.

A key shows a timestamp, and with a proof a user. A registration comes to its first key in
`dropProofs`, which fails for a timestamp that cannot be shown, and what a request asks for has
numbers that were read from digits; so the other keys are only made of values that can be shown.
-/

namespace LiabilityProof

/-! ### Records in memory -/

namespace Records

/-- The value under a key; nothing if there is none. -/
def find (key : Datum) : List (Datum × Datum) → Datum
  | [] => .null
  | (k, d) :: rest => if k.same key then d else find key rest

/-- The records with a value put under a key: in its place, or at the end. -/
def put (key d : Datum) : List (Datum × Datum) → List (Datum × Datum)
  | [] => [(key, d)]
  | (k, old) :: rest => if k.same key then (key, d) :: rest else (k, old) :: put key d rest

/-- Whether a key starts with a text; only texts do. -/
def isMarked (mark : Datum) : Datum → Except Failure Bool
  | .text key =>
    match mark with
    | .text mark => .ok (mark.toList.isPrefixOf key.toList)
    | _ => .error .wrongShape
  | _ => .error .noSuchProperty

/-- The records whose keys do not start with a text. -/
def drop (mark : Datum) : List (Datum × Datum) → Except Failure (List (Datum × Datum))
  | [] => .ok []
  | (k, d) :: rest => do
    let marked ← isMarked mark k
    let kept ← drop mark rest
    pure (if marked then kept else (k, d) :: kept)

end Records

/-- Where records are kept. -/
inductive Records where
  /-- In memory, under keys no two of which are equal. -/
  | memory (rows : List (Datum × Datum))
  /-- In a file. -/
  | file (f : RecordFile)

/-- What the server keeps. -/
structure State where
  /-- The rounds by their timestamps, no two of which are equal. -/
  rounds : List (Datum × Round)
  /-- The records. -/
  records : Records
  /-- The files of the directory that the server runs in. -/
  directory : Directory

namespace State

/-- No rounds, and no records in memory. -/
def empty : State := ⟨[], .memory [], .empty⟩

/-- The state at the start: records are kept in memory, or in a file that is made if it is not
there. -/
def start (dir : Directory) : Datum → Except Failure State
  | .null => .ok ⟨[], .memory [], dir⟩
  | path => do
    let name ← dir.place (← Directory.pathOf path)
    let file := (dir.get? name).getD .empty
    pure ⟨[], .file (.ofName name), dir.put name file⟩

/-! ### Records -/

/-- The key of a round's summary. -/
def summaryKey (timestamp : Datum) : Datum := .text ("round." ++ timestamp.display)

/-- What the keys of a round's proofs start with. -/
def proofMark (timestamp : Datum) : String := "proof." ++ timestamp.display ++ "."

/-- The key of a proof. -/
def proofKey (timestamp user : Datum) : Datum := .text (proofMark timestamp ++ user.display)

/-- The key of the note that a commitment was accepted. -/
def dispatchKey (timestamp : Datum) : Datum := .text ("dispatch." ++ timestamp.display)

/-- The data of the first of some rows; nothing if there is none. -/
def firstData : List Datum → Datum
  | .object fields :: _ => (Table.lookup "data" fields).getD .null
  | _ => .null

/-- The record under a key; nothing if there is none. -/
def record (s : State) (key : Datum) : State × Except Failure Datum :=
  match s.records with
  | .memory rows => (s, .ok (Records.find key rows))
  | .file f =>
    let (f, result) := f.search s.directory key
    ({ s with records := .file f }, result.map firstData)

/-- The state with a record put under a key. -/
def putRecord (s : State) (key d : Datum) : State × Except Failure Unit :=
  match s.records with
  | .memory rows => ({ s with records := .memory (Records.put key d rows) }, .ok ())
  | .file f =>
    let (f, directory, result) := f.put s.directory key d
    ({ s with records := .file f, directory }, result)

/-- The state without the records whose keys start with a text. -/
def dropRecords (s : State) (mark : Datum) : State × Except Failure Unit :=
  match s.records with
  | .memory rows =>
    match Records.drop mark rows with
    | .ok kept => ({ s with records := .memory kept }, .ok ())
    | .error failure => (s, .error failure)
  | .file f =>
    let (f, directory, result) := f.remove s.directory mark
    ({ s with records := .file f, directory }, result)

/-! ### Rounds -/

/-- The round under a timestamp in a list. -/
def findRound (timestamp : Datum) : List (Datum × Round) → Option Round
  | [] => none
  | (t, r) :: rest => if t.same timestamp then some r else findRound timestamp rest

/-- The list with a round put under a timestamp, where an equal timestamp keeps its spelling. -/
def insertRound (timestamp : Datum) (round : Round) :
    List (Datum × Round) → List (Datum × Round)
  | [] => [(timestamp, round)]
  | (t, r) :: rest =>
    if t.same timestamp then (t, round) :: rest else (t, r) :: insertRound timestamp round rest

/-- The round registered under a timestamp. -/
def round? (s : State) (timestamp : Datum) : Option Round := findRound timestamp s.rounds

/-- The state without the proofs of a timestamp, which has to be one that can be shown. -/
def dropProofs (s : State) (timestamp : Datum) : State × Except Failure Unit :=
  match timestamp.obstacle? with
  | some obstacle => (s, .error (.ofObstacle obstacle))
  | none => s.dropRecords (.text (proofMark timestamp))

/-- The state with a round registered under a timestamp. -/
def setRound (s : State) (timestamp : Datum) (round : Round) : State :=
  { s with rounds := insertRound timestamp round s.rounds }

/-- What is published of a round. -/
def summary (E : PairingGroups) (r : Round) : Except Failure Datum :=
  (r.snapshot.commitment E).map fun bytes =>
    .object
      [("timestamp", r.timestamp),
       ("n_users", .integer r.snapshot.entries.length),
       ("n_currencies", .integer ((r.snapshot.width : Int) - 1)),
       ("commitment", Wire.ofBytes bytes)]

/-- The last step of a registration: the record of the summary, which is given back. -/
def recordSummary (E : PairingGroups) (s : State) (r : Round) : State × Except Failure Datum :=
  match summary E r with
  | .ok d =>
    let (s, written) := s.putRecord (summaryKey r.timestamp) d
    (s, written.map fun _ => d)
  | .error failure => (s, .error failure)

/-- Registers a round, and gives its summary. The proofs of an earlier round are dropped first;
a summary that cannot be computed or recorded leaves the round registered without one. -/
def register (E : PairingGroups) (s : State) (r : Round) : State × Except Failure Datum :=
  match s.dropProofs r.timestamp with
  | (s, .error failure) => (s, .error failure)
  | (s, .ok ()) =>
    if r.timestamp.isKey then (s.setRound r.timestamp r).recordSummary E r
    else (s, .error .wrongShape)

/-- The order of two timestamps, if they have one: numbers among themselves and texts among
themselves. -/
def precedes? : Datum → Datum → Option Bool
  | .text a, .text b => some (decide (a < b))
  | a, b => (Datum.compareNumbers? a b).map (· == some .lt)

/-- Whether all neighbours of a list have an order. -/
def comparable : List Datum → Bool
  | a :: b :: rest => (precedes? a b).isSome && comparable (b :: rest)
  | _ => true

/-- The timestamps in their order, if they have one. -/
def timestamps (s : State) : Except Failure (List Datum) :=
  let keys := s.rounds.map Prod.fst
  if comparable keys then
    .ok (keys.mergeSort fun a b => !((precedes? b a).getD false))
  else .error .wrongShape

end State

end LiabilityProof
