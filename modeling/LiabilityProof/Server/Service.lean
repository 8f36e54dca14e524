import LiabilityProof.Server.Exchange
import LiabilityProof.Server.Route
import LiabilityProof.Server.State
import LiabilityProof.Wire.MerkleProof

/-!
# Answering requests

Every request is answered by a function of the state, and leaves a state. A proof that was made
once is kept as a record and answered from it; a dispatch that succeeded is noted. Where a user
does not exist the answer is 404, where a proof does not verify 500, and where a commitment is
not accepted 502, each with the message of the failure. A sum tree proof that cannot be read is
answered with 400, and every one that can be read with whether it verifies.

Any other failure has no answer of its own; the server answers it with its own page of status
500, or hands it on to its caller if the settings say so. A problem with the request is answered
with a page of its own status, unless the settings count it among the failures. A request that
cannot be sent, or for a host that cannot be judged, fails before the server sees it.
-/

namespace LiabilityProof

namespace Service

/-- The answer for a round that is not registered. -/
def unknownRound (timestamp : Int) : Response :=
  .error 404 ("unknown round " ++ Text.ofInt timestamp)

/-- The timestamps of all rounds. -/
def listRounds (s : State) : Except Failure Response :=
  s.timestamps.map fun ts => .ok (.object [("rounds", .array ts)])

/-- The summary of a round. -/
def showRound (s : State) (timestamp : Int) : State × Except Failure Response :=
  match s.record (State.summaryKey (.integer timestamp)) with
  | (s, .error failure) => (s, .error failure)
  | (s, .ok summary) =>
    match s.round? (.integer timestamp), summary with
    | none, _ | some _, .null => (s, .ok (unknownRound timestamp))
    | some _, summary => (s, .ok (.ok summary))

/-- The proof of a user as a document. -/
def proofDocument (E : PairingGroups) (r : Round) (user : Int) : Except Failure Datum := do
  let proof ← r.inclusionProof E (.integer user)
  Wire.ofInclusionProof proof

/-- The response to a failure to make a proof, if it has one. -/
def proofFailure (failure : Failure) : Except Failure Response :=
  match failure.kind with
  | .outOfRange => .ok (.error 404 failure.message)
  | .selfCheck => .ok (.error 500 failure.message)
  | _ => .error failure

/-- The proof of a user made and kept. -/
def makeProof (E : PairingGroups) (s : State) (r : Round) (timestamp user : Int) :
    State × Except Failure Response :=
  match proofDocument E r user with
  | .error failure => (s, proofFailure failure)
  | .ok d =>
    let (s, written) := s.putRecord (State.proofKey (.integer timestamp) (.integer user)) d
    (s, written.map fun _ => .ok d)

/-- The proof of a user, made once and then answered from the records. -/
def proveUser (E : PairingGroups) (s : State) (timestamp user : Int) :
    State × Except Failure Response :=
  match s.round? (.integer timestamp) with
  | none => (s, .ok (unknownRound timestamp))
  | some r =>
    match s.record (State.proofKey (.integer timestamp) (.integer user)) with
    | (s, .error failure) => (s, .error failure)
    | (s, .ok .null) => makeProof E s r timestamp user
    | (s, .ok kept) => (s, .ok (.ok kept))

/-- The dispatch of the commitment of a round. -/
def dispatch (E : PairingGroups) (settings : Settings) (s : State) (timestamp : Int) :
    State × Except Failure Response :=
  match s.round? (.integer timestamp) with
  | none => (s, .ok (unknownRound timestamp))
  | some r =>
    let (r, outcome) := r.dispatch E settings.dispatchTimeout
    let s := s.setRound (.integer timestamp) r
    match outcome with
    | .ok _ =>
      let note := Datum.object [("dispatched", .bool true)]
      let (s, written) := s.putRecord (State.dispatchKey (.integer timestamp)) note
      (s, written.map fun _ =>
        .ok (.object [("timestamp", .integer timestamp), ("dispatched", .bool true)]))
    | .error failure =>
      if failure.kind = .dispatch then (s, failure.words.map (Response.error 502))
      else (s, .error failure)

/-- What is wrong with a sum tree proof, in the words of the answer. -/
def malformed (words : String) : Response :=
  .error 400 ("malformed merkle proof: " ++ words)

/-- The response to a failure to read a sum tree proof, if it has one. -/
def readingFailure (failure : Failure) : Except Failure Response :=
  match failure.kind with
  | .shape => .ok (malformed "TypeError")
  | .missingField | .value => .ok (malformed failure.message)
  | _ => .error failure

/-- Whether the sum tree proof in a document verifies. -/
def verifyDocument : Option Datum → Except Failure Response
  | some (.object fields) =>
    match Wire.merkleProof (.object fields) with
    | .ok p => p.verdict.map fun valid => .ok (.object [("valid", .bool valid)])
    | .error failure => readingFailure failure
  | _ => .ok (.error 400 "request body must be a JSON object")

/-- The document in the body of a request. A body that is read may be too large, and one of
nothing is not read. -/
def body (settings : Settings) (r : Request) : Except Failure (Option Datum) :=
  if Request.isJson r.contentType && !r.body.isEmpty then do
    if ← settings.refusesBody r.body.length then .error (.request .tooLarge)
    else r.document
  else .ok none

/-- Whether the sum tree proof in the body of a request verifies. -/
def verify (settings : Settings) (r : Request) : Except Failure Response := do
  verifyDocument (← body settings r)

/-- What is done on a route. -/
def perform (E : PairingGroups) (settings : Settings) (s : State) (r : Request) :
    Route Int → State × Except Failure Response
  | .rounds => (s, listRounds s)
  | .round timestamp => showRound s timestamp
  | .proof timestamp user => proveUser E s timestamp user
  | .dispatch timestamp => dispatch E settings s timestamp
  | .verification => (s, verify settings r)
  | .asset => (s, .error (.request .missing))

/-- What a request leads to, if it has an answer of its own; `problem` is what is wrong with its
host. -/
def answer (E : PairingGroups) (settings : Settings) (s : State) (r : Request) (t : Target)
    (problem : Option RequestProblem) : State × Except Failure Response :=
  match settings.sessionFault?, problem with
  | some failure, _ => (s, .error failure)
  | none, some problem => (s, .error (.request problem))
  | none, none =>
    match t.route r.method with
    | .ok route => perform E settings s r route
    | .error problem => (s, .error (.request problem))

/-- What becomes of a failure without an answer of its own. -/
def giveUp (settings : Settings) (failure : Failure) : Except Failure Response :=
  if settings.handsOnFailures then .error failure else .ok (.page 500)

/-- The page of the server's own for what has no answer of its own. -/
def settle (settings : Settings) : Except Failure Response → Except Failure Response
  | .ok response => .ok response
  | .error (.request problem) =>
    if settings.trapsProblem problem then giveUp settings (.request problem)
    else .ok (.page problem.status)
  | .error failure => giveUp settings failure

/-- Where a request goes, and what is wrong with its host. -/
def receive (settings : Settings) (r : Request) :
    Except Failure (Target × Option RequestProblem) := do
  let t ← Target.ofUrl settings r.target
  if r.breaksLine then .error .lineBreakInHeader
  else
    let problem ← t.hostProblem? settings
    pure (t, problem)

/-- The response to a request, or a failure handed on. -/
def respond (E : PairingGroups) (settings : Settings) (s : State) (r : Request) :
    State × Except Failure Response :=
  match receive settings r with
  | .error failure => (s, .error failure)
  | .ok (t, problem) =>
    let (s, result) := answer E settings s r t problem
    (s, settle settings result)

end Service

end LiabilityProof
