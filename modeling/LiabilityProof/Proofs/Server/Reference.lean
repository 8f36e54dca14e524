import LiabilityProof.Server.Service

/-!
# A server without records

The reference server keeps nothing but the rounds, each under its timestamp, and computes whatever
it is asked for: the timestamps in their order, the summary of a round, the proof of a user. It
receives requests and sends its answers as the server does.

A server lives through a list of events: registrations of rounds, and requests of any kind, for
whatever target and with whatever outcome.
-/

namespace LiabilityProof

/-! ### Events -/

/-- A round with an integer for its timestamp. -/
structure NumberedRound where
  /-- The round. -/
  round : Round
  /-- Its timestamp. -/
  number : Int
  timestamp_eq : round.timestamp = .integer number

/-- What a server meets. -/
inductive Event where
  /-- A round is registered. -/
  | registration (r : NumberedRound)
  /-- A request is answered. -/
  | request (q : Request)

namespace Service

/-- The state after an event. -/
def step (E : PairingGroups) (settings : Settings) (s : State) : Event → State
  | .registration r => (s.register E r.round).1
  | .request q => (respond E settings s q).1

/-- The state after a list of events. -/
def run (E : PairingGroups) (settings : Settings) (s : State) (events : List Event) : State :=
  events.foldl (step E settings) s

/-- Every registration among the events gives a summary. -/
def Completes (E : PairingGroups) (settings : Settings) : State → List Event → Prop
  | _, [] => True
  | s, event :: events =>
    (∀ r, event = .registration r → ∃ d, (s.register E r.round).2 = .ok d) ∧
      Completes E settings (step E settings s event) events

end Service

/-! ### The reference -/

namespace Reference

/-- The rounds after an event, the last that was registered under each timestamp. -/
def step (rounds : List (Int × Round)) : Event → List (Int × Round)
  | .registration r => Table.insert r.number r.round rounds
  | .request _ => rounds

/-- The rounds after a list of events. -/
def run (events : List Event) : List (Int × Round) := events.foldl step []

/-- The timestamps of all rounds in their order. -/
def listRounds (rounds : List (Int × Round)) : Response :=
  .ok (.object [("rounds", .array ((rounds.map Prod.fst).mergeSort.map .integer))])

variable (E : PairingGroups) (settings : Settings) (rounds : List (Int × Round))

/-- The answer for a timestamp that no round has. -/
def noRound (timestamp : Int) : Response :=
  .error 404 ("unknown round " ++ Text.ofInt timestamp)

/-- The summary of a round. -/
def showRound (timestamp : Int) : Except Failure Response :=
  match Table.lookup timestamp rounds with
  | none => .ok (noRound timestamp)
  | some r => (State.summary E r).map .ok

/-- The proof of a user. A user who is not there is not found, and a proof that does not verify is
the server's own failure. -/
def proveUser (timestamp user : Int) : Except Failure Response :=
  match Table.lookup timestamp rounds with
  | none => .ok (noRound timestamp)
  | some r =>
    match Service.proofDocument E r user with
    | .ok d => .ok (.ok d)
    | .error failure =>
      if failure.kind = .outOfRange then .ok (.error 404 failure.message)
      else if failure.kind = .selfCheck then .ok (.error 500 failure.message)
      else .error failure

/-- What is found on a route; the others are not there to be read. -/
def perform : Route Int → Except Failure Response
  | .rounds => .ok (listRounds rounds)
  | .round timestamp => showRound E rounds timestamp
  | .proof timestamp user => proveUser E rounds timestamp user
  | .asset => .error (.request .missing)
  | .dispatch _ | .verification => .error (.request .otherMethod)

/-- What a request leads to. -/
def answer (r : Request) (t : Target) (problem : Option RequestProblem) :
    Except Failure Response :=
  match settings.sessionFault?, problem with
  | some failure, _ => .error failure
  | none, some problem => .error (.request problem)
  | none, none =>
    match t.route r.method with
    | .ok route => perform E rounds route
    | .error problem => .error (.request problem)

/-- The response to a request, or a failure handed on. -/
def respond (r : Request) : Except Failure Response :=
  match Service.receive settings r with
  | .error failure => .error failure
  | .ok (t, problem) => Service.settle settings (answer E settings rounds r t problem)

end Reference

end LiabilityProof
