import LiabilityProof.Server.Exchange
import LiabilityProof.Server.Target

/-!
# Routes

The table of what can be asked for:

* `GET /rounds`, the timestamps of the registered rounds;
* `GET /rounds/<timestamp>`, the summary of a round;
* `GET /rounds/<timestamp>/proofs/<user>`, the proof of a user;
* `POST /rounds/<timestamp>/dispatch`, the dispatch of a commitment;
* `POST /merkle/verify`, the verification of a sum tree proof.

Timestamps and users are runs of decimal digits of any script. Everything under `/static` is a
file, and none of them exists. A path that would be one of these with its runs of slashes made
one is redirected, and a path of this form asked for with the other method, or for a stream, is
refused as such. There is nothing under a number of too many digits, although its path has the
right form.
-/

namespace LiabilityProof

/-- What can be asked for, where `N` is how numbers are given. -/
inductive Route (N : Type) where
  /-- The timestamps of all rounds. -/
  | rounds
  /-- The summary of a round. -/
  | round (timestamp : N)
  /-- The proof of a user. -/
  | proof (timestamp user : N)
  /-- The dispatch of a commitment. -/
  | dispatch (timestamp : N)
  /-- The verification of a sum tree proof. -/
  | verification
  /-- A file that is served as it is; there are none. -/
  | asset

namespace Route

/-- The method of a route. -/
def method {N : Type} : Route N → Method
  | dispatch _ | verification => .post
  | _ => .get

/-- The route with its numbers read. -/
def mapNumbers? {N M : Type} (f : N → Option M) : Route N → Option (Route M)
  | rounds => some rounds
  | round timestamp => (f timestamp).map round
  | proof timestamp user => (f timestamp).bind fun t => (f user).map (proof t)
  | dispatch timestamp => (f timestamp).map dispatch
  | verification => some verification
  | asset => some asset

/-- Whether a part of a path is a number. -/
def isNumber (part : List Char) : Bool :=
  !part.isEmpty && part.all fun c => (Text.decimalDigit? c).isSome

/-- The number that a part of a path is. -/
def readNumber? (part : List Char) : Option Int :=
  (Text.readInteger 10 (String.ofList part)).toOption

/-- Whether segments are the name of a file: it does not start with a slash, and has one
line. -/
def isFileName (segments : List (List Char)) : Bool :=
  match Text.joined '/' segments with
  | [] => false
  | c :: rest => c ≠ '/' && !rest.contains '\n'

/-- The route with the given segments. -/
def ofSegments? : List (List Char) → Option (Route (List Char))
  | [] => none
  | first :: rest =>
    if first = "rounds".toList then
      match rest with
      | [] => some rounds
      | [t] => if isNumber t then some (round t) else none
      | [t, verb] =>
        if isNumber t && verb = "dispatch".toList then some (dispatch t) else none
      | [t, noun, i] =>
        if isNumber t && noun = "proofs".toList && isNumber i then some (proof t i) else none
      | _ => none
    else if first = "merkle".toList then
      if rest = ["verify".toList] then some verification else none
    else if first = "static".toList then if isFileName rest then some asset else none
    else none

/-- The route of a path. -/
def ofPath? (path : List Char) : Option (Route (List Char)) := ofSegments? (Path.segments path)

end Route

namespace Target

/-- What a request for a stream or a response meets at a route. -/
def atRoute (t : Target) (method : Method) (route : Route (List Char)) : Option RequestProblem :=
  if route.method ≠ method then some .otherMethod
  else if t.isStream then some .noStream
  else none

/-- The route of a request. -/
def route (t : Target) (method : Method) : Except RequestProblem (Route Int) :=
  match Route.ofPath? t.path with
  | some route =>
    match t.atRoute method route with
    | some problem => .error problem
    | none => ((route.mapNumbers? Route.readNumber?).map .ok).getD (.error .missing)
  | none =>
    match Route.ofPath? (Path.mergeSlashes t.path) with
    | some route => .error ((t.atRoute method route).getD .redirected)
    | none => .error .missing

end Target

end LiabilityProof
