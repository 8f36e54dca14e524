import LiabilityProof.Failure
import LiabilityProof.Json.Reader
import LiabilityProof.Text.Encoding

/-!
# Requests and responses

A request has a method, a target, and a body with a content type. The body is bytes, and is taken
for a document only if the content type is that of JSON, `application/json` or
`application/…+json`, in any case and with any parameters; a body that is no text or no document
is nothing, but one of values inside values to no end is a failure.

A response has a status and, unless it is one of the server's own pages, a document.
-/

namespace LiabilityProof

/-- The methods of requests. -/
inductive Method where
  | get
  | post
deriving DecidableEq

/-- A request. -/
structure Request where
  /-- What is to be done. -/
  method : Method
  /-- To what. -/
  target : String
  /-- The type of the body. -/
  contentType : String
  /-- The bytes of the body. -/
  body : List UInt8

/-- A response. -/
structure Response where
  /-- The status. -/
  status : Nat
  /-- The document; the server's own pages have none. -/
  body : Option Datum

namespace Request

/-- Whether a character may stand around a media type. -/
def isPadding (c : Char) : Bool := c = ' ' || c = '\t'

/-- A media type without its parameters, in lower case. -/
def mediaType (contentType : String) : List Char :=
  let cs := contentType.toList.takeWhile (· ≠ ';')
  let trimmed := ((cs.dropWhile isPadding).reverse.dropWhile isPadding).reverse
  trimmed.map Char.toLower

/-- Whether a content type is that of JSON. -/
def isJson (contentType : String) : Bool :=
  let type := mediaType contentType
  type = "application/json".toList ||
    ("application/".toList.isPrefixOf type && "+json".toList.isSuffixOf type)

/-- Whether the header of a request would run over its line. -/
def breaksLine (r : Request) : Bool :=
  r.contentType.toList.any fun c => c = '\r' || c = '\n'

/-- The document that a text is, if it is one. -/
def documentOf (cs : List Char) : Except Failure (Option Datum) :=
  match Json.read .standard cs with
  | .ok d => .ok (some d)
  | .error .tooDeep => .error .tooDeep
  | .error _ => .ok none

/-- The document that the body of a request is, if it is one. -/
def document (r : Request) : Except Failure (Option Datum) :=
  if isJson r.contentType then ((Text.Encoding.read? r.body).map documentOf).getD (.ok none)
  else .ok none

end Request

namespace RequestProblem

/-- The status of the page that tells of a problem. -/
def status : RequestProblem → Nat
  | untrustedHost | noStream => 400
  | badHost | missing => 404
  | otherMethod => 405
  | redirected => 308
  | tooLarge => 413

end RequestProblem

namespace Response

/-- A document. -/
def ok (d : Datum) : Response := ⟨200, some d⟩

/-- An error with a message. -/
def error (status : Nat) (message : String) : Response :=
  ⟨status, some (.object [("error", .text message)])⟩

/-- A page of the server's own. -/
def page (status : Nat) : Response := ⟨status, none⟩

end Response

end LiabilityProof
