import LiabilityProof.Json.Reader
import LiabilityProof.Wire.Integer

/-!
# Settings

Settings are values under names. There are defaults; variables of the environment whose names
start with `SOLVENCY_` come on top of them, and settings given in the call on top of those. A
variable is read as a document, or kept as its text if it is none; two underscores in its name
lead into an object, which is made when it is missing. One more variable decides the default of
`DEBUG`.

Most of the defaults are there for their names alone: nothing leads into a setting that is no
object.
-/

namespace LiabilityProof

/-- Values under names, the names distinct. -/
structure Settings where
  /-- The values. -/
  fields : List (String × Datum)

namespace Settings

/-- The settings of the framework that requests are served by, where nothing else is said. -/
def general (debug : Bool) : List (String × Datum) :=
  [("DEBUG", .bool debug),
   ("TESTING", .bool false),
   ("PROPAGATE_EXCEPTIONS", .null),
   ("SECRET_KEY_FALLBACKS", .null),
   ("PERMANENT_SESSION_LIFETIME", .integer 2678400),
   ("USE_X_SENDFILE", .bool false),
   ("TRUSTED_HOSTS", .null),
   ("SERVER_NAME", .null),
   ("APPLICATION_ROOT", .text "/"),
   ("SESSION_COOKIE_NAME", .text "session"),
   ("SESSION_COOKIE_DOMAIN", .null),
   ("SESSION_COOKIE_PATH", .null),
   ("SESSION_COOKIE_HTTPONLY", .bool true),
   ("SESSION_COOKIE_SECURE", .bool false),
   ("SESSION_COOKIE_PARTITIONED", .bool false),
   ("SESSION_COOKIE_SAMESITE", .null),
   ("SESSION_REFRESH_EACH_REQUEST", .bool true),
   ("MAX_CONTENT_LENGTH", .null),
   ("MAX_FORM_MEMORY_SIZE", .integer 500000),
   ("MAX_FORM_PARTS", .integer 1000),
   ("SEND_FILE_MAX_AGE_DEFAULT", .null),
   ("TRAP_BAD_REQUEST_ERRORS", .null),
   ("TRAP_HTTP_EXCEPTIONS", .bool false),
   ("EXPLAIN_TEMPLATE_LOADING", .bool false),
   ("PREFERRED_URL_SCHEME", .text "http"),
   ("TEMPLATES_AUTO_RELOAD", .null),
   ("MAX_COOKIE_SIZE", .integer 4093),
   ("PROVIDE_AUTOMATIC_OPTIONS", .bool true)]

/-- The settings of this server, where nothing else is said. -/
def own : List (String × Datum) :=
  [("SECRET_KEY", .text "key"),
   ("DB_PATH", .text "db.json"),
   ("PARAMS_PATH", .null),
   ("ENTRIES_CSV", .null),
   ("DISPATCH_TIMEOUT", .double (.ofDecimal false 30 0))]

/-- The settings where nothing else is said. -/
def defaults (debug : Bool) : Settings := ⟨general debug ++ own⟩

/-- The value of a setting; nothing if it was never set. -/
def get (s : Settings) (name : String) : Datum := (Table.lookup name s.fields).getD .null

/-- The settings with those of a list on top. -/
def override (s : Settings) (fields : List (String × Datum)) : Settings :=
  ⟨fields.foldl (fun fs f => Table.insert f.1 f.2 fs) s.fields⟩

/-! ### The environment -/

/-- Whether a text could end early. -/
def hasNull (text : String) : Bool := text.toList.contains '\x00'

/-- The value of a variable, which has to be a text under a name that a variable can have. -/
def checked (name : String) : Datum → Except Failure String
  | .text value =>
    if hasNull name || hasNull value then .error .embeddedNull
    else if name.toList.contains '=' then .error .badVariableName
    else if name.isEmpty then .error (.file .noName name)
    else .ok value
  | _ => .error .wrongShape

/-- The environment with the given variables. -/
def environment (exported : List (String × Datum)) : Except Failure (List (String × String)) :=
  exported.mapM fun v => (checked v.1 v.2).map fun value => (v.1, value)

/-- The values of a variable that switch off what it names, in lower case. -/
def refusals : List String := ["", "0", "false", "no"]

/-- Whether an environment asks for the help of those who look for faults. -/
def asksForDebug (environment : List (String × String)) : Bool :=
  match Table.lookup "FLASK_DEBUG" environment with
  | some value => !refusals.contains (String.ofList (value.toList.map Char.toLower))
  | none => false

/-- What the names of variables start with. -/
def mark : List Char := "SOLVENCY_".toList

/-- The value that the text of a variable writes. -/
def readValue (value : String) : Datum :=
  match Json.read .standard value.toList with
  | .ok d => d
  | .error _ => .text value

/-- The parts of a name between double underscores: the first, and those after it. -/
def splitName : List Char → List Char × List (List Char)
  | '_' :: '_' :: rest =>
    let (part, parts) := splitName rest
    ([], part :: parts)
  | c :: rest =>
    let (part, parts) := splitName rest
    (c :: part, parts)
  | [] => ([], [])

/-- The fields with a value put where a name leads. Only objects can be led into. -/
def assign (value : Datum) (part : String) :
    List String → List (String × Datum) → Except Failure (List (String × Datum))
  | [], fields => .ok (Table.insert part value fields)
  | next :: parts, fields =>
    match (Table.lookup part fields).getD (.object []) with
    | .object inner => do
      let inner ← assign value next parts inner
      pure (Table.insert part (.object inner) fields)
    | _ => .error .wrongShape

/-- The settings with a variable on top. -/
def addVariable (s : Settings) (name : List Char) (value : String) : Except Failure Settings :=
  let (part, parts) := splitName name
  (assign (readValue value) (String.ofList part) (parts.map String.ofList) s.fields).map Settings.mk

/-- The settings with the variables of an environment on top, in the order of their names. -/
def addEnvironment (s : Settings) (environment : List (String × String)) :
    Except Failure Settings :=
  let ours := environment.filter fun v => mark.isPrefixOf v.1.toList
  let sorted := ours.mergeSort fun v w => decide (v.1 ≤ w.1)
  sorted.foldlM (fun s v => s.addVariable (v.1.toList.drop mark.length) v.2) s

/-- The settings under the variables of an environment, with those given in the call. -/
def make (exported given : List (String × Datum)) : Except Failure Settings := do
  let exported ← environment exported
  let s ← (defaults (asksForDebug exported)).addEnvironment exported
  pure (s.override given)

/-! ### Uses -/

/-- Where the records are kept: a path, or nothing for memory. -/
def recordPath (s : Settings) : Datum := s.get "DB_PATH"

/-- How long a signer is waited for. -/
def dispatchTimeout (s : Settings) : Datum := s.get "DISPATCH_TIMEOUT"

/-- Whether a failure without an answer is handed to the caller of the server. -/
def handsOnFailures (s : Settings) : Bool :=
  match s.get "PROPAGATE_EXCEPTIONS" with
  | .null => (s.get "TESTING").isPresent || (s.get "DEBUG").isPresent
  | d => d.isPresent

/-- Whether a problem with a request counts as a failure without an answer. -/
def trapsProblem (s : Settings) (p : RequestProblem) : Bool :=
  (s.get "TRAP_HTTP_EXCEPTIONS").isPresent ||
    ((s.get "TRAP_BAD_REQUEST_ERRORS").isPresent && (p = .untrustedHost || p = .noStream))

/-- Whether a body of some bytes is larger than bodies may be. -/
def refusesBody (s : Settings) (bytes : Nat) : Except Failure Bool :=
  match s.get "MAX_CONTENT_LENGTH" with
  | .null => .ok false
  | limit =>
    match limit.compareInteger? bytes with
    | some order => .ok (order == some .lt)
    | none => .error .wrongShape

/-- Why no session can be opened: with a key for its signature, its other keys have to be a
sequence and the name of its cookie has to be the key of a table. -/
def sessionFault? (s : Settings) : Option Failure :=
  let others := s.get "SECRET_KEY_FALLBACKS"
  if (s.get "SECRET_KEY").isPresent = false then none
  else if others.isPresent && others.elements.toOption.isNone then some .wrongShape
  else if (s.get "SESSION_COOKIE_NAME").isKey then none
  else some .wrongShape

end Settings

end LiabilityProof
