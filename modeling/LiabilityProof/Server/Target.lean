import LiabilityProof.Server.Path
import LiabilityProof.Server.Settings
import LiabilityProof.Url.Authority

/-!
# Targets of requests

The target of a request is a URL. What it does not say about where the request goes is filled in
from the settings: the scheme, the host, and the root of the server, which is not part of the
path. The path is split once more after that, and a third time when it is brought into the form
that is sent, so a path of many slashes or with more than one colon ends up shorter than it looks.

`Target.hostProblem?` is what a server has against the host it was asked for.
-/

namespace LiabilityProof

/-- Where a request goes. -/
structure Target where
  /-- The scheme. -/
  scheme : List Char
  /-- The host, with what stands before and behind it. -/
  host : List Char
  /-- The path, from one slash on and without escapes. -/
  path : List Char

namespace Target

/-- The URL that a text writes. -/
def urlOf (text : List Char) : Except Failure Url := (Url.split text).mapError .url

/-- The text of a setting in a URL. -/
def spelled (d : Datum) : List Char := d.display.toList

/-- The text, or another if it is empty. -/
def orElse (cs other : List Char) : List Char := if cs.isEmpty then other else cs

/-- The host that is meant where a URL names none. -/
def defaultHost (settings : Settings) : List Char :=
  let name := settings.get "SERVER_NAME"
  if name.isPresent then spelled name else "localhost".toList

/-- The root of the server without the slashes in front. -/
def root (settings : Settings) : Except Failure (List Char) :=
  match settings.get "APPLICATION_ROOT" with
  | .text root => .ok (root.toList.dropWhile (· = '/'))
  | _ => .error .noSuchProperty

/-- The text of the base of a URL: everything but its path. -/
def base (settings : Settings) (url : Url) : Except Failure (List Char) := do
  let root ← root settings
  let scheme := orElse url.scheme (spelled (settings.get "PREFERRED_URL_SCHEME"))
  let authority := orElse url.authority (defaultHost settings)
  pure (scheme ++ "://".toList ++ authority ++ '/' :: root)

/-- The path of a URL with its query. -/
def pathAndQuery (url : Url) : List Char :=
  if url.query.isEmpty then url.path else url.path ++ '?' :: url.query

/-- The path in the form that is sent. -/
def sentPath (path : List Char) : Except Failure (List Char) := do
  let url ← urlOf path
  let authority ← Authority.normal url.authority
  let scheme := if url.scheme.isEmpty then [] else url.scheme ++ [':']
  pure (scheme ++ Url.joinPath authority url.path)

/-- The scheme and the host in the form that is sent. -/
def sentBase (base : List Char) : Except Failure (List Char × List Char) := do
  let url ← urlOf base
  let authority ← Authority.normal url.authority
  match Url.bracketFault? authority with
  | some fault => .error (.url fault)
  | none =>
    if url.query.isEmpty && url.fragment.isEmpty then pure (url.scheme, authority)
    else .error (.url .notABase)

/-- Where a request for a URL goes. -/
def ofUrl (settings : Settings) (url : String) : Except Failure Target := do
  let outer ← urlOf url.toList
  let base ← base settings outer
  let inner ← urlOf (pathAndQuery outer)
  let path ← sentPath inner.path
  let (scheme, host) ← sentBase base
  pure ⟨scheme, host, Path.unescaped path⟩

/-! ### Hosts -/

/-- A host without the port that its scheme implies. -/
def withoutImpliedPort (scheme host : List Char) : List Char :=
  let port : List Char :=
    if scheme = "http".toList ∨ scheme = "ws".toList then ":80".toList
    else if scheme = "https".toList ∨ scheme = "wss".toList then ":443".toList
    else []
  if port.isSuffixOf host then host.take (host.length - port.length) else host

/-- A host and its port: what stands behind the brackets, or behind the first colon. -/
def splitPort (host : List Char) : List Char × List Char :=
  match host with
  | '[' :: _ =>
    let (address, behind) := Text.cut ']' host
    (address ++ (if behind.isSome then [']'] else []), behind.getD [])
  | _ => (host.takeWhile (· ≠ ':'), host.dropWhile (· ≠ ':'))

/-- Whether a character is a hexadecimal digit. -/
def isHex (c : Char) : Bool := (Text.digitValue? 16 c).isSome

/-- Whether a text is a host by its characters: letters, digits, stops and hyphens, or an address
with colons in brackets. -/
def isHost (host : List Char) : Bool :=
  match host with
  | '[' :: rest =>
    let (groups, behind) := Text.cut ':' rest.dropLast
    rest.getLast? == some ']' && groups.all isHex &&
      behind.any fun cs => !cs.isEmpty && cs.all fun c => isHex c || c = ':' || c = '.'
  | _ => !host.isEmpty && host.all fun c => c.isAlphanum || c = '.' || c = '-'

/-- Whether a text is nothing or a port: a number that does not start with a zero. -/
def isPort (port : List Char) : Bool :=
  match port with
  | [] => true
  | ':' :: digits => Text.isDigits digits && digits.head? != some '0'
  | _ => false

/-- Whether a text is a host, perhaps with a port, by its characters. -/
def isHostAndPort (host : List Char) : Bool :=
  let (name, port) := splitPort host
  isHost name && isPort port

/-- The name of a host that can be compared. -/
def comparable (host : List Char) : Except Failure (List Char) :=
  match HostName.toAscii? (splitPort host).1 with
  | some name => .ok name
  | none => .error .badLabel

/-- Whether a name is one of those that are trusted: a name of the list, or, where that starts
with a stop, one under it. -/
def isListed (name : List Char) : List Datum → Except Failure Bool
  | [] => .ok false
  | .text trusted :: rest => do
    let (isSuffix, trusted) := match trusted.toList with
      | '.' :: name => (true, name)
      | name => (false, name)
    let trusted ← comparable trusted
    if trusted = name || (isSuffix && ('.' :: trusted).isSuffixOf name) then pure true
    else isListed name rest
  | _ :: _ => .error .noSuchProperty

/-- Whether a host is trusted: every one is where none is listed. A text is a list of itself. -/
def isTrusted (host : List Char) (trusted : Datum) : Except Failure Bool :=
  if trusted.isPresent = false then .ok true
  else if isHostAndPort host = false then .ok false
  else
    let name := (splitPort host).1
    match trusted with
    | .text name' => isListed name [.text name']
    | trusted => do isListed name (← trusted.elements)

/-- The name under which the server takes itself to be asked. A host that is none by its
characters is no name. -/
def serverName (settings : Settings) (host : List Char) : Except Failure (List Char) :=
  match settings.get "SERVER_NAME" with
  | .null => .ok (if isHostAndPort host then host else [])
  | .text name => .ok name.toList
  | _ => .error .noSuchProperty

/-- What is wrong with the host that a request goes to. -/
def hostProblem? (settings : Settings) (t : Target) : Except Failure (Option RequestProblem) := do
  let host := withoutImpliedPort t.scheme t.host
  if ← isTrusted host (settings.get "TRUSTED_HOSTS") then
    let name ← serverName settings host
    pure (if (HostName.toAscii? (Text.cut ':' name).1).isSome then none else some .badHost)
  else pure (some .untrustedHost)

/-- Whether a request asks for a stream and not for a response. -/
def isStream (t : Target) : Bool := t.scheme = "ws".toList || t.scheme = "wss".toList

end Target

end LiabilityProof
