import LiabilityProof.Failure
import LiabilityProof.Url.Basic
import LiabilityProof.Url.HostName

/-!
# Authorities

An authority is a host, with a user and perhaps a password before an at sign, and a port behind
a colon; a host with colons in it stands in brackets. `Authority.normal` writes one in the form
that is sent: the host in lower case and in ASCII, without brackets that it does not need, the port
as a number, and user and password with what is not allowed in them escaped.
-/

namespace LiabilityProof

namespace Authority

/-- The user and the password before the at sign. -/
def user? (authority : List Char) : Option (List Char × Option (List Char)) :=
  (Text.cutLast '@' authority).1.map (Text.cut ':')

/-- The host as it is written, and the port. -/
def hostAndPort (authority : List Char) : List Char × List Char :=
  let (_, info) := Text.cutLast '@' authority
  match Text.cut '[' info with
  | (_, some bracketed) =>
    let (host, behind) := Text.cut ']' bracketed
    (host, ((Text.cut ':' (behind.getD [])).2).getD [])
  | (_, none) =>
    let (host, port) := Text.cut ':' info
    (host, port.getD [])

/-- The host in lower case, the name of a zone as it is. -/
def host (authority : List Char) : List Char :=
  let (address, zone) := Text.cut '%' (hostAndPort authority).1
  address.map Char.toLower ++ (match zone with
    | some zone => '%' :: zone
    | none => [])

/-- The number of the port, if there is one. -/
def port? (authority : List Char) : Except UrlFault (Option Nat) :=
  match (hostAndPort authority).2 with
  | [] => .ok none
  | digits =>
    if Text.isDigits digits = false then .error (.badPort digits)
    else if Text.maxDigits < digits.length then .error (.longPort digits.length)
    else
      let n := Text.ofDigits 10 (digits.filterMap (Text.digitValue? 10))
      if 65535 < n then .error .portTooLarge else .ok (some n)

/-! ### Escapes -/

/-- Whether a character stands for itself in the name of a user. -/
def isPlain (c : Char) : Bool := c.isAlphanum || "_.-~%!$&'()*+,;=".toList.contains c

/-- The upper-case hexadecimal digit of a number below sixteen. -/
def escapeDigit (d : Nat) : Char :=
  if d < 10 then Char.ofNat (48 + d) else Char.ofNat (55 + d)

/-- A text with the characters that are not plain written as escapes of their bytes. -/
def escape (cs : List Char) : List Char :=
  cs.flatMap fun c =>
    if isPlain c then [c]
    else
      (String.singleton c).toUTF8.data.toList.flatMap fun b =>
        ['%', escapeDigit (b.toNat / 16), escapeDigit (b.toNat % 16)]

/-! ### The form that is sent -/

/-- The host in the form that is sent. -/
def normalHost (authority : List Char) : Except Failure (List Char) :=
  match HostName.toAscii? (host authority) with
  | none => .error .badLabel
  | some name => .ok (if name.contains ':' then '[' :: name ++ [']'] else name)

/-- What stands before the host in the form that is sent. -/
def normalUser : Option (List Char × Option (List Char)) → List Char
  | none => []
  | some (name, none) => escape name ++ ['@']
  | some (name, some password) => escape name ++ ':' :: escape password ++ ['@']

/-- An authority in the form that is sent. -/
def normal (authority : List Char) : Except Failure (List Char) := do
  let name ← normalHost authority
  let number ← (port? authority).mapError Failure.url
  let port := match number with
    | some n => ':' :: Text.decimal n
    | none => []
  pure (normalUser (user? authority) ++ name ++ port)

end Authority

end LiabilityProof
