import LiabilityProof.Url.Address
import LiabilityProof.Url.Fault

/-!
# URLs

A URL is cut into a scheme before a colon, an authority behind two slashes, a path, a query
behind a question mark and a fragment behind a number sign; each but the path may be missing,
and is then empty. What could not be meant is left out first: controls and blanks in front, and
tabs and line breaks anywhere.

`Url.split` judges the authority alone: brackets come in pairs, around an address that is all of
the host, and no character may be another form of a delimiter.
-/

namespace LiabilityProof

/-- The parts of a URL. -/
structure Url where
  /-- What stands before the colon, in lower case. -/
  scheme : List Char
  /-- What stands behind two slashes. -/
  authority : List Char
  /-- The path. -/
  path : List Char
  /-- What stands behind the question mark. -/
  query : List Char
  /-- What stands behind the number sign. -/
  fragment : List Char

namespace Url

/-- Whether a character is a letter of ASCII. -/
def isLetter (c : Char) : Bool := c.isAlpha

/-- Whether a character can stand in a scheme. -/
def isSchemeChar (c : Char) : Bool := c.isAlphanum || c = '+' || c = '-' || c = '.'

/-- A text without what could not be meant. -/
def cleaned (text : List Char) : List Char :=
  (text.dropWhile fun c => decide (c.toNat ≤ 32)).filter fun c =>
    c ≠ '\t' && c ≠ '\r' && c ≠ '\n'

/-- The scheme of a text, and what follows its colon. -/
def splitScheme (cs : List Char) : List Char × List Char :=
  match Text.cut ':' cs with
  | (c :: rest, some behind) =>
    if isLetter c && (c :: rest).all isSchemeChar then ((c :: rest).map Char.toLower, behind)
    else ([], cs)
  | _ => ([], cs)

/-- Whether a character ends an authority. -/
def endsAuthority (c : Char) : Bool := c = '/' || c = '?' || c = '#'

/-- The authority of what follows a scheme, and the rest. -/
def splitAuthority : List Char → List Char × List Char
  | '/' :: '/' :: rest =>
    (rest.takeWhile fun c => !endsAuthority c, rest.dropWhile fun c => !endsAuthority c)
  | cs => ([], cs)

/-- What is wrong with the address of a host between brackets. -/
def addressFault? (address : List Char) : Option UrlFault :=
  if address.head? = some 'v' then
    if Address.isVersioned address then none else some .badVersion
  else if Address.isFourth address then some .needlessBrackets
  else if Address.isSixth address then none
  else some (.notAddress address)

/-- What is wrong with the host of an authority that has brackets: nothing but the port may stand
beside them, and they hold an address. Where the brackets stand before the at sign, the host
without them has to be one. -/
def hostFault? (host : List Char) : Option UrlFault :=
  match Text.cut '[' host with
  | ([], some bracketed) =>
    let (address, behind) := Text.cut ']' bracketed
    match behind.getD [] with
    | [] | ':' :: _ => addressFault? address
    | _ => some .loneBracket
  | (_, some _) => some .loneBracket
  | (_, none) => addressFault? (Text.cut ':' host).1

/-- What is wrong with the brackets of an authority. -/
def bracketFault? (authority : List Char) : Option UrlFault :=
  match authority.contains '[', authority.contains ']' with
  | false, false => none
  | true, true => hostFault? (Text.cutLast '@' authority).2
  | _, _ => some .loneBracket

/-- The code points beyond ASCII that are another form of a slash, a question mark, a number sign,
an at sign or a colon, or of something that has one in it. -/
def disguises : List Nat :=
  [0x2047, 0x2048, 0x2049, 0x2100, 0x2101, 0x2105, 0x2106, 0x2A74, 0xFE13, 0xFE16, 0xFE55,
   0xFE56, 0xFE5F, 0xFE6B, 0xFF03, 0xFF0F, 0xFF1A, 0xFF1F, 0xFF20]

/-- What is wrong with an authority. -/
def authorityFault? (authority : List Char) : Option UrlFault :=
  match bracketFault? authority with
  | some fault => some fault
  | none =>
    if authority.any fun c => disguises.contains c.toNat then some (.disguisedDelimiter authority)
    else none

/-- The parts of the URL that a text writes. -/
def split (text : List Char) : Except UrlFault Url :=
  let (scheme, afterScheme) := splitScheme (cleaned text)
  let (authority, afterAuthority) := splitAuthority afterScheme
  match authorityFault? authority with
  | some fault => .error fault
  | none =>
    let (beforeFragment, fragment) := Text.cut '#' afterAuthority
    let (path, query) := Text.cut '?' beforeFragment
    .ok ⟨scheme, authority, path, query.getD [], fragment.getD []⟩

/-- The text of a URL without query and fragment. A path that would be taken for an authority
has an empty one in front. -/
def joinPath (authority path : List Char) : List Char :=
  if authority.isEmpty && !"//".toList.isPrefixOf path then path
  else
    '/' :: '/' :: authority ++
      (if path.isEmpty || path.head? = some '/' then path else '/' :: path)

end Url

end LiabilityProof
