import LiabilityProof.Text.Decimal
import LiabilityProof.Text.Parts

/-!
# Addresses of hosts

An address of the fourth version is four decimal numbers below 256 without leading zeros. One of
the sixth is eight groups of at most four hexadecimal digits; the last two may be written as an
address of the fourth, one run of zero groups may be left out between two colons, and the name
of a zone may follow a percent sign.
-/

namespace LiabilityProof

namespace Address

/-- Whether a part is a number of an address of the fourth version. -/
def isOctet (part : List Char) : Bool :=
  !part.isEmpty && part.all Text.isAsciiDigit && decide (part.length ≤ 3) &&
    (part.head? != some '0' || part.length == 1) &&
    decide (Text.ofDigits 10 (part.filterMap (Text.digitValue? 10)) ≤ 255)

/-- Whether a text is an address of the fourth version. -/
def isFourth (cs : List Char) : Bool :=
  let octets := Text.parts '.' cs
  octets.length == 4 && octets.all isOctet

/-- Whether a part is a group of an address of the sixth version. -/
def isGroup (part : List Char) : Bool :=
  !part.isEmpty && decide (part.length ≤ 4) && part.all fun c => (Text.digitValue? 16 c).isSome

/-- The groups of an address of the sixth version with an address of the fourth in their end
counted as the two groups it is, if it is one. -/
def spellOut (groups : List (List Char)) : Option (List (List Char)) :=
  match groups.getLast? with
  | some last =>
    if last.contains '.' then
      if isFourth last then some (groups.dropLast ++ [['0'], ['0']]) else none
    else some groups
  | none => none

/-- Whether the groups on one side of the run that is left out are groups. The side may be
empty, which is written as one empty part. -/
def isSide (side : List (List Char)) : Bool := side == [[]] || side.all isGroup

/-- How many groups a side has. -/
def sideLength (side : List (List Char)) : Nat := if side == [[]] then 0 else side.length

/-- Whether parts between colons, of which there are at least three, are an address of the sixth
version: eight groups, or fewer around an empty part inside. -/
def areGroups (groups : List (List Char)) : Bool :=
  let inner := groups.tail.dropLast
  match inner.findIdx? List.isEmpty with
  | none => groups.length == 8 && groups.all isGroup
  | some i =>
    let before := groups.take (i + 1)
    let behind := groups.drop (i + 2)
    inner.count [] == 1 && isSide before && isSide behind &&
      decide (sideLength before + sideLength behind ≤ 7)

/-- Whether a text is an address of the sixth version. -/
def isSixth (cs : List Char) : Bool :=
  let (address, zone) := Text.cut '%' cs
  let groups := Text.parts ':' address
  (match zone with
    | none => true
    | some zone => !zone.isEmpty && !zone.contains '%') &&
  decide (3 ≤ groups.length) &&
  (match spellOut groups with
    | some groups => decide (groups.length ≤ 9) && areGroups groups
    | none => false)

/-- Whether a text that starts with a `v` names a version and an address of it. -/
def isVersioned (cs : List Char) : Bool :=
  match Text.cut '.' (cs.drop 1) with
  | (version, some rest) =>
    !version.isEmpty && (version.all fun c => (Text.digitValue? 16 c).isSome) &&
      !rest.isEmpty && !rest.contains '\n'
  | (_, none) => false

end Address

end LiabilityProof
