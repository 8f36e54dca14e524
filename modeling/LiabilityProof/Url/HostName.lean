import LiabilityProof.Text.Composition
import LiabilityProof.Text.Direction
import LiabilityProof.Url.Punycode

/-!
# Names of hosts

The name of a host consists of labels between full stops. A label has at least one character and at
most 63; only the last may be empty. `HostName.toAscii?` is the form in which a name is sent: a
label that has characters beyond ASCII is folded, and if that leaves it beyond ASCII, written as
`Punycode.encode` writes it, behind the mark `xn--`.

Some characters cannot be in a label: those of no use to a reader, and those of both directions
together. A label written from right to left starts and ends with a character of that direction.
-/

namespace LiabilityProof

namespace HostName

/-- Whether a character is one of ASCII. -/
def isAscii (c : Char) : Bool := decide (c.toNat < 128)

/-- The characters beyond ASCII that also part a name. -/
def wideStops : List Char := ['\u3002', '\uff0e', '\uff61']

/-- The closed ranges of code points that cannot be in a label: blanks, controls, private ones, and
those that are no characters. -/
def forbiddenRanges : List (Nat × Nat) :=
  [(0x0080, 0x009F), (0x06DD, 0x06DD), (0x070F, 0x070F), (0x1680, 0x1680), (0x180E, 0x180E),
   (0x200E, 0x200F), (0x2028, 0x202E), (0x2061, 0x2063), (0x206A, 0x206F), (0x2FF0, 0x2FFB),
   (0xE000, 0xF8FF), (0xFDD0, 0xFDEF), (0xFFF9, 0xFFFF), (0x1D173, 0x1D17A), (0x1FFFE, 0x1FFFF),
   (0x2FFFE, 0x2FFFF), (0x3FFFE, 0x3FFFF), (0x4FFFE, 0x4FFFF), (0x5FFFE, 0x5FFFF),
   (0x6FFFE, 0x6FFFF), (0x7FFFE, 0x7FFFF), (0x8FFFE, 0x8FFFF), (0x9FFFE, 0x9FFFF),
   (0xAFFFE, 0xAFFFF), (0xBFFFE, 0xBFFFF), (0xCFFFE, 0xCFFFF), (0xDFFFE, 0xDFFFF),
   (0xE0001, 0xE0001), (0xE0020, 0xE007F), (0xEFFFE, 0x10FFFF)]

/-- Whether the directions of a label's characters agree. -/
def hasOneDirection (label : List Char) : Bool :=
  !label.any Text.isRightToLeft ||
    (!label.any Text.isLeftToRight && label.head?.any Text.isRightToLeft &&
      label.getLast?.any Text.isRightToLeft)

/-- The form of a label in which it is compared, if it has one. -/
def prepared? (label : List Char) : Option (List Char) :=
  let label := Text.composed (Text.ordered (Text.folded label))
  if label.any (Text.isWithin forbiddenRanges) || !hasOneDirection label then none
  else some label

/-- A label that is not empty and not too long. -/
def sized? (label : List Char) : Option (List Char) :=
  if 0 < label.length ∧ label.length < 64 then some label else none

/-- What stands before a label written in digits. -/
def mark : List Char := "xn--".toList

/-- The form in which a label is sent. -/
def sentLabel? (label : List Char) : Option (List Char) :=
  if label.all isAscii then sized? label
  else do
    let label ← prepared? label
    if label.all isAscii then sized? label
    else if mark.isPrefixOf label then none
    else sized? (mark ++ Punycode.encode label)

/-- A name of ASCII whose labels have their sizes. -/
def asciiName? (name : List Char) : Option (List Char) :=
  let labels := Text.parts '.' name
  if labels.dropLast.all (fun label => (sized? label).isSome) &&
      labels.getLast?.all fun label => decide (label.length < 64)
    then some name else none

/-- A name beyond ASCII in the form that is sent. -/
def wideName? (name : List Char) : Option (List Char) := do
  let labels := Text.parts '.' (name.map fun c => if wideStops.contains c then '.' else c)
  let endsInStop := labels.getLast? = some []
  let sent ← (if endsInStop then labels.dropLast else labels).mapM sentLabel?
  pure (Text.joined '.' sent ++ if endsInStop then ['.'] else [])

/-- The form in which a name is sent, if it has one. -/
def toAscii? (name : List Char) : Option (List Char) :=
  if name.all isAscii then asciiName? name else wideName? name

end HostName

end LiabilityProof
