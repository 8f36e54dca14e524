import LiabilityProof.Text.Decimal

/-!
# Blanks and decimal digits

Two character classes that numerals are made of. A *blank* is a space of any script or one of
the control characters that move the print position; a *decimal digit* is one of the ten
digits of a script that writes numbers positionally. Digits of one script are consecutive, so
the table lists the zeros.
-/

namespace LiabilityProof

namespace Text

/-- The blanks of ASCII. -/
def isAsciiBlank (c : Char) : Bool :=
  c = ' ' || (decide (9 ≤ c.toNat) && decide (c.toNat ≤ 13))

/-- The code points of the blanks beyond ASCII. -/
def wideBlanks : List Nat :=
  [0x0085, 0x00A0, 0x1680, 0x2000, 0x2001, 0x2002, 0x2003, 0x2004, 0x2005, 0x2006, 0x2007,
   0x2008, 0x2009, 0x200A, 0x2028, 0x2029, 0x202F, 0x205F, 0x3000]

/-- The code points of the digit zero of each script. -/
def zeroDigits : List Nat :=
  [0x0030, 0x0660, 0x06F0, 0x07C0, 0x0966, 0x09E6, 0x0A66, 0x0AE6, 0x0B66, 0x0BE6, 0x0C66,
   0x0CE6, 0x0D66, 0x0DE6, 0x0E50, 0x0ED0, 0x0F20, 0x1040, 0x1090, 0x17E0, 0x1810, 0x1946,
   0x19D0, 0x1A80, 0x1A90, 0x1B50, 0x1BB0, 0x1C40, 0x1C50, 0xA620, 0xA8D0, 0xA900, 0xA9D0,
   0xA9F0, 0xAA50, 0xABF0, 0xFF10, 0x104A0, 0x10D30, 0x11066, 0x110F0, 0x11136, 0x111D0, 0x112F0,
   0x11450, 0x114D0, 0x11650, 0x116C0, 0x11730, 0x118E0, 0x11950, 0x11C50, 0x11D50, 0x11DA0,
   0x16A60, 0x16AC0, 0x16B50, 0x1D7CE, 0x1D7D8, 0x1D7E2, 0x1D7EC, 0x1D7F6, 0x1E140, 0x1E2F0,
   0x1E950, 0x1FBF0]

/-- The value of a decimal digit of any script. -/
def decimalDigit? (c : Char) : Option Nat :=
  (zeroDigits.find? fun z => decide (z ≤ c.toNat) && decide (c.toNat ≤ z + 9)).map
    (c.toNat - ·)

/-- A character as numerals see it: beyond ASCII, a blank is a space, a digit is the ASCII digit
of its value, and all else is a question mark, which no numeral holds. -/
def plain (c : Char) : Char :=
  if c.toNat < 128 then c
  else if wideBlanks.contains c.toNat then ' '
  else match decimalDigit? c with
    | some d => digitChar d
    | none => '?'

end Text

end LiabilityProof
