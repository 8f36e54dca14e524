import LiabilityProof.Text.Decimal
import LiabilityProof.Text.Digit
import LiabilityProof.Text.Quoted

/-!
# Bytes as hexadecimal text

Bytes are written as pairs of lower-case digits after the mark `0x`. Reading accepts both
cases, blanks between the pairs, and a text without the mark; what it refuses, it refuses with
the position of the first character that does not fit.

`bigEndian` writes a number as a fixed number of bytes, most significant first, and
`ofBigEndian` reads any number of bytes back.
-/

namespace LiabilityProof

namespace Text

/-- Two hexadecimal digits for each byte. -/
def hexBytes (bytes : List UInt8) : List Char :=
  bytes.flatMap fun b => [hexDigit (b.toNat / 16), hexDigit (b.toNat % 16)]

/-- The written form of bytes. -/
def ofBytes (bytes : List UInt8) : String :=
  String.ofList ('0' :: 'x' :: hexBytes bytes)

/-- The bytes of a run of digit pairs that starts at `position`, or the position of the first
character that does not fit. -/
def readPairs (position : Nat) : List Char → Except Nat (List UInt8)
  | [] => .ok []
  | c :: rest =>
    if isAsciiBlank c then readPairs (position + 1) rest
    else
      match digitValue? 16 c with
      | none => .error position
      | some high =>
        match rest with
        | [] => .error (position + 1)
        | d :: rest' =>
          match digitValue? 16 d with
          | none => .error (position + 1)
          | some low =>
            (readPairs (position + 2) rest').map (UInt8.ofNat (high * 16 + low) :: ·)

/-- The bytes that a text without mark writes. A character beyond ASCII is refused before all
else. -/
def readHex (cs : List Char) : Except Nat (List UInt8) :=
  match cs.findIdx? fun c => decide (127 < c.toNat) with
  | some position => .error position
  | none => readPairs 0 cs

/-- A text without the mark `0x` it may start with. -/
def dropMark : List Char → List Char
  | '0' :: 'x' :: rest => rest
  | cs => cs

/-- The last `width` bytes of a number, most significant first. -/
def bigEndian : Nat → Nat → List UInt8
  | 0, _ => []
  | width + 1, n => bigEndian width (n / 256) ++ [UInt8.ofNat (n % 256)]

/-- The number that bytes write, most significant first. -/
def ofBigEndian (bytes : List UInt8) : Nat :=
  bytes.foldl (fun acc b => acc * 256 + b.toNat) 0

/-- The UTF-8 bytes of a string. -/
def utf8 (s : String) : List UInt8 := s.toUTF8.data.toList

/-- The hexadecimal numeral of a number, without leading zeros, after the mark. -/
def hexNumeral (n : Nat) : String :=
  String.ofList ('0' :: 'x' :: Nat.toDigits 16 n)

end Text

end LiabilityProof
