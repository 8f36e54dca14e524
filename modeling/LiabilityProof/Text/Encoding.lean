/-!
# Encodings of texts

Bytes write a text in units of one, two or four bytes. A mark in front of them tells the units and
their order, and is no part of the text. Without a mark the text of a document starts with two
characters of ASCII, so the zeros among its first bytes tell them (`Encoding.detect`).

Halves of pairs that stand alone make no text, in any of the encodings.

`repaired` reads UTF-8 that may have faults: every byte that starts no character becomes the
replacement character.
-/

namespace LiabilityProof

namespace Text

/-- The units of an encoding, and whether the low byte of a unit comes first. -/
inductive Encoding where
  | utf8
  | utf16 (lowFirst : Bool)
  | utf32 (lowFirst : Bool)
deriving DecidableEq

namespace Encoding

/-- The mark that may stand in front of a text: the byte order mark in units of the encoding. -/
def mark : Encoding → List UInt8
  | utf8 => [0xEF, 0xBB, 0xBF]
  | utf16 false => [0xFE, 0xFF]
  | utf16 true => [0xFF, 0xFE]
  | utf32 false => [0, 0, 0xFE, 0xFF]
  | utf32 true => [0xFF, 0xFE, 0, 0]

/-- The encodings by their marks. The mark of the widest units comes first, for it starts with
that of another. -/
def marked : List Encoding := [utf32 false, utf32 true, utf16 false, utf16 true, utf8]

/-- The encoding of a document without a mark. -/
def ofZeros : List UInt8 → Encoding
  | [0, _] => utf16 false
  | [_, 0] => utf16 true
  | a :: b :: c :: d :: _ =>
    if a = 0 then if b = 0 then utf32 false else utf16 false
    else if b = 0 then if c = 0 ∧ d = 0 then utf32 true else utf16 true
    else utf8
  | _ => utf8

/-- The encoding of a document. -/
def detect (bytes : List UInt8) : Encoding :=
  (marked.find? fun e => e.mark.isPrefixOf bytes).getD (ofZeros bytes)

/-- The bytes of a text without the mark in front of them. -/
def dropMark (e : Encoding) (bytes : List UInt8) : List UInt8 :=
  if e.mark.isPrefixOf bytes then bytes.drop e.mark.length else bytes

/-- The units of two bytes. -/
def units16 (lowFirst : Bool) : List UInt8 → Option (List Nat)
  | [] => some []
  | a :: b :: rest =>
    let unit := if lowFirst then a.toNat + 256 * b.toNat else 256 * a.toNat + b.toNat
    (units16 lowFirst rest).map (unit :: ·)
  | [_] => none

/-- The characters of units of two bytes, of which two halves make one. -/
def pairHalves : List Nat → Option (List Char)
  | [] => some []
  | u :: rest =>
    if 0xD800 ≤ u ∧ u < 0xDC00 then
      match rest with
      | v :: rest' =>
        if 0xDC00 ≤ v ∧ v < 0xE000 then
          (pairHalves rest').map
            (Char.ofNat (0x10000 + (u - 0xD800) * 0x400 + (v - 0xDC00)) :: ·)
        else none
      | [] => none
    else if 0xDC00 ≤ u ∧ u < 0xE000 then none
    else (pairHalves rest).map (Char.ofNat u :: ·)

/-- The characters of units of four bytes. -/
def units32 (lowFirst : Bool) : List UInt8 → Option (List Char)
  | [] => some []
  | a :: b :: c :: d :: rest =>
    let bytes := if lowFirst then [d, c, b, a] else [a, b, c, d]
    let unit := bytes.foldl (fun n byte => 256 * n + byte.toNat) 0
    if unit.isValidChar then (units32 lowFirst rest).map (Char.ofNat unit :: ·) else none
  | _ => none

/-- The characters that bytes without a mark write. -/
def decode? (bytes : List UInt8) : Encoding → Option (List Char)
  | utf8 => (String.fromUTF8? ⟨bytes.toArray⟩).map String.toList
  | utf16 lowFirst => (units16 lowFirst bytes).bind pairHalves
  | utf32 lowFirst => units32 lowFirst bytes

/-- The characters of a document. -/
def read? (bytes : List UInt8) : Option (List Char) :=
  let e := detect bytes
  e.decode? (e.dropMark bytes)

end Encoding

/-- The first character of bytes in UTF-8, and how many bytes it takes. -/
def firstChar? (bytes : List UInt8) : Option (Char × Nat) :=
  [1, 2, 3, 4].findSome? fun n =>
    let start := bytes.take n
    if start.length < n then none
    else
      (String.fromUTF8? ⟨start.toArray⟩).bind fun s => s.toList.head?.map fun c => (c, n)

/-- The characters of the bytes that are left, at most `fuel` of them. -/
def repairedFrom : Nat → List UInt8 → List Char
  | 0, _ => []
  | _, [] => []
  | fuel + 1, b :: rest =>
    match firstChar? (b :: rest) with
    | some (c, n) => c :: repairedFrom fuel ((b :: rest).drop n)
    | none => '\ufffd' :: repairedFrom fuel rest

/-- The characters of bytes in UTF-8, a replacement for each byte that is part of none. -/
def repaired (bytes : List UInt8) : List Char := repairedFrom bytes.length bytes

end Text

end LiabilityProof
