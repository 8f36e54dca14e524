import LiabilityProof.Text.Decimal
import LiabilityProof.Text.Encoding
import LiabilityProof.Text.Hex
import LiabilityProof.Text.Parts

/-!
# Paths of requests

The path of a request has the escapes `%XX` read as bytes and the bytes as UTF-8, with
replacements for what is not. It starts with one slash, and its segments are what stands between
slashes.
-/

namespace LiabilityProof

namespace Path

/-- The bytes that characters write, escapes read. A percent sign that starts no escape stands
for itself. -/
def bytes : List Char → List UInt8
  | '%' :: a :: b :: rest =>
    match Text.digitValue? 16 a, Text.digitValue? 16 b with
    | some high, some low => UInt8.ofNat (high * 16 + low) :: bytes rest
    | _, _ => Text.utf8 "%" ++ bytes (a :: b :: rest)
  | c :: rest => Text.utf8 (String.singleton c) ++ bytes rest
  | [] => []

/-- A path from one slash on, without escapes. -/
def unescaped (path : List Char) : List Char :=
  '/' :: (Text.repaired (bytes path)).dropWhile (· = '/')

/-- The parts behind the first slash. -/
def segments (path : List Char) : List (List Char) := (Text.parts '/' path).tail

/-- The path with every run of slashes made one. -/
def mergeSlashes : List Char → List Char
  | '/' :: '/' :: rest => mergeSlashes ('/' :: rest)
  | c :: rest => c :: mergeSlashes rest
  | [] => []

end Path

end LiabilityProof
