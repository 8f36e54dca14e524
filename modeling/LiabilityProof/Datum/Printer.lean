import LiabilityProof.Datum.Basic
import LiabilityProof.Number.Shortest
import LiabilityProof.Text.Quoted
import LiabilityProof.Text.Decimal

/-!
# Values in messages

How a value is spelled when a message shows it. `Datum.shown` quotes texts and
`Datum.display` gives a text as itself; inside arrays and objects texts are always quoted.

A double has the fewest digits that read back; it is positional from `0.0001` up to, and not
including, `1e16`, always with a digit after the point, and otherwise has a power of ten of at
least two digits.
-/

namespace LiabilityProof

namespace Double

/-- The digits of a decimal without its trailing zeros, and the place of its point. -/
def digitsAndPoint (c : Nat) (x : Int) : List Char × Int :=
  let digits := Text.decimal c
  let point := (digits.length : Int) + x
  ((digits.reverse.dropWhile (· = '0')).reverse, point)

/-- The spelling of the positive decimal with the given digits, whose point stands after
`point` of them. -/
def spelled (digits : List Char) (point : Int) : List Char :=
  if -4 < point ∧ point ≤ 16 then
    if point ≤ 0 then '0' :: '.' :: List.replicate (-point).toNat '0' ++ digits
    else if (digits.length : Int) ≤ point then
      digits ++ List.replicate (point.toNat - digits.length) '0' ++ ['.', '0']
    else digits.take point.toNat ++ '.' :: digits.drop point.toNat
  else
    let power := point - 1
    let mantissa := match digits with
      | d :: e :: rest => d :: '.' :: e :: rest
      | _ => digits
    let size := Text.decimal power.natAbs
    let padded := if size.length < 2 then '0' :: size else size
    mantissa ++ 'e' :: (if power < 0 then '-' else '+') :: padded

/-- The text of a double. -/
def display : Double → String
  | finite negative m e =>
    let body :=
      if m = 0 then ['0', '.', '0']
      else
        let (c, x) := shortest m e
        let (digits, point) := digitsAndPoint c x
        spelled digits point
    String.ofList (if negative then '-' :: body else body)
  | infinite negative => if negative then "-inf" else "inf"
  | nan => "nan"

end Double

namespace Datum

mutual

/-- The spelling of a value, texts between quotes. -/
def shown : Datum → String
  | null => "None"
  | bool b => if b then "True" else "False"
  | integer n => Text.ofInt n
  | double x => x.display
  | text s => Text.quote s
  | array xs => "[" ++ shownElements xs ++ "]"
  | object fields => "\x7b" ++ shownFields fields ++ "\x7d"
  | scalar a => Text.ofNat a.val

/-- The spellings of the elements of an array, with commas between them. -/
def shownElements : List Datum → String
  | [] => ""
  | [d] => shown d
  | d :: rest => shown d ++ ", " ++ shownElements rest

/-- The spellings of the fields of an object, with commas between them. -/
def shownFields : List (String × Datum) → String
  | [] => ""
  | [(name, d)] => Text.quote name ++ ": " ++ shown d
  | (name, d) :: rest => Text.quote name ++ ": " ++ shown d ++ ", " ++ shownFields rest

end

/-- The spelling of a value, a text as itself. -/
def display : Datum → String
  | text s => s
  | d => shown d

/-- The name of a value's shape. -/
def shape : Datum → String
  | null => "NoneType"
  | bool _ => "bool"
  | integer _ => "int"
  | double _ => "float"
  | text _ => "str"
  | array _ => "list"
  | object _ => "dict"
  | scalar _ => "FR"

end Datum

end LiabilityProof
