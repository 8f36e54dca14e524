import LiabilityProof.Field.Scalar
import LiabilityProof.Number.Double
import LiabilityProof.Table

/-!
# Untrusted values

A `Datum` is a value that came from outside: a body of a request, a stored document, a
setting, or a field of a proof nobody has checked yet. It has the shapes of a document format,
with integers and floating-point numbers kept apart, objects in the order in which they were
written, and, as one more leaf, field elements, which the fields of a proof may also hold.

Values inside the library have types of their own; a datum is what the readers of `Wire` turn
into them.

* `Datum.same` is equality across number kinds: `1`, `1.0` and `true` are one key of a table.
* `Datum.order?` compares numbers of any kind and texts with texts.
-/

namespace LiabilityProof

/-- A value from outside. -/
inductive Datum where
  | null
  | bool (b : Bool)
  | integer (n : Int)
  | double (x : Double)
  | text (s : String)
  | array (elements : List Datum)
  | object (fields : List (String × Datum))
  | scalar (a : Scalar)

namespace Datum

instance : Inhabited Datum := ⟨null⟩

/-- The integer that a value is where an integer is asked for: integers, and truth values as
one and zero. -/
def asInteger? : Datum → Option Int
  | bool b => some (if b then 1 else 0)
  | integer n => some n
  | _ => none

/-- The sum of a number of any kind and an integer; `none` if the value is no number. -/
def plus? : Datum → Int → Option Datum
  | double x, k => some (double (x.plus k))
  | d, k => d.asInteger?.map fun n => integer (n + k)

/-- Equality of two numbers of any kind; `none` if one of the values is no number. -/
def sameNumber? : Datum → Datum → Option Bool
  | double x, double y => some (x.same y)
  | double x, d => d.asInteger?.map fun k => x.compareInt? k == some .eq
  | d, double x => d.asInteger?.map fun k => x.compareInt? k == some .eq
  | d, d' => d.asInteger?.bind fun m => d'.asInteger?.map fun n => decide (m = n)

mutual

/-- Equality across number kinds, element by element; the order of an object's fields does not
matter. -/
def same : Datum → Datum → Bool
  | null, null => true
  | text s, text t => decide (s = t)
  | array xs, array ys => sameAll xs ys
  | object xs, object ys => decide (xs.length = ys.length) && sameFields xs ys
  | scalar a, scalar b => decide (a = b)
  | d, d' => (sameNumber? d d').getD false

/-- Equality of two lists of values. -/
def sameAll : List Datum → List Datum → Bool
  | [], [] => true
  | d :: ds, d' :: ds' => same d d' && sameAll ds ds'
  | _, _ => false

/-- Whether every field of the first list has its equal in the second. -/
def sameFields : List (String × Datum) → List (String × Datum) → Bool
  | [], _ => true
  | (name, d) :: rest, fields =>
    (match Table.lookup name fields with
      | some d' => same d d'
      | none => false) && sameFields rest fields

end

/-- Whether a value may be a key of a table: arrays, objects and field elements may not. -/
def isKey : Datum → Bool
  | array _ => false
  | object _ => false
  | scalar _ => false
  | _ => true

/-- The order of a value and an integer; `none` if the value is no number. The inner `none` is
the answer of what is no number of any size. -/
def compareInteger? : Datum → Int → Option (Option Ordering)
  | double x, k => some (x.compareInt? k)
  | d, k => d.asInteger?.map fun n => some (compare n k)

/-- The order of two numbers of any kind; `none` if one of the values is no number. The inner
`none` is the answer of what is no number of any size. -/
def compareNumbers? : Datum → Datum → Option (Option Ordering)
  | double x, double y => some (x.compare? y)
  | double x, d => d.asInteger?.map x.compareInt?
  | d, double y => d.asInteger?.map fun k => (y.compareInt? k).map Ordering.swap
  | d, d' => d.asInteger?.bind fun m => d'.asInteger?.map fun n => some (compare m n)

end Datum

end LiabilityProof
