import LiabilityProof.Failure

/-!
# Integers and sequences in untrusted values

Two readers of integers. `Datum.toInteger` is the lenient one, for values that only have to
amount to an integer: a floating-point number is cut off and a text is read as a numeral.
`Datum.unsigned` is the strict one, for values that cross the boundary: a natural number, as an
integer or as a run of ASCII digits, and nothing else.

The rest is how a reader takes a value apart: as a sequence, at a position, or by a name. A text
is the sequence of its characters and an object that of its names.
-/

namespace LiabilityProof

namespace Datum

/-- The integer a value amounts to. -/
def toInteger : Datum → Except Failure Int
  | bool b => .ok (if b then 1 else 0)
  | integer n => .ok n
  | double .nan => .error .notANumber
  | double x => (x.truncate?.map Except.ok).getD (.error .tooWide)
  | text s => (Text.readInteger 10 s).mapError .numeral
  | scalar a => .ok a.val
  | _ => .error .wrongShape

/-- The natural number a value is: a non-negative integer, or a run of ASCII digits. -/
def unsigned : Datum → Except Failure Nat
  | integer (.ofNat n) => .ok n
  | integer n => .error (.showing [integer n] (.negative n))
  | text s =>
    let cs := s.toList
    if Text.isDigits cs then
      if Text.maxDigits < cs.length then .error (.numeral (.tooManyDigits cs.length))
      else .ok (Text.ofDigits 10 (cs.filterMap (Text.digitValue? 10)))
    else .error (.notUnsigned (text s))
  | d => .error (.showing [d] (.notUnsigned d))

/-- The residue of a value that has to be an integer or a field element already. -/
def residue : Datum → Except Failure Scalar
  | scalar a => .ok a
  | d =>
    match d.asInteger? with
    | some n => .ok (Residue.ofInt n)
    | none => .error .wrongShape

/-- The residue of the integer that a value amounts to. -/
def reduced (d : Datum) : Except Failure Scalar := d.toInteger.map Residue.ofInt

/-- What is wrong with a text where a number is asked for. Before it is refused for its shape, it
is taken for a template in which the given numbers are written, one after the other. -/
def refusal (template : List Char) : List Nat → Failure
  | [] => .wrongShape
  | n :: rest =>
    match Template.fill n template with
    | .error fault => .template fault
    | .ok (some filled) => refusal filled rest
    | .ok none => .wrongShape

/-- The natural number by which a value multiplies a point. Numbers are reduced by the order of
the groups; what is not whole then is taken as repeated halving takes it. -/
def multiplier : Datum → Except Failure Nat
  | scalar a => .ok a.val
  | double x =>
    (((x.modulo? groupOrder).bind Double.halves?).map Except.ok).getD (.error .notANumber)
  | text s => .error (refusal s.toList [groupOrder, 2])
  | d =>
    match d.asInteger? with
    | some n => .ok (n % groupOrder).toNat
    | none => .error .wrongShape

/-- The binary digits that an exponent can have: it is halved down to one, and no further than
to this depth. -/
def maxExponentBits : Nat := 994

/-- The exponent that a number is. Halving never brings a negative one to an end. -/
def checkedExponent (isNegative : Bool) (n : Nat) : Except Failure Nat :=
  if isNegative || decide (Nat.pow 2 maxExponentBits ≤ n) then .error .tooDeep else .ok n

/-- The natural number that a value is as an exponent. What is not whole is taken as repeated
halving takes it; of field elements, only zero and one are exponents. -/
def exponent : Datum → Except Failure Nat
  | scalar a => if a.val ≤ 1 then .ok a.val else .error .notSupported
  | double x =>
    match x.halves? with
    | some n => checkedExponent (x.compareInt? 0 == some .lt) n
    | none => .error .notANumber
  | text s => .error (refusal s.toList [2])
  | d =>
    match d.asInteger? with
    | some n => checkedExponent (decide (n < 0)) n.natAbs
    | none => .error .wrongShape

/-- The order of a field element and a value: field elements by their least members, and
integers as they are, without being reduced. -/
def compareScalar (a : Scalar) : Datum → Except Failure Ordering
  | scalar b => .ok (compare a.val b.val)
  | d =>
    match d.asInteger? with
    | some n => .ok (compare (a.val : Int) n)
    | none => .error .wrongShape

/-- The field element a value is, never a reduced one: a field element, or an integer that is
the least non-negative member of its class. -/
def canonical : Datum → Except Failure Scalar
  | scalar a => .ok a
  | integer n =>
    if Scalar.fits n then .ok (Residue.ofInt n)
    else .error (.showing [integer n] (.outsideField n))
  | d => .error (.showing [d] (.notFieldElement d))

/-- Whether a number lies in the range of the field's least members. -/
def fitsField (d : Datum) : Except Failure Bool :=
  match d.compareInteger? 0, d.compareInteger? groupOrder with
  | some low, some high => .ok ((low == some .eq || low == some .gt) && high == some .lt)
  | _, _ => .error .wrongShape

/-- The members of a value read as a sequence. -/
def elements : Datum → Except Failure (List Datum)
  | array xs => .ok xs
  | text s => .ok (s.toList.map fun c => text (String.singleton c))
  | object fields => .ok (fields.map fun f => text f.1)
  | _ => .error .wrongShape

/-- The member at a position. An object has none, for its names are texts. -/
def item (i : Nat) : Datum → Except Failure Datum
  | array xs => (xs[i]?.map Except.ok).getD (.error .pastTheEnd)
  | text s =>
    (s.toList[i]?.map fun c => Except.ok (text (String.singleton c))).getD (.error .pastTheEnd)
  | object _ => .error (.missingField (integer i))
  | _ => .error .wrongShape

/-- The value under a name. -/
def field (name : String) : Datum → Except Failure Datum
  | object fields =>
    ((Table.lookup name fields).map Except.ok).getD (.error (.missingField (text name)))
  | _ => .error .wrongShape

/-- Whether a text occurs in another. -/
def occurs (needle : List Char) : List Char → Bool
  | [] => needle.isEmpty
  | c :: cs => needle.isPrefixOf (c :: cs) || occurs needle cs

/-- Whether a name occurs in a value: among an object's names, among an array's elements, or
inside a text. -/
def mentions (name : String) : Datum → Except Failure Bool
  | object fields => .ok (Table.lookup name fields).isSome
  | array xs => .ok (xs.any fun d => d.same (text name))
  | text s => .ok (occurs name.toList s.toList)
  | _ => .error .wrongShape

/-- Whether a value counts as present: nothing, zero, and empty texts, arrays and objects do
not. -/
def isPresent : Datum → Bool
  | null => false
  | bool b => b
  | integer n => decide (n ≠ 0)
  | double x => !x.same (.finite false 0 0)
  | text s => !s.isEmpty
  | array xs => !xs.isEmpty
  | object fields => !fields.isEmpty
  | scalar _ => true

end Datum

end LiabilityProof
