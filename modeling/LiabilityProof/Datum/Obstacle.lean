import LiabilityProof.Datum.Basic
import LiabilityProof.Text.Numeral

/-!
# Values that cannot be shown

A message, a key or a document spells its values out, and two things keep a value from being
spelled: an integer in it of more digits than a numeral may have, and arrays and objects that
stand inside each other too deeply, because every level takes one more call. The parts of a value
are spelled in their order, so the first one that cannot be spelled is what the attempt fails
with.

The stack of calls is bounded, and how much of it is taken when a value is spelled depends on who
asks. `Datum.maxDepth` is one number for messages and for the readers of documents: what a stack
of a thousand calls leaves for a value.
-/

namespace LiabilityProof

namespace Datum

/-- How many arrays and objects may stand inside each other. -/
def maxDepth : Nat := 980

/-- What keeps a value from being shown. -/
inductive Obstacle where
  /-- An integer in it has too many digits. -/
  | tooManyDigits
  /-- Arrays and objects stand inside each other too deeply. -/
  | tooDeep
deriving DecidableEq

mutual

/-- What keeps a value from being shown that may be `room` levels deep. -/
def obstacleWithin : Nat → Datum → Option Obstacle
  | _, integer n => if Text.isTooLong n then some .tooManyDigits else none
  | 0, array _ => some .tooDeep
  | 0, object _ => some .tooDeep
  | room + 1, array xs => obstacleAmong room xs
  | room + 1, object fields => obstacleInFields room fields
  | _, _ => none

/-- What keeps the elements of an array from being shown. -/
def obstacleAmong : Nat → List Datum → Option Obstacle
  | _, [] => none
  | room, d :: rest => (obstacleWithin room d).or (obstacleAmong room rest)

/-- What keeps the fields of an object from being shown. -/
def obstacleInFields : Nat → List (String × Datum) → Option Obstacle
  | _, [] => none
  | room, (_, d) :: rest => (obstacleWithin room d).or (obstacleInFields room rest)

end

/-- What keeps a value from being shown; `none` if nothing does. -/
def obstacle? (d : Datum) : Option Obstacle := obstacleWithin maxDepth d

/-- What has to be looked at of a number that a message shows, where it is known to be short unless
it is negative: it is no larger than a short number or than the number of some things that are
there. -/
def ifNegative : Datum → List Datum
  | integer (.negSucc n) => [integer (.negSucc n)]
  | _ => []

theorem mem_ifNegative_iff {d d' : Datum} :
    d' ∈ d.ifNegative ↔ d' = d ∧ ∃ n : Int, d = integer n ∧ n < 0 := by
  unfold ifNegative
  split
  next n =>
    rw [List.mem_singleton]
    exact (and_iff_left ⟨_, rfl, Int.negSucc_lt_zero n⟩).symm
  next h =>
    refine iff_of_false List.not_mem_nil ?_
    rintro ⟨-, n, rfl, hn⟩
    cases n with
    | ofNat n => exact absurd hn (Int.not_lt.mpr (Int.natCast_nonneg n))
    | negSucc n => exact h n rfl

theorem ifNegative_natCast (n : Nat) : (integer n).ifNegative = [] := rfl

theorem obstacleWithin_integer (room : Nat) (n : Int) :
    obstacleWithin room (integer n) = if Text.isTooLong n then some .tooManyDigits else none := by
  rw [obstacleWithin]

theorem obstacle?_integer (n : Int) :
    (integer n).obstacle? = if Text.isTooLong n then some .tooManyDigits else none := rfl

theorem obstacle?_integer_of_short {n : Int} (h : Text.isTooLong n = false) :
    (integer n).obstacle? = none := by
  rw [obstacle?_integer, h]
  rfl

/-- An integer is not deep. -/
theorem obstacle?_integer_ne_tooDeep (n : Int) : (integer n).obstacle? ≠ some .tooDeep := by
  rw [obstacle?_integer]
  split <;> simp

@[simp]
theorem obstacle?_null : null.obstacle? = none := rfl

@[simp]
theorem obstacle?_bool (b : Bool) : (bool b).obstacle? = none := rfl

@[simp]
theorem obstacle?_double (x : Double) : (double x).obstacle? = none := rfl

@[simp]
theorem obstacle?_text (s : String) : (text s).obstacle? = none := rfl

@[simp]
theorem obstacle?_scalar (a : Scalar) : (scalar a).obstacle? = none := rfl

end Datum

end LiabilityProof
