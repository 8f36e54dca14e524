import LiabilityProof.Wire.Integer
import LiabilityProof.Text.Hex

/-!
# Ledger entries

An entry records one user in one epoch: a name and the balances, one for each currency. The
*identity* of a user is the name's UTF-8 bytes read as a number, most significant first; names
that differ only in leading zero bytes share it. Names come from outside and are kept as they
came; only a text has an identity.
-/

namespace LiabilityProof

/-- A user's name and balances. -/
structure Entry where
  /-- The name, as it was given. -/
  username : Datum
  /-- The balances, one for each currency. -/
  balances : List Nat

namespace Entry

/-- The number that a name's UTF-8 bytes write. -/
def identityOf (name : String) : Nat := Text.ofBigEndian (Text.utf8 name)

/-- The identity of the user. -/
def identity (e : Entry) : Except Failure Nat :=
  match e.username with
  | .text name => .ok (identityOf name)
  | _ => .error .noSuchProperty

/-- The only one of some balances. -/
def onlyBalance : List Nat → Except Failure Nat
  | [b] => .ok b
  | bs => .error (.notSingleCurrency bs.length)

/-- The only balance of an entry of one currency. -/
def balance (e : Entry) : Except Failure Nat := onlyBalance e.balances

/-- The balance that an untrusted value is: a non-negative integer, never a converted one. -/
def checkBalance (username : Datum) : Datum → Except Failure Nat
  | .integer (.ofNat n) => .ok n
  | .integer n => .error (.showing [username, .integer n] (.balanceNegative username n))
  | d => .error (.showing [username, d] (.balanceNotInteger username d))

/-- The entry of a name and balances that are not trusted. -/
def ofData (username balances : Datum) : Except Failure Entry := do
  let values ← balances.elements
  let checked ← values.mapM (checkBalance username)
  pure ⟨username, checked⟩

/-- Equality of entries. -/
def same (e e' : Entry) : Bool :=
  e.username.same e'.username && decide (e.balances = e'.balances)

/-- The number of different entries among two. Only entries whose names can be keys are
counted. -/
def countDistinct (e e' : Entry) : Except Failure Nat :=
  if e.username.isKey && e'.username.isKey then .ok (if e.same e' then 1 else 2)
  else .error .wrongShape

/-- How messages show balances. -/
def shownBalances (balances : List Nat) : String :=
  (Datum.array (balances.map fun (b : Nat) => Datum.integer b)).shown

/-- How messages show an entry. -/
def shown (e : Entry) : String :=
  "Entry(" ++ e.username.shown ++ ", " ++ shownBalances e.balances ++ ")"

end Entry

end LiabilityProof
