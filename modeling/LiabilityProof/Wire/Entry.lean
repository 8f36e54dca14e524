import LiabilityProof.Wire.Field
import LiabilityProof.Ledger.Entry

/-!
# Entries in documents

An entry is an object with the name and the balances as decimal texts. When it is read, an
entry of one currency may have its `balance` in place of the array of `balances`.
-/

namespace LiabilityProof

namespace Wire

/-- An entry as an object. -/
def ofEntry (e : Entry) : Datum :=
  .object
    [("username", e.username),
     ("balances", .array (e.balances.map decimal))]

/-- An entry as an object, unless it has a balance of too many digits. -/
def ofEntryChecked (e : Entry) : Except Failure Datum :=
  if e.balances.any fun (b : Nat) => Text.isTooLong b then .error .numeralTooLong
  else .ok (ofEntry e)

/-- The balances that a value writes. -/
def balances (d : Datum) : Except Failure (List Nat) := do
  if ← d.mentions "balances" then
    let items ← (← d.field "balances").elements
    items.mapM Datum.unsigned
  else
    let b ← (← d.field "balance").unsigned
    pure [b]

/-- The entry that a value writes. -/
def entry (d : Datum) : Except Failure Entry := do
  let values ← balances d
  match ← d.field "username" with
  | .text name => pure ⟨.text name, values⟩
  | other => .error (.showing [other] (.usernameNotText other))

end Wire

end LiabilityProof
