import LiabilityProof.Failure

/-!
# Signers

Putting a commitment on a ledger is the work of a signer, which is somebody else. A `Signer`
says how one answers a submission, given the submissions it was handed before; there is one for
each way in which a submission can end.

What a signer fails with is its own affair, and so is putting it into words: the reason that comes
with a verdict is a text, or the failure that the attempt to make one ends in.
-/

namespace LiabilityProof

/-- What a signer is handed. -/
structure Submission where
  /-- The bytes of the commitment. -/
  commitment : List UInt8
  /-- The epoch it belongs to. -/
  timestamp : Datum

/-- How a submission ends. -/
inductive Verdict where
  /-- The commitment was accepted, with a receipt. -/
  | accepted (receipt : Datum)
  /-- The commitment was refused, for a reason. -/
  | refused (refusal : Refusal) (reason : Except Failure String)
  /-- The submission failed as a dispatch fails, in words that are passed on unchanged. -/
  | failed (reason : Except Failure String)
  /-- There was no answer in time. -/
  | silent

/-- How a signer answers a submission, given those before it. -/
abbrev Signer := List Submission → Submission → Verdict

namespace Signer

/-- A signer that accepts everything and numbers its receipts. -/
def recording : Signer := fun before _ =>
  .accepted (.text ("0xtxhash" ++ Text.ofNat (before.length + 1)))

/-- A signer that rejects everything. -/
def rejecting : Signer := fun _ _ => .refused .rejected (.ok "nonce too low")

/-- A signer that finds everything invalid. -/
def invalidating : Signer := fun _ _ => .refused .invalid (.ok "")

/-- A signer whose submissions fail in its own words. -/
def failing : Signer := fun _ _ => .failed (.ok "already wrapped")

/-- A signer that never answers in time. -/
def silent : Signer := fun _ _ => .silent

/-- A signer without a submission. -/
def unimplemented : Signer := fun _ _ =>
  .refused .unimplemented (.ok "서명자 구현에서 submit_commitment를 제공해야 합니다")

end Signer

end LiabilityProof
