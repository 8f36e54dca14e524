import LiabilityProof.Json.Reader
import LiabilityProof.Proofs.Datum.Obstacle
import LiabilityProof.Proofs.Outcome
import LiabilityProof.Proofs.Text.Decimal

/-!
# What is read can be shown

Documents from outside are read within the limits that messages have: an integer is read if it has
no more digits than may be shown, and arrays and objects no deeper than may be shown
(`obstacle?_of_read`). The reader counts the levels above a value, and showing it counts those that
are left below.
-/

namespace LiabilityProof

namespace Json

open Datum (obstacleWithin maxDepth)

variable {fuel depth : Nat} {cs rest : List Char} {d : Datum}

/-- The number that some decimal digits write is shown again with no more of them. -/
theorem isTooLong_ofDigits {digits : List Char} (h : digits.length ≤ Text.maxDigits)
    (negative : Bool) :
    Text.isTooLong (if negative then
      -(Text.ofDigits 10 (digits.filterMap (Text.digitValue? 10)) : Int)
      else Text.ofDigits 10 (digits.filterMap (Text.digitValue? 10))) = false := by
  have hdigits : ∀ e ∈ digits.filterMap (Text.digitValue? 10), e < 10 := fun e he =>
    let ⟨_, _, hc⟩ := List.mem_filterMap.mp he
    Text.digitValue?_lt hc
  have hlt := Text.lt_pow_maxDigits (Text.ofDigits_lt hdigits)
    ((List.length_filterMap_le ..).trans h)
  rw [Text.isTooLong_eq_false_iff]
  cases negative with
  | false => rwa [if_neg Bool.false_ne_true, Int.natAbs_natCast]
  | true => rwa [if_pos rfl, Int.natAbs_neg, Int.natAbs_natCast]

theorem obstacleWithin_double (room : Nat) (x : Double) :
    obstacleWithin room (.double x) = none := by
  simp [obstacleWithin]

/-- An integer within the limits has few digits, and the fraction behind it none. -/
theorem obstacleWithin_of_number {limits : Limits} (hlimits : limits.digits = some Text.maxDigits)
    (h : number limits cs = some (.ok (d, rest))) (room : Nat) : obstacleWithin room d = none := by
  unfold number at h
  split at h
  dsimp only at h
  split at h
  next => cases h
  next whole left hwhole =>
    generalize splitFraction left = fraction at h
    cases fraction with
    | none =>
      dsimp only at h
      generalize splitExponent left = exponent at h
      cases exponent with
      | none =>
        simp only [if_true, hlimits, Option.any_some, decide_eq_true_eq, List.append_nil] at h
        split at h
        next => exact absurd h (by simp)
        next hlength =>
          simp only [Option.some.injEq, Except.ok.injEq, Prod.mk.injEq] at h
          rw [← h.1, Datum.obstacleWithin_integer, isTooLong_ofDigits (not_lt.mp hlength)]
          rfl
      | some exponent =>
        simp only [Bool.false_eq_true, if_false, Option.some.injEq, Except.ok.injEq,
          Prod.mk.injEq] at h
        exact h.1 ▸ obstacleWithin_double room _
    | some fraction =>
      dsimp only at h
      generalize splitExponent fraction.2 = exponent at h
      cases exponent with
      | some exponent | none =>
        simp only [Bool.false_eq_true, if_false, Option.some.injEq, Except.ok.injEq,
          Prod.mk.injEq] at h
        exact h.1 ▸ obstacleWithin_double room _

theorem obstacleWithin_of_word (h : word cs = some (d, rest)) (room : Nat) :
    obstacleWithin room d = none := by
  unfold word at h
  split at h
  all_goals simp only [Option.some.injEq, Prod.mk.injEq, reduceCtorEq] at h
  all_goals rw [← h.1]; simp [obstacleWithin]

/-! ### Arrays and objects -/

/-- What is read with so much fuel can be shown in the levels that are left below it. -/
structure ReadsShown (fuel : Nat) : Prop where
  value {depth : Nat} {cs rest : List Char} {d : Datum} :
    value .standard fuel depth cs = .ok (d, rest) → obstacleWithin (maxDepth - depth) d = none
  elements {depth : Nat} {acc : List Datum} {cs rest : List Char} {d : Datum} :
    (∀ d' ∈ acc, obstacleWithin (maxDepth - depth) d' = none) →
    elements .standard fuel depth acc cs = .ok (d, rest) →
    ∃ xs, d = .array xs ∧ ∀ d' ∈ xs, obstacleWithin (maxDepth - depth) d' = none
  members {depth : Nat} {acc : List (String × Datum)} {cs rest : List Char} {d : Datum} :
    (∀ f ∈ acc, obstacleWithin (maxDepth - depth) f.2 = none) →
    members .standard fuel depth acc cs = .ok (d, rest) →
    ∃ fields, d = .object fields ∧ ∀ f ∈ fields, obstacleWithin (maxDepth - depth) f.2 = none

theorem ReadsShown.zero : ReadsShown 0 where
  value h := nomatch h
  elements _ h := nomatch h
  members _ h := nomatch h

namespace ReadsShown

theorem lt_maxDepth (h : ¬Limits.standard.depth.any (· ≤ depth) = true) : depth < maxDepth := by
  simpa [Limits.standard] using h

/-- The elements of an array are one level further down. -/
theorem obstacleWithin_array {xs : List Datum} (hdepth : depth < maxDepth)
    (h : ∀ d ∈ xs, obstacleWithin (maxDepth - (depth + 1)) d = none) :
    obstacleWithin (maxDepth - depth) (.array xs) = none :=
  Datum.obstacleWithin_array_eq_none_iff.mpr ⟨_, by omega, h⟩

theorem obstacleWithin_object {fields : List (String × Datum)} (hdepth : depth < maxDepth)
    (h : ∀ f ∈ fields, obstacleWithin (maxDepth - (depth + 1)) f.2 = none) :
    obstacleWithin (maxDepth - depth) (.object fields) = none :=
  Datum.obstacleWithin_object_eq_none_iff.mpr ⟨_, by omega, h⟩

theorem value_succ (ih : ReadsShown fuel)
    (h : Json.value .standard (fuel + 1) depth cs = .ok (d, rest)) :
    obstacleWithin (maxDepth - depth) d = none := by
  unfold Json.value at h
  split at h
  next =>
    obtain ⟨_, -, h⟩ := map_eq_ok_iff.mp h
    rw [← (Prod.mk.inj h).1]
    simp [obstacleWithin]
  next =>
    split at h
    next => cases h
    next hdepth =>
      replace hdepth := lt_maxDepth hdepth
      split at h
      next =>
        rw [← (Prod.mk.inj (Except.ok.inj h)).1]
        exact obstacleWithin_array hdepth (List.forall_mem_nil _)
      next =>
        obtain ⟨xs, rfl, hxs⟩ := ih.elements (List.forall_mem_nil _) h
        exact obstacleWithin_array hdepth hxs
  next =>
    split at h
    next => cases h
    next hdepth =>
      replace hdepth := lt_maxDepth hdepth
      split at h
      next =>
        rw [← (Prod.mk.inj (Except.ok.inj h)).1]
        exact obstacleWithin_object hdepth (List.forall_mem_nil _)
      next =>
        obtain ⟨fields, rfl, hfields⟩ := ih.members (List.forall_mem_nil _) h
        exact obstacleWithin_object hdepth hfields
  next =>
    split at h
    next hword =>
      rw [Except.ok.inj h] at hword
      exact obstacleWithin_of_word hword _
    next =>
      rw [Option.getD_eq_iff] at h
      obtain hnumber | ⟨-, h⟩ := h
      · exact obstacleWithin_of_number rfl hnumber _
      · cases h

theorem elements_succ (ih : ReadsShown fuel) {acc : List Datum}
    (hacc : ∀ d' ∈ acc, obstacleWithin (maxDepth - depth) d' = none)
    (h : Json.elements .standard (fuel + 1) depth acc cs = .ok (d, rest)) :
    ∃ xs, d = .array xs ∧ ∀ d' ∈ xs, obstacleWithin (maxDepth - depth) d' = none := by
  unfold Json.elements at h
  split at h
  next => cases h
  next first left hfirst =>
    have hshown : ∀ d' ∈ first :: acc, obstacleWithin (maxDepth - depth) d' = none :=
      List.forall_mem_cons.mpr ⟨ih.value hfirst, hacc⟩
    split at h
    next =>
      refine ⟨_, ((Prod.mk.inj (Except.ok.inj h)).1).symm, fun d' hd' => ?_⟩
      exact hshown d' (List.mem_reverse.mp hd')
    next => exact ih.elements hshown h
    next => cases h

theorem members_succ (ih : ReadsShown fuel) {acc : List (String × Datum)}
    (hacc : ∀ f ∈ acc, obstacleWithin (maxDepth - depth) f.2 = none)
    (h : Json.members .standard (fuel + 1) depth acc cs = .ok (d, rest)) :
    ∃ fields, d = .object fields ∧ ∀ f ∈ fields, obstacleWithin (maxDepth - depth) f.2 = none := by
  unfold Json.members at h
  split at h
  next =>
    split at h
    next => cases h
    next name left hname =>
      split at h
      next =>
        split at h
        next => cases h
        next value left' hvalue =>
          have hshown : ∀ f ∈ Table.insert name value acc,
              obstacleWithin (maxDepth - depth) f.2 = none := fun f hf =>
            (Table.snd_eq_or_mem_of_mem_insert hf).elim (fun heq => heq ▸ ih.value hvalue) (hacc f)
          split at h
          next => exact ⟨_, ((Prod.mk.inj (Except.ok.inj h)).1).symm, hshown⟩
          next => exact ih.members hshown h
          next => cases h
      next => cases h
  next => cases h

end ReadsShown

theorem readsShown (fuel : Nat) : ReadsShown fuel := by
  induction fuel with
  | zero => exact .zero
  | succ fuel ih => exact ⟨ih.value_succ, ih.elements_succ, ih.members_succ⟩

/-- A document from outside that is read is a value that can be shown. -/
theorem obstacle?_of_read {document : List Char} (h : read .standard document = .ok d) :
    d.obstacle? = none := by
  unfold read at h
  split at h
  next => cases h
  next =>
    split at h
    next => cases h
    next hvalue =>
      split at h
      next => exact Except.ok.inj h ▸ (readsShown _).value hvalue
      next => cases h

end Json

end LiabilityProof
