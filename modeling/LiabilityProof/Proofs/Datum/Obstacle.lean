import LiabilityProof.Wire.Integer

/-!
# The parts of a value that can be shown

A value can be shown if all its parts can be and stand in no more than so many levels
(`obstacleWithin_array_eq_none_iff`, `obstacleWithin_object_eq_none_iff`). With more room it can be
shown all the more, so a part of a value that can be shown can be shown by itself, however a reader
gets at it.
-/

namespace LiabilityProof

namespace Datum

variable {room room' : Nat} {d d' : Datum}

theorem obstacleAmong_eq_none_iff {xs : List Datum} :
    obstacleAmong room xs = none ↔ ∀ d ∈ xs, obstacleWithin room d = none := by
  induction xs with
  | nil => simp only [obstacleAmong, List.not_mem_nil, false_implies, implies_true]
  | cons d rest ih => rw [obstacleAmong, Option.or_eq_none_iff, ih, List.forall_mem_cons]

theorem obstacleInFields_eq_none_iff {fields : List (String × Datum)} :
    obstacleInFields room fields = none ↔ ∀ f ∈ fields, obstacleWithin room f.2 = none := by
  induction fields with
  | nil => simp only [obstacleInFields, List.not_mem_nil, false_implies, implies_true]
  | cons f rest ih => rw [obstacleInFields, Option.or_eq_none_iff, ih, List.forall_mem_cons]

/-- An array takes a level, and its elements have the levels below. -/
theorem obstacleWithin_array_eq_none_iff {xs : List Datum} :
    obstacleWithin room (array xs) = none ↔
      ∃ below, room = below + 1 ∧ ∀ d ∈ xs, obstacleWithin below d = none := by
  cases room with
  | zero => simp [obstacleWithin]
  | succ below =>
    rw [obstacleWithin, obstacleAmong_eq_none_iff]
    simp

/-- An object takes a level, and the values of its fields have the levels below. -/
theorem obstacleWithin_object_eq_none_iff {fields : List (String × Datum)} :
    obstacleWithin room (object fields) = none ↔
      ∃ below, room = below + 1 ∧ ∀ f ∈ fields, obstacleWithin below f.2 = none := by
  cases room with
  | zero => simp [obstacleWithin]
  | succ below =>
    rw [obstacleWithin, obstacleInFields_eq_none_iff]
    simp

/-- What can be shown can be shown with more room. -/
theorem obstacleWithin_mono (hle : room ≤ room') (h : obstacleWithin room d = none) :
    obstacleWithin room' d = none := by
  -- the parts of an array or an object are smaller, and have less room
  induction hsize : sizeOf d using Nat.strongRecOn generalizing d room room' with
  | ind size ih =>
  subst hsize
  cases d with
  | array xs =>
    obtain ⟨below, rfl, hxs⟩ := obstacleWithin_array_eq_none_iff.mp h
    refine obstacleWithin_array_eq_none_iff.mpr ⟨room' - 1, by omega, fun d hd => ?_⟩
    have hlt : sizeOf d < sizeOf (array xs) := by
      have := List.sizeOf_lt_of_mem hd
      rw [array.sizeOf_spec]
      omega
    exact ih _ hlt (by omega) (hxs d hd) rfl
  | object fields =>
    obtain ⟨below, rfl, hfields⟩ := obstacleWithin_object_eq_none_iff.mp h
    refine obstacleWithin_object_eq_none_iff.mpr ⟨room' - 1, by omega, fun f hf => ?_⟩
    have hlt : sizeOf f.2 < sizeOf (object fields) := by
      have := List.sizeOf_lt_of_mem hf
      rw [object.sizeOf_spec]
      obtain ⟨name, value⟩ := f
      rw [Prod.mk.sizeOf_spec] at this
      dsimp only
      omega
    exact ih _ hlt (by omega) (hfields f hf) rfl
  | integer n => rwa [obstacleWithin_integer] at h ⊢
  | null | bool | double | text | scalar => simp [obstacleWithin]

theorem obstacle?_of_mem {xs : List Datum} (h : (array xs).obstacle? = none) (hd : d ∈ xs) :
    d.obstacle? = none := by
  obtain ⟨below, hroom, hxs⟩ := obstacleWithin_array_eq_none_iff.mp h
  exact obstacleWithin_mono (by omega) (hxs d hd)

theorem obstacle?_of_mem_fields {fields : List (String × Datum)}
    (h : (object fields).obstacle? = none) {f : String × Datum} (hf : f ∈ fields) :
    f.2.obstacle? = none := by
  obtain ⟨below, hroom, hfields⟩ := obstacleWithin_object_eq_none_iff.mp h
  exact obstacleWithin_mono (by omega) (hfields f hf)

theorem obstacle?_of_lookup {fields : List (String × Datum)} {name : String}
    (h : (object fields).obstacle? = none) (hd : Table.lookup name fields = some d) :
    d.obstacle? = none :=
  obstacle?_of_mem_fields h (Table.mem_of_lookup hd)

/-! ### What readers get at -/

theorem obstacle?_of_field {name : String} (h : d.obstacle? = none) (hd : d.field name = .ok d') :
    d'.obstacle? = none := by
  cases d with
  | object fields =>
    rw [field] at hd
    cases hlookup : Table.lookup name fields with
    | none => rw [hlookup] at hd; cases hd
    | some value =>
      rw [hlookup] at hd
      exact Except.ok.inj hd ▸ obstacle?_of_lookup h hlookup
  | null | bool | integer | double | text | array | scalar => cases hd

theorem obstacle?_of_item {i : Nat} (h : d.obstacle? = none) (hd : d.item i = .ok d') :
    d'.obstacle? = none := by
  cases d with
  | array xs =>
    rw [item] at hd
    cases hmember : xs[i]? with
    | none => rw [hmember] at hd; cases hd
    | some member =>
      rw [hmember] at hd
      exact Except.ok.inj hd ▸ obstacle?_of_mem h (List.mem_of_getElem? hmember)
  | text s =>
    rw [item] at hd
    cases hmember : s.toList[i]? with
    | none => rw [hmember] at hd; cases hd
    | some c =>
      rw [hmember] at hd
      exact Except.ok.inj hd ▸ rfl
  | null | bool | integer | double | object | scalar => cases hd

theorem obstacle?_of_elements {items : List Datum} (h : d.obstacle? = none)
    (hitems : d.elements = .ok items) : ∀ d' ∈ items, d'.obstacle? = none := by
  cases d with
  | array xs => exact Except.ok.inj hitems ▸ fun d' => obstacle?_of_mem h
  | text s =>
    rw [← Except.ok.inj hitems, List.forall_mem_map]
    exact fun c _ => rfl
  | object fields =>
    rw [← Except.ok.inj hitems, List.forall_mem_map]
    exact fun f _ => rfl
  | null | bool | integer | double | scalar => cases hitems

end Datum

end LiabilityProof
