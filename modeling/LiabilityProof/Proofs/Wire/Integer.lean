import Mathlib.Data.List.Induction
import Mathlib.Data.Nat.Digits.Defs
import LiabilityProof.Proofs.Datum.Obstacle
import LiabilityProof.Proofs.Outcome
import LiabilityProof.Proofs.Text.Decimal
import LiabilityProof.Wire.Integer

/-!
# What values write

A value *writes* a natural number if it is this number as an integer, or a run of ASCII digits of
this value, the most significant first (`Datum.Writes`). The strict reader of integers reads these
values and no others, and it never changes the number.

A value *lists* its members if it can be read as a sequence (`Datum.Lists`): an array lists its
elements, a text its characters and an object its names. Nothing else can be read as a sequence.
-/

namespace LiabilityProof

namespace Datum

/-! ### Numbers -/

/-- The value is a natural number, as an integer or in digits. -/
inductive Writes : Datum → Nat → Prop where
  | integer (n : Nat) : Writes (.integer n) n
  | digits (s : String) (nonempty : s.toList ≠ [])
    (digits : ∀ c ∈ s.toList, '0' ≤ c ∧ c ≤ '9') (length : s.toList.length ≤ Text.maxDigits) :
    Writes (.text s) (Nat.ofDigits 10 (s.toList.reverse.map fun c => c.toNat - 48))

theorem ofDigits_eq_ofDigits_reverse (base : Nat) (digits : List Nat) :
    Text.ofDigits base digits = Nat.ofDigits base digits.reverse := by
  induction digits using List.reverseRecOn with
  | nil => rfl
  | append_singleton digits d ih =>
    rw [Text.ofDigits_append_singleton, ih, List.reverse_append, List.reverse_singleton,
      List.singleton_append, Nat.ofDigits_cons, Nat.mul_comm, Nat.add_comm]

theorem filterMap_digitValue? {cs : List Char} (h : ∀ c ∈ cs, Text.isAsciiDigit c = true) :
    cs.filterMap (Text.digitValue? 10) = cs.map fun c => c.toNat - 48 := by
  rw [← List.filterMap_eq_map]
  exact List.filterMap_congr fun c hc => Text.digitValue?_of_isAsciiDigit (h c hc)

theorem isDigits_iff {cs : List Char} :
    Text.isDigits cs = true ↔ cs ≠ [] ∧ ∀ c ∈ cs, Text.isAsciiDigit c = true := by
  rw [Text.isDigits, Bool.and_eq_true, Bool.not_eq_true', List.isEmpty_eq_false_iff,
    List.all_eq_true]

/-- What the strict reader reads is what the value writes. -/
theorem unsigned_eq_ok_iff {d : Datum} {n : Nat} : d.unsigned = .ok n ↔ d.Writes n := by
  constructor
  · intro h
    unfold unsigned at h
    split at h
    · obtain rfl := Except.ok.inj h
      exact .integer _
    · exact absurd h (by simp)
    · dsimp only at h
      split at h
      next s hdigits =>
        obtain ⟨hne, hdigits⟩ := isDigits_iff.mp hdigits
        split at h
        · exact absurd h (by simp)
        next hlength =>
          obtain rfl := Except.ok.inj h
          rw [filterMap_digitValue? hdigits, ofDigits_eq_ofDigits_reverse, ← List.map_reverse]
          refine .digits s hne (fun c hc => ?_) (not_lt.mp hlength)
          simpa [Text.isAsciiDigit] using hdigits c hc
      next => exact absurd h (by simp)
    · exact absurd h (by simp)
  · intro h
    cases h with
    | integer n => rfl
    | digits s hne hdigits hlength =>
      have hascii : ∀ c ∈ s.toList, Text.isAsciiDigit c = true := fun c hc => by
        simpa [Text.isAsciiDigit] using hdigits c hc
      rw [unsigned, if_pos (isDigits_iff.mpr ⟨hne, hascii⟩), if_neg (not_lt.mpr hlength),
        filterMap_digitValue? hascii, ofDigits_eq_ofDigits_reverse, ← List.map_reverse]

/-- The strict reader fails for a wrong value, and for one that is too deep to be shown. -/
theorem failsOnlyAs_unsigned {kinds : FailureKind → Prop} {d : Datum} (hvalue : kinds .value)
    (hdepth : d.obstacle? ≠ some .tooDeep ∨ kinds .depth) : FailsOnlyAs kinds d.unsigned := by
  have hshowing : ∀ failure : Failure, failure.kind = .value →
      FailsOnlyAs kinds (.error (.showing [d] failure) : Except Failure Nat) := fun _ hkind =>
    .showing (hkind ▸ hvalue) hvalue (hdepth.imp_left List.forall_mem_singleton.mpr)
  unfold unsigned
  split
  · exact .ok _
  · exact hshowing _ rfl
  · dsimp only
    split
    · split
      · exact .error hvalue
      · exact .ok _
    · exact .error hvalue
  · exact hshowing _ rfl

/-! ### Sequences -/

/-- The value can be read as the sequence of these members. -/
inductive Lists : Datum → List Datum → Prop where
  | array (elements : List Datum) : Lists (.array elements) elements
  | characters (s : String) :
    Lists (.text s) (s.toList.map fun c => .text (String.singleton c))
  | names (fields : List (String × Datum)) :
    Lists (.object fields) (fields.map fun f => .text f.1)

theorem elements_eq_ok_iff {d : Datum} {members : List Datum} :
    d.elements = .ok members ↔ d.Lists members := by
  constructor
  · intro h
    unfold elements at h
    split at h
    · obtain rfl := Except.ok.inj h
      exact .array _
    · obtain rfl := Except.ok.inj h
      exact .characters _
    · obtain rfl := Except.ok.inj h
      exact .names _
    · exact absurd h (by simp)
  · intro h
    cases h <;> rfl

theorem failsOnlyAs_elements (d : Datum) : FailsOnlyAs (· = .shape) d.elements := by
  cases d with
  | array | text | object => exact .ok _
  | null | bool | integer | double | scalar => exact .error rfl

/-! ### Fields -/

/-- Only an object has a value under a name. -/
theorem field_eq_ok_iff {name : String} {d d' : Datum} :
    d.field name = .ok d' ↔ ∃ fields, d = .object fields ∧ Table.lookup name fields = some d' := by
  cases d with
  | object fields =>
    rw [field]
    cases hlookup : Table.lookup name fields <;> simp [hlookup]
  | null | bool | integer | double | text | array | scalar => simp [field]

theorem field_object_eq_ok_iff {name : String} {fields : List (String × Datum)} {d : Datum} :
    (object fields).field name = .ok d ↔ Table.lookup name fields = some d := by
  rw [field_eq_ok_iff]
  simp

theorem failsOnlyAs_field_object {kinds : FailureKind → Prop} (hmissing : kinds .missingField)
    (name : String) (fields : List (String × Datum)) :
    FailsOnlyAs kinds ((object fields).field name) := by
  rw [field]
  cases Table.lookup name fields with
  | none => exact .error hmissing
  | some d => exact .ok d

theorem failsOnlyAs_field (name : String) (d : Datum) :
    FailsOnlyAs (fun kind => kind = .shape ∨ kind = .missingField) (d.field name) := by
  cases d with
  | object fields => exact failsOnlyAs_field_object (.inr rfl) name fields
  | null | bool | integer | double | text | array | scalar => exact .error (.inl rfl)

theorem failsOnlyAs_item (i : Nat) (d : Datum) :
    FailsOnlyAs (fun kind => kind = .shape ∨ kind = .missingField ∨ kind = .position)
      (d.item i) := by
  cases d with
  | array xs =>
    rw [item]
    cases xs[i]? with
    | none => exact .error (.inr (.inr rfl))
    | some d => exact .ok d
  | text s =>
    rw [item]
    cases s.toList[i]? with
    | none => exact .error (.inr (.inr rfl))
    | some c => exact .ok _
  | object => exact .error (.inr (.inl rfl))
  | null | bool | integer | double | scalar => exact .error (.inl rfl)

theorem failsOnlyAs_mentions (name : String) (d : Datum) :
    FailsOnlyAs (· = .shape) (d.mentions name) := by
  cases d with
  | object | array | text => exact .ok _
  | null | bool | integer | double | scalar => exact .error rfl

theorem failsOnlyAs_canonical {kinds : FailureKind → Prop} {d : Datum} (hvalue : kinds .value)
    (hdepth : d.obstacle? ≠ some .tooDeep ∨ kinds .depth) : FailsOnlyAs kinds d.canonical := by
  have hshowing : ∀ failure : Failure, failure.kind = .value →
      FailsOnlyAs kinds (.error (.showing [d] failure) : Except Failure Scalar) := fun _ hkind =>
    .showing (hkind ▸ hvalue) hvalue (hdepth.imp_left List.forall_mem_singleton.mpr)
  unfold canonical
  split
  · exact .ok _
  · split
    · exact .ok _
    · exact hshowing _ rfl
  · exact hshowing _ rfl

end Datum

end LiabilityProof
