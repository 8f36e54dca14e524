import LiabilityProof.Proofs.Wire.Integer
import LiabilityProof.Wire.Parameters

/-!
# How reading parameters fails

Parameters are read by looking up fields, walking along rows and taking the first two members of
what should be a pair, and none of these steps asks first what sort of value it has before it. So
the reader fails in the ways in which these steps fail where they are taken.

Parameters are well shaped if their rows are rows of pairs, or of pairs of pairs, whatever stands
for the coordinates (`Wire.ParametersShape`). What can be wrong with them then is a coordinate or a
field that is missing.
-/

namespace LiabilityProof

variable {kinds : FailureKind → Prop} {d : Datum}

/-! ### The reader -/

namespace Wire

/-- The reader of parameters fails as the readers of its two rows do. -/
theorem failsOnlyAs_parameters (hfield : ∀ name, FailsOnlyAs kinds (d.field name))
    (hpowers1 : ∀ row, d.field "g1_powers" = .ok row → FailsOnlyAs kinds row.elements ∧
      ∀ members, row.elements = .ok members → ∀ m ∈ members, FailsOnlyAs kinds (g1 m))
    (hpowers2 : ∀ row, d.field "g2_powers" = .ok row → FailsOnlyAs kinds row.elements ∧
      ∀ members, row.elements = .ok members → ∀ m ∈ members, FailsOnlyAs kinds (g2 m)) :
    FailsOnlyAs kinds (parameters d) := by
  refine (hfield _).bind fun row₁ h₁ => (hpowers1 row₁ h₁).1.bind fun members₁ hmembers₁ => ?_
  refine FailsOnlyAs.bind (.mapM ((hpowers1 row₁ h₁).2 members₁ hmembers₁)) fun powers1 _ => ?_
  refine (hfield _).bind fun row₂ h₂ => (hpowers2 row₂ h₂).1.bind fun members₂ hmembers₂ => ?_
  refine FailsOnlyAs.bind (.mapM ((hpowers2 row₂ h₂).2 members₂ hmembers₂)) fun powers2 _ => ?_
  exact (hfield _).bind fun maxDegree _ => .ok _

section

variable (hvalue : kinds .value) (hshown : d.obstacle? = none ∨ kinds .depth)

include hvalue hshown

/-- Where a coordinate stands, any value will do. -/
theorem failsOnlyAs_pair (hitem : ∀ i < 2, FailsOnlyAs kinds (d.item i)) :
    FailsOnlyAs kinds (pair d) := by
  have hcoordinate : ∀ i d', d.item i = .ok d' → FailsOnlyAs kinds (coordinate d') :=
    fun i d' hd' => by
      have hpart : d'.obstacle? = none ∨ kinds .depth :=
        hshown.imp_left fun h => Datum.obstacle?_of_item h hd'
      exact (Datum.failsOnlyAs_unsigned hvalue (hpart.imp_left fun h => by simp [h])).map _
  refine (hitem 0 (by decide)).bind fun d₁ h₁ => (hcoordinate 0 d₁ h₁).bind fun x _ => ?_
  exact (hitem 1 (by decide)).bind fun d₂ h₂ => (hcoordinate 1 d₂ h₂).bind fun y _ => .ok _

theorem failsOnlyAs_g1 (hitem : d ≠ .null → ∀ i < 2, FailsOnlyAs kinds (d.item i)) :
    FailsOnlyAs kinds (g1 d) := by
  unfold g1
  split
  · exact .ok _
  next hnull => exact (failsOnlyAs_pair hvalue hshown (hitem hnull)).map _

theorem failsOnlyAs_g2 (hitem : d ≠ .null → ∀ i < 2, FailsOnlyAs kinds (d.item i) ∧
      ∀ d', d.item i = .ok d' → ∀ j < 2, FailsOnlyAs kinds (d'.item j)) :
    FailsOnlyAs kinds (g2 d) := by
  unfold g2
  split
  · exact .ok _
  next hnull =>
    have hcoordinate : ∀ i < 2, ∀ d', d.item i = .ok d' → FailsOnlyAs kinds (fq2 d') :=
      fun i hi d' hd' =>
        (failsOnlyAs_pair hvalue (hshown.imp_left fun h => Datum.obstacle?_of_item h hd')
          ((hitem hnull i hi).2 d' hd')).map _
    refine (hitem hnull 0 (by decide)).1.bind fun d₁ h₁ =>
      (hcoordinate 0 (by decide) d₁ h₁).bind fun x _ => ?_
    exact (hitem hnull 1 (by decide)).1.bind fun d₂ h₂ =>
      (hcoordinate 1 (by decide) d₂ h₂).bind fun y _ => .ok _

end

/-- Whatever the document is, reading it as parameters fails in five kinds only. -/
theorem failsOnlyAs_parameters_of_kinds (hvalue : kinds .value) (hmissing : kinds .missingField)
    (hshape : kinds .shape) (hposition : kinds .position) (hdepth : kinds .depth) (d : Datum) :
    FailsOnlyAs kinds (parameters d) := by
  have hitem : ∀ (d : Datum) (i : Nat), FailsOnlyAs kinds (d.item i) := fun d i =>
    (d.failsOnlyAs_item i).mono fun kind hkind => by
      obtain rfl | rfl | rfl := hkind <;> assumption
  have hfield : ∀ name, FailsOnlyAs kinds (d.field name) := fun name =>
    (d.failsOnlyAs_field name).mono fun kind hkind => by
      obtain rfl | rfl := hkind <;> assumption
  have helements : ∀ row : Datum, FailsOnlyAs kinds row.elements := fun row =>
    row.failsOnlyAs_elements.mono fun _ hkind => hkind ▸ hshape
  refine failsOnlyAs_parameters hfield (fun row _ => ⟨helements row, fun _ _ m _ => ?_⟩)
    fun row _ => ⟨helements row, fun _ _ m _ => ?_⟩
  · exact failsOnlyAs_g1 hvalue (.inr hdepth) fun _ i _ => hitem m i
  · exact failsOnlyAs_g2 hvalue (.inr hdepth) fun _ i _ => ⟨hitem m i, fun d' _ j _ => hitem d' j⟩

end Wire

/-! ### The shape -/

/-- The value has two members of some sort at its start. An object has none, and reading one is
reported as a field that is missing. -/
inductive Datum.HasTwo (member : Datum → Prop) : Datum → Prop where
  | array {x y : Datum} {rest : List Datum} (hx : member x) (hy : member y) :
    HasTwo member (.array (x :: y :: rest))
  | object (fields : List (String × Datum)) : HasTwo member (.object fields)

/-- The value has the shape of parameters: whatever its coordinates are, they are found. -/
structure Wire.ParametersShape (d : Datum) : Prop where
  /-- It is an object. -/
  object : ∃ fields, d = .object fields
  /-- A row of powers in the first group is one of pairs. -/
  powers1 : ∀ row, d.field "g1_powers" = .ok row →
    ∃ members, row.Lists members ∧ ∀ m ∈ members, m ≠ .null → m.HasTwo fun _ => True
  /-- A row of powers in the second group is one of pairs of pairs. -/
  powers2 : ∀ row, d.field "g2_powers" = .ok row →
    ∃ members, row.Lists members ∧ ∀ m ∈ members, m ≠ .null → m.HasTwo (Datum.HasTwo fun _ => True)
  /-- A degree is a number. -/
  maxDegree : ∀ degree, d.field "max_degree" = .ok degree → degree.compareInteger? 0 ≠ none

section

variable (hmissing : kinds .missingField)

include hmissing

theorem Datum.HasTwo.failsOnlyAs_item {member : Datum → Prop} (h : d.HasTwo member) {i : Nat}
    (hi : i < 2) :
    FailsOnlyAs kinds (d.item i) ∧ ∀ d', d.item i = .ok d' → member d' := by
  cases h with
  | array hx hy =>
    obtain rfl | rfl : i = 0 ∨ i = 1 := by omega
    · exact ⟨.ok _, fun d' hd' => Except.ok.inj hd' ▸ hx⟩
    · exact ⟨.ok _, fun d' hd' => Except.ok.inj hd' ▸ hy⟩
  | object fields => exact ⟨.error hmissing, fun d' hd' => absurd hd' (by simp [item])⟩

/-- Parameters of this shape fail for a coordinate or for a field that is missing, as long as they
can be shown. -/
theorem Wire.ParametersShape.failsOnlyAs (h : ParametersShape d) (hshown : d.obstacle? = none)
    (hvalue : kinds .value) : FailsOnlyAs kinds (parameters d) := by
  obtain ⟨⟨fields, rfl⟩, hpowers1, hpowers2, -⟩ := h
  -- both rows can be walked along; what is left are their members
  refine failsOnlyAs_parameters (fun name => Datum.failsOnlyAs_field_object hmissing name fields)
    (fun row hrow => ?_) fun row hrow => ?_
  all_goals have hmember : ∀ members, row.elements = .ok members →
      ∀ m ∈ members, m.obstacle? = none := fun members =>
    Datum.obstacle?_of_elements (Datum.obstacle?_of_field hshown hrow)
  · obtain ⟨members, hlists, hmembers⟩ := hpowers1 row hrow
    have helements := Datum.elements_eq_ok_iff.mpr hlists
    rw [helements]
    refine ⟨.ok _, fun _ heq m hm => ?_⟩
    obtain rfl := Except.ok.inj heq
    refine failsOnlyAs_g1 hvalue (.inl (hmember _ helements m hm)) fun hnull i hi => ?_
    exact ((hmembers m hm hnull).failsOnlyAs_item hmissing hi).1
  · obtain ⟨members, hlists, hmembers⟩ := hpowers2 row hrow
    have helements := Datum.elements_eq_ok_iff.mpr hlists
    rw [helements]
    refine ⟨.ok _, fun _ heq m hm => ?_⟩
    obtain rfl := Except.ok.inj heq
    refine failsOnlyAs_g2 hvalue (.inl (hmember _ helements m hm)) fun hnull i hi => ?_
    obtain ⟨hitem, hpair⟩ := (hmembers m hm hnull).failsOnlyAs_item hmissing hi
    exact ⟨hitem, fun d' hd' j hj => ((hpair d' hd').failsOnlyAs_item hmissing hj).1⟩

end

end LiabilityProof
