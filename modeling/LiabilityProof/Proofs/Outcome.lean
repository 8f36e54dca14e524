import Mathlib.Data.List.Forall2
import LiabilityProof.Failure

/-!
# Computations that can fail

A sequence of steps succeeds exactly when every step does. `List.mapM` gives the results of all
members, or the failure of the first member that fails.

What a computation can fail with is told by kinds of failure (`FailsOnlyAs`). A sequence of steps
fails in no other ways than its steps do.
-/

namespace LiabilityProof

variable {α β ε : Type}

theorem bind_eq_ok_iff {x : Except ε α} {f : α → Except ε β} {b : β} :
    x >>= f = .ok b ↔ ∃ a, x = .ok a ∧ f a = .ok b := by
  constructor
  · intro h
    cases x with
    | error e => exact absurd h (by simp [bind, Except.bind])
    | ok a => exact ⟨a, rfl, h⟩
  · rintro ⟨a, rfl, h⟩
    exact h

theorem bind_eq_error_iff {x : Except ε α} {f : α → Except ε β} {e : ε} :
    x >>= f = .error e ↔ x = .error e ∨ ∃ a, x = .ok a ∧ f a = .error e := by
  cases x with
  | error e' => simp [bind, Except.bind]
  | ok a => simp [bind, Except.bind]

theorem map_eq_ok_iff {x : Except ε α} {f : α → β} {b : β} :
    x.map f = .ok b ↔ ∃ a, x = .ok a ∧ f a = b := by
  cases x with
  | error e => simp [Except.map]
  | ok a => simp [Except.map]

theorem mapError_eq_ok_iff {ε' : Type} {x : Except ε α} {f : ε → ε'} {a : α} :
    x.mapError f = .ok a ↔ x = .ok a := by
  cases x with
  | error e => simp [Except.mapError]
  | ok a => simp [Except.mapError]

variable {f : α → Except ε β}

/-- The results belong to the members, one to one. -/
theorem mapM_eq_ok_iff {l : List α} {l' : List β} :
    l.mapM f = .ok l' ↔ List.Forall₂ (fun a b => f a = .ok b) l l' := by
  induction l generalizing l' with
  | nil =>
    rw [List.mapM_nil, List.forall₂_nil_left_iff]
    exact ⟨fun h => (Except.ok.inj h).symm, fun h => congrArg Except.ok h.symm⟩
  | cons a l ih =>
    simp only [List.mapM_cons, bind_eq_ok_iff, List.forall₂_cons_left_iff]
    refine exists_congr fun b => ?_
    constructor
    · rintro ⟨hb, l'', hl, h⟩
      exact ⟨l'', hb, ih.mp hl, (Except.ok.inj h).symm⟩
    · rintro ⟨l'', hb, hl, rfl⟩
      exact ⟨hb, l'', ih.mpr hl, rfl⟩

theorem exists_forall₂ {R : α → β → Prop} {l : List α} (h : ∀ a ∈ l, ∃ b, R a b) :
    ∃ l', List.Forall₂ R l l' := by
  induction l with
  | nil => exact ⟨[], .nil⟩
  | cons a l ih =>
    obtain ⟨b, hb⟩ := h a List.mem_cons_self
    obtain ⟨l', hl'⟩ := ih fun c hc => h c (List.mem_cons_of_mem a hc)
    exact ⟨b :: l', .cons hb hl'⟩

theorem exists_mapM_eq_ok {l : List α} (h : ∀ a ∈ l, ∃ b, f a = .ok b) :
    ∃ l', l.mapM f = .ok l' :=
  (exists_forall₂ h).imp fun _ => mapM_eq_ok_iff.mpr

/-- The result at a position is that of the member there. -/
theorem exists_getElem?_of_mapM {l : List α} {l' : List β} (h : l.mapM f = .ok l') {i : Nat}
    {b : β} (hb : l'[i]? = some b) : ∃ a, l[i]? = some a ∧ f a = .ok b := by
  obtain ⟨hi, rfl⟩ := List.getElem?_eq_some_iff.mp hb
  have hforall := mapM_eq_ok_iff.mp h
  have hi' : i < l.length := hforall.length_eq ▸ hi
  exact ⟨l[i], List.getElem?_eq_getElem hi', hforall.get hi' hi⟩

theorem mapM_eq_ok_map {g : α → β} {l : List α} (h : ∀ a ∈ l, f a = .ok (g a)) :
    l.mapM f = .ok (l.map g) := by
  induction l with
  | nil => rfl
  | cons a l ih =>
    rw [List.mapM_cons, h a List.mem_cons_self, ih fun b hb => h b (List.mem_cons_of_mem a hb)]
    rfl

theorem mapM_map_eq_ok_map {γ : Type} {g : γ → α} {k : γ → β} {l : List γ}
    (h : ∀ c ∈ l, f (g c) = .ok (k c)) : (l.map g).mapM f = .ok (l.map k) := by
  rw [mapM_eq_ok_iff, List.forall₂_map_left_iff, List.forall₂_map_right_iff, List.forall₂_same]
  exact h

/-- If every member is read back from what is written of it, all of them are. -/
theorem mapM_map_eq_ok {g : β → α} {l : List β} (h : ∀ b ∈ l, f (g b) = .ok b) :
    (l.map g).mapM f = .ok l :=
  (mapM_map_eq_ok_map h).trans (congrArg Except.ok l.map_id)

/-- A failure is that of a member. -/
theorem exists_of_mapM_eq_error {l : List α} {e : ε} (h : l.mapM f = .error e) :
    ∃ a ∈ l, f a = .error e := by
  induction l with
  | nil => exact absurd h (by simp [pure, Except.pure])
  | cons a l ih =>
    simp only [List.mapM_cons, bind_eq_error_iff] at h
    obtain ha | ⟨b, -, hl | ⟨l', -, h⟩⟩ := h
    · exact ⟨a, List.mem_cons_self, ha⟩
    · obtain ⟨c, hc, hfailure⟩ := ih hl
      exact ⟨c, List.mem_cons_of_mem a hc, hfailure⟩
    · exact absurd h (by simp [pure, Except.pure])

theorem filterM_eq_ok_filter {p : α → Except ε Bool} {q : α → Bool} {l : List α}
    (h : ∀ a ∈ l, p a = .ok (q a)) : l.filterM p = .ok (l.filter q) := by
  have haux : ∀ kept, l.filterAuxM p kept = .ok ((l.filter q).reverse ++ kept) := by
    induction l with
    | nil => exact fun kept => rfl
    | cons a l ih =>
      intro kept
      rw [List.filterAuxM, h a List.mem_cons_self]
      refine (ih (fun b hb => h b (List.mem_cons_of_mem a hb)) _).trans ?_
      cases hq : q a <;> simp [hq]
  rw [List.filterM, haux, List.append_nil]
  exact congrArg Except.ok (List.reverse_reverse _)

/-- The first failure decides. -/
theorem mapM_append_cons_eq_error {l₁ l₂ : List α} {a : α} {e : ε}
    (hbefore : ∀ b ∈ l₁, ∃ c, f b = .ok c) (h : f a = .error e) :
    (l₁ ++ a :: l₂).mapM f = .error e := by
  induction l₁ with
  | nil =>
    rw [List.nil_append, List.mapM_cons, h]
    rfl
  | cons b l₁ ih =>
    obtain ⟨c, hc⟩ := hbefore b List.mem_cons_self
    rw [List.cons_append, List.mapM_cons, hc, ih fun b hb => hbefore b (List.mem_cons_of_mem _ hb)]
    rfl

/-- If all failures are one, it does not matter which member fails. -/
theorem mapM_eq_error {l : List α} {e : ε} (h : ∀ a ∈ l, (∃ b, f a = .ok b) ∨ f a = .error e)
    (hfails : ∃ a ∈ l, f a = .error e) : l.mapM f = .error e := by
  induction l with
  | nil => simp at hfails
  | cons a l ih =>
    obtain ⟨b, hb⟩ | ha := h a List.mem_cons_self
    · have hrest : ∃ c ∈ l, f c = .error e := by simpa [hb] using hfails
      rw [List.mapM_cons, hb, ih (fun c hc => h c (List.mem_cons_of_mem a hc)) hrest]
      rfl
    · rw [List.mapM_cons, ha]
      rfl

/-! ### Kinds of failure -/

/-- Whether a computation fails in no other ways than those of some kinds. -/
def FailsOnlyAs (kinds : FailureKind → Prop) (x : Except Failure α) : Prop :=
  ∀ failure, x = .error failure → kinds failure.kind

namespace FailsOnlyAs

variable {kinds kinds' : FailureKind → Prop} {x : Except Failure α}

theorem ok (a : α) : FailsOnlyAs kinds (.ok a) := fun _ h => absurd h (by simp)

theorem error {failure : Failure} (h : kinds failure.kind) :
    FailsOnlyAs kinds (.error failure : Except Failure α) := by
  rintro failure' hfailure
  obtain rfl := Except.error.inj hfailure
  exact h

/-- Where a value cannot be shown, another failure takes the place of the one to be raised: that of
a wrong value, unless what keeps the value from being shown is its depth. -/
theorem showing {failure : Failure} {values : List Datum} (h : kinds failure.kind)
    (hvalue : kinds .value) (hdepth : (∀ d ∈ values, d.obstacle? ≠ some .tooDeep) ∨ kinds .depth) :
    FailsOnlyAs kinds (.error (.showing values failure) : Except Failure α) := by
  apply error
  obtain hraised | ⟨d, hd, obstacle, hobstacle, hraised⟩ := failure.showing_cases values
  · rwa [hraised]
  · rw [hraised]
    cases obstacle with
    | tooManyDigits => exact hvalue
    | tooDeep => exact hdepth.resolve_left fun hshown => hshown d hd hobstacle

theorem mono (hx : FailsOnlyAs kinds x) (h : ∀ kind, kinds kind → kinds' kind) :
    FailsOnlyAs kinds' x :=
  fun failure hfailure => h _ (hx failure hfailure)

theorem bind {f : α → Except Failure β} (hx : FailsOnlyAs kinds x)
    (hf : ∀ a, x = .ok a → FailsOnlyAs kinds (f a)) : FailsOnlyAs kinds (x >>= f) := by
  intro failure h
  obtain hfailure | ⟨a, ha, hfailure⟩ := bind_eq_error_iff.mp h
  · exact hx failure hfailure
  · exact hf a ha failure hfailure

theorem map (hx : FailsOnlyAs kinds x) (f : α → β) : FailsOnlyAs kinds (x.map f) := by
  cases x with
  | ok a => exact ok (f a)
  | error failure => exact error (hx failure rfl)

theorem mapError {x : Except ε α} {f : ε → Failure}
    (h : ∀ e, x = .error e → kinds (f e).kind) : FailsOnlyAs kinds (x.mapError f) := by
  cases x with
  | ok a => exact ok a
  | error e => exact error (h e rfl)

theorem mapM {l : List α} {f : α → Except Failure β} (h : ∀ a ∈ l, FailsOnlyAs kinds (f a)) :
    FailsOnlyAs kinds (l.mapM f) := by
  intro failure hfailure
  obtain ⟨a, ha, hfailure⟩ := exists_of_mapM_eq_error hfailure
  exact h a ha failure hfailure

end FailsOnlyAs

end LiabilityProof
