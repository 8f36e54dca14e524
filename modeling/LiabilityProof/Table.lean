/-!
# Tables

A table is a list of pairs of a key and a value, in the order in which the keys were put in.
`Table.insert` replaces a value in its place or adds it at the end, so that a table built by
insertions has distinct keys; `Table.lookup` finds the first pair of a key.
-/

namespace LiabilityProof

namespace Table

variable {κ α : Type} [DecidableEq κ]

/-- The value under a key. -/
def lookup (key : κ) : List (κ × α) → Option α
  | [] => none
  | (k, a) :: rest => if k = key then some a else lookup key rest

/-- The table with the value under a key replaced in its place, or added at the end. -/
def insert (key : κ) (value : α) : List (κ × α) → List (κ × α)
  | [] => [(key, value)]
  | (k, a) :: rest => if k = key then (k, value) :: rest else (k, a) :: insert key value rest

@[simp]
theorem lookup_nil (key : κ) : lookup key ([] : List (κ × α)) = none := rfl

theorem lookup_cons (key k : κ) (a : α) (rest : List (κ × α)) :
    lookup key ((k, a) :: rest) = if k = key then some a else lookup key rest := rfl

/-- What was put under a key is found there, and nothing else changes. -/
theorem lookup_insert (key other : κ) (value : α) (table : List (κ × α)) :
    lookup other (insert key value table) =
      if key = other then some value else lookup other table := by
  induction table with
  | nil => rfl
  | cons pair table ih =>
    obtain ⟨k, a⟩ := pair
    by_cases hk : k = key
    · subst hk
      simp only [insert, if_true, lookup_cons]
      split <;> rfl
    · simp only [insert, if_neg hk, lookup_cons, ih]
      by_cases ho : k = other
      · subst ho
        simp [Ne.symm hk]
      · simp [ho]

theorem mem_of_lookup {key : κ} {a : α} {table : List (κ × α)} (h : lookup key table = some a) :
    (key, a) ∈ table := by
  induction table with
  | nil => cases h
  | cons pair table ih =>
    obtain ⟨k, b⟩ := pair
    rw [lookup_cons] at h
    split at h
    next heq =>
      rw [heq, Option.some.inj h]
      exact List.mem_cons_self
    next => exact List.mem_cons_of_mem _ (ih h)

/-- A pair of the table has the value that was put in, or was there before. -/
theorem snd_eq_or_mem_of_mem_insert {key : κ} {value : α} {table : List (κ × α)} {pair : κ × α}
    (h : pair ∈ insert key value table) : pair.2 = value ∨ pair ∈ table := by
  induction table with
  | nil => exact .inl (congrArg Prod.snd (List.mem_singleton.mp h))
  | cons first table ih =>
    obtain ⟨k, b⟩ := first
    rw [insert] at h
    split at h
    all_goals obtain rfl | h := List.mem_cons.mp h
    · exact .inl rfl
    · exact .inr (List.mem_cons_of_mem _ h)
    · exact .inr List.mem_cons_self
    · exact (ih h).imp_right (List.mem_cons_of_mem _)

end Table

end LiabilityProof
