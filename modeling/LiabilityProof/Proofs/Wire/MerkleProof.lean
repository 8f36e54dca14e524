import LiabilityProof.Proofs.SumTree.Acceptance
import LiabilityProof.Proofs.Wire.Integer
import LiabilityProof.Wire.MerkleProof

/-!
# Which documents are sum tree proofs

The reader of sum tree proofs takes a document apart by names and sequences and asks of every
number that it be written as one. `Wire.WritesProof` says field by field which proof a document
writes, and the reader reads these documents and no others (`Wire.merkleProof_eq_ok_iff`). So every
number of the proof is the one that is written: a field element is written as its least member,
nothing is reduced, and sides and balances have no bound.

The reader never asks whether a sequence is an array. `Wire.HasShape` is the shape of a document
relative to what may stand for a sequence, so that the documents of arrays can be told from what is
read: where a row of numbers is expected, a text or an object will do.
-/

namespace LiabilityProof

namespace Datum

/-- The value lists members, each of which is related to what stands in its place. -/
def ListsBy {α : Type} (R : Datum → α → Prop) (d : Datum) (xs : List α) : Prop :=
  ∃ members, d.Lists members ∧ List.Forall₂ R members xs

/-- The value writes a field element, by its least member. -/
def WritesElement (d d' : Datum) : Prop := ∃ a : Scalar, d.Writes a.val ∧ d' = .scalar a

/-- The value writes a natural number. -/
def WritesNumber (d d' : Datum) : Prop := ∃ n : Nat, d.Writes n ∧ d' = .integer n

end Datum

namespace Wire

/-! ### Proofs that are written -/

/-- The fields of an object write balances: in a row, or, where there is none, a single one. -/
def WritesBalances (fields : List (String × Datum)) (values : List Nat) : Prop :=
  (∃ row, Table.lookup "balances" fields = some row ∧ row.ListsBy Datum.Writes values) ∨
    Table.lookup "balances" fields = none ∧
      ∃ d b, Table.lookup "balance" fields = some d ∧ d.Writes b ∧ values = [b]

/-- The value writes an entry: it is an object with a text for the name, and with balances. -/
def WritesEntry (d : Datum) (e : Entry) : Prop :=
  ∃ fields, d = .object fields ∧
    (∃ name, Table.lookup "username" fields = some (.text name) ∧ e.username = .text name) ∧
    WritesBalances fields e.balances

/-- The fields of an object write a proof. -/
structure WritesProof (fields : List (String × Datum)) (p : MerkleProof) : Prop where
  /-- The entry is written. -/
  entry : ∃ d e, Table.lookup "entry" fields = some d ∧ WritesEntry d e ∧ p.claimant = .entry e
  /-- The hash of the root is written as a field element. -/
  rootHash : ∃ d, Table.lookup "root_hash" fields = some d ∧ d.WritesElement p.rootHash
  /-- The hashes of the siblings are written as field elements. -/
  siblingHashes : ∃ d, Table.lookup "sibling_hashes" fields = some d ∧
    d.ListsBy Datum.WritesElement p.siblingHashes
  /-- The sums of the siblings are written as field elements. -/
  siblingSums : ∃ d, Table.lookup "sibling_sums" fields = some d ∧
    d.ListsBy Datum.WritesElement p.siblingSums
  /-- The sides are written as numbers. -/
  pathIndices : ∃ d, Table.lookup "path_indices" fields = some d ∧
    d.ListsBy Datum.WritesNumber p.pathIndices

theorem scalar_eq_ok_iff {d : Datum} {a : Scalar} : scalar d = .ok a ↔ d.Writes a.val := by
  have helement : ∀ n : Nat, (Datum.integer n).canonical = .ok a ↔ n = a.val := by
    intro n
    rw [Datum.canonical_eq_ok_iff]
    constructor
    · rintro ⟨⟨-, hlt⟩, rfl⟩
      exact (congrArg Residue.val (Residue.ofInt_val ⟨n, Int.ofNat_lt.mp hlt⟩)).symm
    · rintro rfl
      exact ⟨⟨Int.natCast_nonneg _, Int.ofNat_lt.mpr a.isLt⟩, Residue.ofInt_val a⟩
  rw [scalar, bind_eq_ok_iff]
  constructor
  · rintro ⟨n, hn, h⟩
    exact (helement n).mp h ▸ Datum.unsigned_eq_ok_iff.mp hn
  · intro h
    exact ⟨a.val, Datum.unsigned_eq_ok_iff.mpr h, (helement _).mpr rfl⟩

/-- A row is read member by member. -/
theorem row_eq_ok_iff {α : Type} {f : Datum → Except Failure α} {R : Datum → α → Prop}
    (h : ∀ d a, f d = .ok a ↔ R d a) {d : Datum} {xs : List α} :
    (d.elements >>= fun items => items.mapM f) = .ok xs ↔ d.ListsBy R xs := by
  simp only [bind_eq_ok_iff, Datum.elements_eq_ok_iff, mapM_eq_ok_iff, h, Datum.ListsBy]

theorem scalars_eq_ok_iff {d : Datum} {xs : List Datum} :
    scalars d = .ok xs ↔ d.ListsBy Datum.WritesElement xs :=
  row_eq_ok_iff fun _ _ => map_eq_ok_iff.trans <|
    exists_congr fun _ => and_congr scalar_eq_ok_iff eq_comm

theorem sides_eq_ok_iff {d : Datum} {xs : List Datum} :
    sides d = .ok xs ↔ d.ListsBy Datum.WritesNumber xs :=
  row_eq_ok_iff fun _ _ => map_eq_ok_iff.trans <|
    exists_congr fun _ => and_congr Datum.unsigned_eq_ok_iff eq_comm

theorem balances_object_eq_ok_iff {fields : List (String × Datum)} {values : List Nat} :
    balances (.object fields) = .ok values ↔ WritesBalances fields values := by
  simp only [balances, WritesBalances, Datum.mentions, bind_eq_ok_iff, Except.ok.injEq,
    exists_eq_left']
  cases hrow : Table.lookup "balances" fields with
  | none =>
    simp only [Option.isSome_none, Bool.false_eq_true, if_false, bind_eq_ok_iff,
      Datum.field_object_eq_ok_iff, Datum.unsigned_eq_ok_iff, pure, Except.pure, Except.ok.injEq,
      reduceCtorEq, false_and, exists_false, false_or, true_and, exists_and_left,
      eq_comm (a := values)]
  | some row =>
    simp only [Option.isSome_some, if_true, bind_eq_ok_iff, Datum.field_object_eq_ok_iff, hrow,
      Option.some.injEq, exists_eq_left', reduceCtorEq, false_and, or_false]
    exact bind_eq_ok_iff.symm.trans (row_eq_ok_iff fun _ _ => Datum.unsigned_eq_ok_iff)

/-- Nothing but an object has balances. -/
theorem exists_object_of_balances {d : Datum} {values : List Nat} (h : balances d = .ok values) :
    ∃ fields, d = .object fields := by
  obtain ⟨mentions, -, h⟩ := bind_eq_ok_iff.mp h
  cases mentions with
  | true =>
    obtain ⟨row, hrow, -⟩ := bind_eq_ok_iff.mp h
    obtain ⟨fields, hfields, -⟩ := Datum.field_eq_ok_iff.mp hrow
    exact ⟨fields, hfields⟩
  | false =>
    obtain ⟨written, hwritten, -⟩ := bind_eq_ok_iff.mp h
    obtain ⟨fields, hfields, -⟩ := Datum.field_eq_ok_iff.mp hwritten
    exact ⟨fields, hfields⟩

/-- The reader reads the entries that are written. -/
theorem entry_eq_ok_iff {d : Datum} {e : Entry} : entry d = .ok e ↔ WritesEntry d e := by
  rw [entry, bind_eq_ok_iff]
  constructor
  · rintro ⟨values, hvalues, h⟩
    obtain ⟨fields, rfl⟩ := exists_object_of_balances hvalues
    obtain ⟨name, hname, h⟩ := bind_eq_ok_iff.mp h
    rw [Datum.field_object_eq_ok_iff] at hname
    rw [balances_object_eq_ok_iff] at hvalues
    split at h
    next name =>
      obtain rfl := Except.ok.inj h
      exact ⟨fields, rfl, ⟨name, hname, rfl⟩, hvalues⟩
    next => exact absurd h (by simp)
  · obtain ⟨username, values⟩ := e
    rintro ⟨fields, rfl, ⟨name, hname, rfl⟩, hvalues⟩
    refine ⟨values, balances_object_eq_ok_iff.mpr hvalues, bind_eq_ok_iff.mpr ⟨.text name, ?_, rfl⟩⟩
    exact Datum.field_object_eq_ok_iff.mpr hname

/-- The reader reads the proofs that are written. -/
theorem merkleProof_eq_ok_iff {fields : List (String × Datum)} {p : MerkleProof} :
    merkleProof (.object fields) = .ok p ↔ WritesProof fields p := by
  simp only [merkleProof, bind_eq_ok_iff, Datum.field_object_eq_ok_iff, entry_eq_ok_iff,
    scalar_eq_ok_iff, scalars_eq_ok_iff, sides_eq_ok_iff, pure, Except.pure, Except.ok.injEq]
  constructor
  · rintro ⟨d, hentry, e, he, d₁, hroot, a, ha, d₂, hhashes, hs, hhs, d₃, hsums, ss, hss, d₄,
      hindices, is, his, rfl⟩
    exact ⟨⟨d, e, hentry, he, rfl⟩, ⟨d₁, hroot, a, ha, rfl⟩, ⟨d₂, hhashes, hhs⟩, ⟨d₃, hsums, hss⟩,
      ⟨d₄, hindices, his⟩⟩
  · obtain ⟨claimant, rootHash, siblingHashes, siblingSums, pathIndices⟩ := p
    rintro ⟨⟨d, e, hentry, he, rfl⟩, ⟨d₁, hroot, a, ha, rfl⟩, ⟨d₂, hhashes, hhs⟩, ⟨d₃, hsums, hss⟩,
      ⟨d₄, hindices, his⟩⟩
    exact ⟨d, hentry, e, he, d₁, hroot, a, ha, d₂, hhashes, _, hhs, d₃, hsums, _, hss, d₄, hindices,
      _, his, rfl⟩

/-- The values of a proof that is written are field elements, so its verification is answered. -/
theorem WritesProof.not_runsTooDeep {fields : List (String × Datum)} {p : MerkleProof}
    (h : WritesProof fields p) : ¬p.RunsTooDeep := by
  have hscalar : ∀ {d d' : Datum}, d.WritesElement d' → d'.obstacle? ≠ some .tooDeep := by
    rintro d _ ⟨a, -, rfl⟩
    simp
  have hrow : ∀ {d : Datum} {xs : List Datum}, d.ListsBy Datum.WritesElement xs →
      ∀ x ∈ xs, x.obstacle? ≠ some .tooDeep := by
    rintro d xs ⟨members, -, hmembers⟩
    have hboth := hmembers.flip.imp fun x d h => And.intro (hscalar h) h
    exact ((List.forall₂_and_left xs members).mp hboth).1
  obtain ⟨-, ⟨_, -, hroot⟩, ⟨_, -, hhashes⟩, ⟨_, -, hsums⟩, -⟩ := h
  refine MerkleProof.not_runsTooDeep ?_
  rintro x (hx | hx | rfl)
  · exact hrow hhashes x hx
  · exact hrow hsums x hx
  · exact hscalar hroot

/-! ### Why a proof is not read -/

/-- The kinds of failure that tell that a document is no proof. -/
def IsMalformed (kind : FailureKind) : Prop :=
  kind = .shape ∨ kind = .missingField ∨ kind = .value

theorem failsOnlyAs_field (name : String) (d : Datum) :
    FailsOnlyAs IsMalformed (d.field name) :=
  (d.failsOnlyAs_field name).mono fun _ h => h.imp_right .inl

theorem failsOnlyAs_elements (d : Datum) : FailsOnlyAs IsMalformed d.elements :=
  d.failsOnlyAs_elements.mono fun _ => .inl

section

variable {d : Datum} (h : d.obstacle? = none)

include h

theorem failsOnlyAs_unsigned : FailsOnlyAs IsMalformed d.unsigned :=
  Datum.failsOnlyAs_unsigned (.inr (.inr rfl)) (.inl (by simp [h]))

theorem failsOnlyAs_scalar : FailsOnlyAs IsMalformed (scalar d) :=
  (failsOnlyAs_unsigned h).bind fun n _ =>
    Datum.failsOnlyAs_canonical (.inr (.inr rfl)) (.inl (Datum.obstacle?_integer_ne_tooDeep n))

theorem failsOnlyAs_row {α : Type} {f : Datum → Except Failure α}
    (hf : ∀ d, d.obstacle? = none → FailsOnlyAs IsMalformed (f d)) :
    FailsOnlyAs IsMalformed (d.elements >>= fun items => items.mapM f) :=
  (failsOnlyAs_elements d).bind fun _ hitems =>
    .mapM fun d hd => hf d (Datum.obstacle?_of_elements h hitems d hd)

theorem failsOnlyAs_balances : FailsOnlyAs IsMalformed (balances d) := by
  refine ((d.failsOnlyAs_mentions "balances").mono fun _ => .inl).bind fun mentions _ => ?_
  cases mentions with
  | true =>
    exact (failsOnlyAs_field _ d).bind fun row hrow =>
      failsOnlyAs_row (Datum.obstacle?_of_field h hrow) fun _ => failsOnlyAs_unsigned
  | false =>
    exact (failsOnlyAs_field _ d).bind fun b hb =>
      (failsOnlyAs_unsigned (Datum.obstacle?_of_field h hb)).bind fun _ _ => .ok _

theorem failsOnlyAs_entry : FailsOnlyAs IsMalformed (entry d) := by
  refine (failsOnlyAs_balances h).bind fun values _ =>
    (failsOnlyAs_field _ d).bind fun name hname => ?_
  split
  · exact .ok _
  · exact .showing (.inr (.inr rfl)) (.inr (.inr rfl))
      (.inl (List.forall_mem_singleton.mpr (by simp [Datum.obstacle?_of_field h hname])))

/-- Reading a document as a proof fails in three kinds only, whatever the document is, as long as
its parts can be shown. -/
theorem failsOnlyAs_merkleProof : FailsOnlyAs IsMalformed (merkleProof d) := by
  have hfield : ∀ {name d'}, d.field name = .ok d' → d'.obstacle? = none :=
    Datum.obstacle?_of_field h
  have hscalars : ∀ d, d.obstacle? = none → FailsOnlyAs IsMalformed (scalars d) := fun d hd =>
    failsOnlyAs_row hd fun _ hd => (failsOnlyAs_scalar hd).map _
  have hsides : ∀ d, d.obstacle? = none → FailsOnlyAs IsMalformed (sides d) := fun d hd =>
    failsOnlyAs_row hd fun _ hd => (failsOnlyAs_unsigned hd).map _
  refine (failsOnlyAs_field _ d).bind fun d₁ h₁ =>
    (failsOnlyAs_entry (hfield h₁)).bind fun e _ => ?_
  refine (failsOnlyAs_field _ d).bind fun d₂ h₂ =>
    (failsOnlyAs_scalar (hfield h₂)).bind fun rootHash _ => ?_
  refine (failsOnlyAs_field _ d).bind fun d₃ h₃ =>
    (hscalars d₃ (hfield h₃)).bind fun hashes _ => ?_
  refine (failsOnlyAs_field _ d).bind fun d₄ h₄ => (hscalars d₄ (hfield h₄)).bind fun sums _ => ?_
  exact (failsOnlyAs_field _ d).bind fun d₅ h₅ =>
    (hsides d₅ (hfield h₅)).bind fun indices _ => .ok _

end

/-! ### The shape of a proof -/

/-- The value is a number: a natural number, or a text of ASCII digits. -/
inductive IsNumber : Datum → Prop where
  | integer (n : Nat) : IsNumber (.integer n)
  | digits (s : String) (nonempty : s.toList ≠ []) (digits : ∀ c ∈ s.toList, '0' ≤ c ∧ c ≤ '9') :
    IsNumber (.text s)

/-- What is a sequence in a documented proof: arrays. -/
def ListsArray (d : Datum) (members : List Datum) : Prop := d = .array members

section Shape

variable (lists : Datum → List Datum → Prop) (fields : List (String × Datum))

/-- There is a number under a name. -/
def HasNumber (name : String) : Prop := ∃ d, Table.lookup name fields = some d ∧ IsNumber d

/-- There is a row of numbers under a name. -/
def HasRow (name : String) : Prop :=
  ∃ d members, Table.lookup name fields = some d ∧ lists d members ∧ ∀ d ∈ members, IsNumber d

/-- The fields of an object have the shape of a proof, where `lists` says of a value whether it is
a sequence, and of what. -/
structure HasShape : Prop where
  /-- The entry is an object with a text for the name, and with a row of balances or one balance. -/
  entry : ∃ entry name, Table.lookup "entry" fields = some (.object entry) ∧
    Table.lookup "username" entry = some (.text name) ∧
    (HasRow lists entry "balances" ∨ HasNumber entry "balance")
  /-- The hash of the root is a number. -/
  rootHash : HasNumber fields "root_hash"
  /-- The hashes of the siblings are numbers. -/
  siblingHashes : HasRow lists fields "sibling_hashes"
  /-- The sums of the siblings are numbers. -/
  siblingSums : HasRow lists fields "sibling_sums"
  /-- The sides are numbers. -/
  pathIndices : HasRow lists fields "path_indices"

/-- The value stands where a proof has a row. -/
inductive StandsForRow : Datum → Prop where
  | balances {entry : List (String × Datum)} {d : Datum}
    (hentry : Table.lookup "entry" fields = some (.object entry))
    (hrow : Table.lookup "balances" entry = some d) : StandsForRow d
  | own {name : String} {d : Datum}
    (hname : name ∈ ["sibling_hashes", "sibling_sums", "path_indices"])
    (hrow : Table.lookup name fields = some d) : StandsForRow d

end Shape

variable {fields : List (String × Datum)} {p : MerkleProof}

theorem isNumber_of_writes {d : Datum} {n : Nat} (h : d.Writes n) : IsNumber d := by
  cases h with
  | integer n => exact .integer n
  | digits s hne hdigits _ => exact .digits s hne hdigits

theorem hasRow_of_listsBy {α : Type} {R : Datum → α → Prop} (hR : ∀ d a, R d a → IsNumber d)
    {name : String} {d : Datum} {xs : List α} (hlookup : Table.lookup name fields = some d)
    (h : d.ListsBy R xs) : HasRow Datum.Lists fields name := by
  obtain ⟨members, hmembers, hforall⟩ := h
  have hboth := hforall.imp fun d a h => And.intro (hR d a h) h
  exact ⟨d, members, hlookup, hmembers, ((List.forall₂_and_left members xs).mp hboth).1⟩

/-- What writes a proof has the shape of one, if anything that can be read as a sequence is one. -/
theorem WritesProof.hasShape (h : WritesProof fields p) : HasShape Datum.Lists fields := by
  have helement : ∀ d d', d.WritesElement d' → IsNumber d := fun d d' ⟨_, hd, _⟩ =>
    isNumber_of_writes hd
  obtain ⟨⟨d, e, hentry, ⟨entry, rfl, ⟨name, hname, -⟩, hbalances⟩, -⟩, ⟨d₁, hroot, hd₁⟩,
    ⟨d₂, hhashes, hd₂⟩, ⟨d₃, hsums, hd₃⟩, ⟨d₄, hindices, hd₄⟩⟩ := h
  refine ⟨⟨entry, name, hentry, hname, ?_⟩, ⟨d₁, hroot, helement _ _ hd₁⟩,
    hasRow_of_listsBy helement hhashes hd₂, hasRow_of_listsBy helement hsums hd₃,
    hasRow_of_listsBy (fun d d' ⟨_, hd, _⟩ => isNumber_of_writes hd) hindices hd₄⟩
  obtain ⟨row, hrow, hwrites⟩ | ⟨-, b, n, hb, hn, -⟩ := hbalances
  · exact .inl (hasRow_of_listsBy (fun _ _ => isNumber_of_writes) hrow hwrites)
  · exact .inr ⟨b, hb, isNumber_of_writes hn⟩

/-- The shape depends only on what the values that stand for rows are read as. -/
theorem HasShape.imp {lists lists' : Datum → List Datum → Prop} (h : HasShape lists fields)
    (himp : ∀ d, StandsForRow fields d → ∀ members, lists d members → lists' d members) :
    HasShape lists' fields := by
  have hown : ∀ name ∈ ["sibling_hashes", "sibling_sums", "path_indices"],
      HasRow lists fields name → HasRow lists' fields name := by
    rintro name hname ⟨d, members, hrow, hlists, hmembers⟩
    exact ⟨d, members, hrow, himp d (.own hname hrow) members hlists, hmembers⟩
  obtain ⟨⟨entry, name, hentry, hname, hbalances⟩, hroot, hhashes, hsums, hindices⟩ := h
  refine ⟨⟨entry, name, hentry, hname, hbalances.imp_left ?_⟩, hroot, hown _ (by simp) hhashes,
    hown _ (by simp) hsums, hown _ (by simp) hindices⟩
  rintro ⟨d, members, hrow, hlists, hmembers⟩
  exact ⟨d, members, hrow, himp d (.balances hentry hrow) members hlists, hmembers⟩

/-- A shape that is read is that of arrays, unless a text or an object stands for a row. -/
theorem HasShape.arrays_or (h : HasShape Datum.Lists fields) :
    HasShape ListsArray fields ∨
      ∃ d, StandsForRow fields d ∧ ((∃ s, d = .text s) ∨ ∃ inner, d = .object inner) := by
  by_cases hrows : ∃ d, StandsForRow fields d ∧ ((∃ s, d = .text s) ∨ ∃ inner, d = .object inner)
  · exact .inr hrows
  · refine .inl (h.imp fun d hd members hlists => ?_)
    cases hlists with
    | array elements => rfl
    | characters s => exact absurd ⟨_, hd, .inl ⟨s, rfl⟩⟩ hrows
    | names inner => exact absurd ⟨_, hd, .inr ⟨inner, rfl⟩⟩ hrows

end Wire

end LiabilityProof
