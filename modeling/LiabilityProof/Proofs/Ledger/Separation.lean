import LiabilityProof.Ledger.Columns
import LiabilityProof.Proofs.Ledger.Identity
import LiabilityProof.Proofs.Outcome
import LiabilityProof.SumTree.Node

/-!
# Which users identities keep apart

The identity of a user is put in two places: in the first column of the ledger, at the user's row,
and in the leaf of the sum tree. It is the field element of a number, and this number is all that is
left of the name there (`Entry.IdentifiedBy`). The number is shared by the names whose bytes are
equal but for zero bytes in front, and by no others. Names of at most 31 bytes without a zero byte
in front also keep their own field elements.
-/

namespace LiabilityProof

namespace Columns

variable {entries : List Entry} {currencies size : Datum} {columns : List (List Scalar)}

/-- Columns that can be made are those of the rows of all entries, whatever stands for the number of
currencies and for the size. -/
theorem exists_rows_of_evaluations (h : evaluations entries currencies size = .ok columns) :
    ∃ rows width length, entries.mapM (rowOf currencies) = .ok rows ∧
      columns = (List.range width).map (column length rows) := by
  rw [evaluations] at h
  split at h
  next => exact absurd h (by simp)
  next => exact absurd h (by simp)
  next =>
    obtain ⟨⟨width, length⟩, -, h⟩ := bind_eq_ok_iff.mp h
    obtain ⟨rows, hrows, h⟩ := bind_eq_ok_iff.mp h
    exact ⟨rows, width, length, hrows, (Except.ok.inj h).symm⟩

theorem rowOf_eq_ok {name : String} {balances : List Nat} {values : List Scalar}
    (h : rowOf currencies ⟨.text name, balances⟩ = .ok values) :
    values = Scalar.encode (Entry.identityOf name) :: balances.map Scalar.encode := by
  rw [rowOf] at h
  split at h
  · exact (Except.ok.inj h).symm
  · exact absurd h (by simp)

/-- The first column has the identity of a user at the user's row. -/
theorem getElem?_column_identity (h : evaluations entries currencies size = .ok columns)
    {values : List Scalar} (hvalues : columns[0]? = some values) {i : Nat} {name : String}
    {balances : List Nat} (he : entries[i]? = some ⟨.text name, balances⟩) :
    values[i]? = some (Scalar.encode (Entry.identityOf name)) := by
  obtain ⟨rows, width, length, hrows, rfl⟩ := exists_rows_of_evaluations h
  -- the columns are made from a range, so the first of them is the one of index zero
  obtain rfl : column length rows 0 = values := by
    rw [List.getElem?_map, Option.map_eq_some_iff] at hvalues
    obtain ⟨j, hj, rfl⟩ := hvalues
    obtain ⟨_, rfl⟩ := List.getElem?_eq_some_iff.mp hj
    rw [List.getElem_range]
  obtain ⟨hi, he⟩ := List.getElem?_eq_some_iff.mp he
  have hforall := mapM_eq_ok_iff.mp hrows
  have hi' : i < rows.length := hforall.length_eq ▸ hi
  have hrow : rowOf currencies entries[i] = .ok rows[i] := hforall.get hi hi'
  rw [he] at hrow
  rw [column, List.getElem?_append_left (by rwa [List.length_map]), List.getElem?_map,
    List.getElem?_eq_getElem hi', rowOf_eq_ok hrow]
  rfl

end Columns

namespace Entry

/-- The number and the field element that stand for the users of a name, wherever identities are
put. -/
structure IdentifiedBy (name : String) (n : Nat) (x : Scalar) : Prop where
  /-- The number is the identity of every such user. -/
  identity : ∀ balances, identity ⟨.text name, balances⟩ = .ok n
  /-- The field element is that of the number. -/
  encode : x = Scalar.encode n
  /-- The leaf of a user is made of the field element and the balance. -/
  leaf : ∀ balance, Node.leaf ⟨.text name, [balance]⟩ = .ok (.ofPair x (Scalar.encode balance))
  /-- The first column has the field element at the row of a user. -/
  column : ∀ (entries : List Entry) (currencies size : Datum) (columns : List (List Scalar)),
    Columns.evaluations entries currencies size = .ok columns →
      ∀ values, columns[0]? = some values → ∀ (i : Nat) (balances : List Nat),
        entries[i]? = some ⟨.text name, balances⟩ → values[i]? = some x

theorem identifiedBy (name : String) :
    IdentifiedBy name (identityOf name) (Scalar.encode (identityOf name)) where
  identity _ := rfl
  encode := rfl
  leaf _ := rfl
  column _ _ _ _ h _ hvalues _ _ he := Columns.getElem?_column_identity h hvalues he

/-- Two names have one number exactly if their bytes are equal but for zero bytes in front. Two plain
names have one field element exactly if they are equal. -/
theorem exists_identifiedBy (name name' : String) :
    ∃ n x n' x', IdentifiedBy name n x ∧ IdentifiedBy name' n' x' ∧
      (n = n' ↔ Text.significant (Text.utf8 name) = Text.significant (Text.utf8 name')) ∧
      (IsPlain name → IsPlain name' → (x = x' ↔ name = name')) :=
  ⟨_, _, _, _, identifiedBy name, identifiedBy name', Text.ofBigEndian_eq_iff, fun h h' =>
    Scalar.encode_eq_encode_iff.trans (h.identityOf_inj h')⟩

/-- The empty name is as plain as any, and a zero byte in front of another makes no difference. -/
theorem exists_identifiedBy_empty :
    (∃ n x n' x', IdentifiedBy "" n x ∧ IdentifiedBy "a" n' x' ∧ x ≠ x') ∧
      ∃ n x n' x', IdentifiedBy "a" n x ∧ IdentifiedBy "\x00a" n' x' ∧ n = n' := by
  constructor
  · have hempty : IsPlain "" := ⟨by decide +kernel, by decide +kernel⟩
    have ha : IsPlain "a" := ⟨by decide +kernel, by decide +kernel⟩
    obtain ⟨n, x, n', x', h, h', -, hplain⟩ := exists_identifiedBy "" "a"
    exact ⟨n, x, n', x', h, h', fun heq => absurd ((hplain hempty ha).mp heq) (by decide)⟩
  · obtain ⟨n, x, n', x', h, h', hnumber, -⟩ := exists_identifiedBy "a" "\x00a"
    exact ⟨n, x, n', x', h, h', hnumber.mpr (by decide +kernel)⟩

end Entry

end LiabilityProof
