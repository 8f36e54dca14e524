import LiabilityProof.Ledger.Entry
import LiabilityProof.Polynomial.Transform

/-!
# The columns of a ledger

A ledger becomes one column of identities and one column for each currency, each as long as the
domain: the rows past the last user are zero. A column is then the polynomial with these values
on the domain.
-/

namespace LiabilityProof

namespace Columns

/-- The values of an entry in the columns: the identity, and the balances, which have to be as
many as the currencies. The columns of the currencies are there when an entry is refused. -/
def rowOf (currencies : Datum) (e : Entry) : Except Failure (List Scalar) :=
  if (Datum.integer e.balances.length).same currencies then
    e.identity.map fun identity => Scalar.encode identity :: e.balances.map Scalar.encode
  else
    .error (.showing (e.username :: currencies.ifNegative)
      (.balanceCount e.username e.balances.length currencies))

/-- The column of index `j`: one entry of each row, then zeros up to `size`. -/
def column (size : Nat) (rows : List (List Scalar)) (j : Nat) : List Scalar :=
  let values := rows.map fun row => row.getD j 0
  values ++ List.replicate (size - values.length) 0

/-- The length of columns, if columns can be so long. -/
def lengthOf (size : Datum) : Except Failure Nat :=
  match size.asInteger? with
  | none => .error .wrongShape
  | some n =>
    if n.toNat < Nat.pow 2 40 then .ok n.toNat
    else if n.toNat < Nat.pow 2 63 then .error .tooMuch
    else .error .tooWide

/-- The number of columns, and their length. Without columns the length is not looked at. -/
def shape (currencies size : Datum) : Except Failure (Nat × Nat) :=
  match currencies.asInteger? with
  | none => .error .wrongShape
  | some c =>
    if (c + 1).toNat = 0 then .ok (0, 0)
    else (lengthOf size).map fun n => ((c + 1).toNat, n)

/-- The columns of a ledger over `size` rows. -/
def evaluations (entries : List Entry) (currencies size : Datum) :
    Except Failure (List (List Scalar)) :=
  match size.compareInteger? entries.length with
  | none => .error .wrongShape
  | some (some .lt) => .error (.showing [size] (.tooManyUsers entries.length size))
  | some _ => do
    let (width, length) ← shape currencies size
    let rows ← entries.mapM (rowOf currencies)
    pure ((List.range width).map (column length rows))

/-- The columns of a ledger as polynomials over a domain. -/
def polynomials (entries : List Entry) (currencies : Datum) (domain : Domain) :
    Except Failure (List Poly) := do
  let columns ← evaluations entries currencies (.integer domain.size)
  columns.mapM fun values => Transform.interpolate values domain.root

end Columns

end LiabilityProof
