import LiabilityProof.Failure

/-!
# Documents of tables

A document is an object of tables, and a table is an object of rows under integers, which are
written as texts. A row has a type, by which it is found, and data. `Document.update` gives new
data to the rows of a type and `Document.append` adds a row at the end; both write the table
anew, with every number in its plain form, and keep the other tables.

A document that nobody has written yet has no tables.
-/

namespace LiabilityProof

namespace Document

/-- The rows of a table as they are written. -/
def rows (name : String) : Datum → Except Failure (List (String × Datum))
  | .null => .ok []
  | .object tables =>
    match Table.lookup name tables with
    | none => .ok []
    | some (.object rows) => .ok rows
    | some _ => .error .noSuchProperty
  | _ => .error .wrongShape

/-- The tables of a document. -/
def tables : Datum → List (String × Datum)
  | .object tables => tables
  | _ => []

/-- The number of a row. -/
def rowNumber (name : String) : Except Failure Int :=
  (Text.readInteger 10 name).mapError .numeral

/-- Rows by their numbers; of several rows of one number the last counts. -/
def numbered (rows : List (String × Datum)) : Except Failure (List (Int × Datum)) := do
  let pairs ← rows.mapM fun row => (rowNumber row.1).map fun n => (n, row.2)
  pure (pairs.foldl (fun table row => Table.insert row.1 row.2 table) [])

/-- The rows of a table by their numbers. -/
def table (name : String) (document : Datum) : Except Failure (List (Int × Datum)) := do
  numbered (← rows name document)

/-- The document with the rows of a table written. -/
def withTable (name : String) (table : List (Int × Datum)) (document : Datum) : Datum :=
  let rows := table.map fun row => (Text.ofInt row.1, row.2)
  .object (Table.insert name (.object rows) (tables document))

/-- Whether a row has a type. -/
def hasType (type : Datum) : Datum → Bool
  | .object fields =>
    match Table.lookup "type" fields with
    | some t => t.same type
    | none => false
  | _ => false

/-- A row with a type and data. -/
def fill (type data : Datum) : Datum → Datum
  | .object fields => .object (Table.insert "data" data (Table.insert "type" type fields))
  | d => d

/-- The rows of a type in the order of the document. -/
def search (name : String) (type document : Datum) : Except Failure (List Datum) := do
  let found := (← rows name document).filter fun row => hasType type row.2
  found.mapM fun row => (rowNumber row.1).map fun _ => row.2

/-- The document with new data in the rows of a type, and whether there are any. -/
def update (name : String) (type data document : Datum) : Except Failure (Datum × Bool) := do
  let before ← table name document
  let after := before.map fun row =>
    (row.1, if hasType type row.2 then fill type data row.2 else row.2)
  pure (withTable name after document, before.any fun row => hasType type row.2)

/-- The number below the highest. -/
def nextNumber : List (Int × Datum) → Int
  | [] => 1
  | (n, _) :: rest => rest.foldl (fun m row => max m row.1) n + 1

/-- The document with a row added, under a number or under the next. A number of too many digits
cannot be written. -/
def append (name : String) (number : Option Int) (row document : Datum) :
    Except Failure (Datum × Int) := do
  let before ← table name document
  let n := number.getD (nextNumber before)
  if Text.isTooLong n then .error .numeralTooLong
  else if before.any fun row => decide (row.1 = n) then .error (.rowNumberTaken n)
  else pure (withTable name (before ++ [(n, row)]) document, n)

/-- The document with data saved under a type: in the rows that have it, or in a new one. -/
def upsert (name : String) (type data document : Datum) : Except Failure Datum := do
  let (document, found) ← update name type data document
  if found then pure document
  else
    let (document, _) ← append name none (fill type data (.object [])) document
    pure document

end Document

end LiabilityProof
