import LiabilityProof.Storage.Directory
import LiabilityProof.Storage.Document

/-!
# Files of records

Records are data under keys. A `RecordFile` keeps them in the first table of a document in a file
of a directory, each in a row of which the key is the type. The document is read for every
search and written by every change, so what somebody else does to the file shows.

What was found in the latest searches is remembered until the next change of the records. It is
answered from memory, whatever has become of the file since. The numbers of rows are counted on
from the first row that was added, also past rows that were removed.
-/

namespace LiabilityProof

/-- A file of records. -/
structure RecordFile where
  /-- The name of the file. -/
  name : String
  /-- The number of the next row, once one was added. -/
  next : Option Int
  /-- What was found under the keys searched for, the latest last. -/
  found : List (Datum × List Datum)

namespace RecordFile

/-- The name of the table. -/
def tableName : String := "_default"

/-- How many searches are remembered. -/
def memory : Nat := 10

/-- The file of a name, not read yet. -/
def ofName (name : String) : RecordFile := ⟨name, none, []⟩

/-- The document in the file. -/
def document (f : RecordFile) (dir : Directory) : Except Failure Datum :=
  ((dir.get? f.name).getD .empty).readOrNull

/-- The directory with a document in the file. -/
def write (f : RecordFile) (dir : Directory) (d : Datum) : Directory :=
  dir.put f.name (.document d)

/-- The file without anything remembered. -/
def forget (f : RecordFile) : RecordFile := { f with found := [] }

/-- The file with the answer to a search remembered. -/
def remember (f : RecordFile) (key : Datum) (rows : List Datum) : RecordFile :=
  let kept := f.found.filter fun answer => !answer.1.same key
  { f with found := (kept ++ [(key, rows)]).drop (kept.length + 1 - memory) }

/-- The rows under a key. -/
def search (f : RecordFile) (dir : Directory) (key : Datum) :
    RecordFile × Except Failure (List Datum) :=
  match f.found.find? fun answer => answer.1.same key with
  | some (_, rows) => (f.remember key rows, .ok rows)
  | none =>
    match f.document dir >>= Document.search tableName key with
    | .ok rows => (f.remember key rows, .ok rows)
    | .error failure => (f, .error failure)

/-- Adds a row under the next number. -/
def append (f : RecordFile) (dir : Directory) (key data document : Datum) :
    RecordFile × Directory × Except Failure Unit :=
  let row := Document.fill key data (.object [])
  match Document.append tableName f.next row document with
  | .ok (document, number) =>
    ({ f with next := some (number + 1) }, f.write dir document, .ok ())
  | .error failure => ({ f with next := f.next.map (· + 1) }, dir, .error failure)

/-- Puts data under a key: into the rows that are there, or into a new one. -/
def put (f : RecordFile) (dir : Directory) (key data : Datum) :
    RecordFile × Directory × Except Failure Unit :=
  match f.document dir >>= Document.update tableName key data with
  | .error failure => (f, dir, .error failure)
  | .ok (document, true) => (f.forget, f.write dir document, .ok ())
  | .ok (document, false) => f.forget.append (f.write dir document) key data document

/-- Whether the key of a row starts with a text; only texts do. A row without a key does
not. -/
def isMarked (mark : Datum) : Datum → Except Failure Bool
  | .object fields =>
    match Table.lookup "type" fields, mark with
    | none, _ => .ok false
    | some (.text key), .text mark => .ok (mark.toList.isPrefixOf key.toList)
    | some (.text _), _ => .error .wrongShape
    | some _, _ => .error .noSuchProperty
  | _ => .ok false

/-- Removes the rows whose keys start with a text. -/
def remove (f : RecordFile) (dir : Directory) (mark : Datum) :
    RecordFile × Directory × Except Failure Unit :=
  let result := do
    let document ← f.document dir
    let before ← Document.table tableName document
    let after ← before.filterM fun (row : Int × Datum) => (isMarked mark row.2).map not
    pure (Document.withTable tableName after document)
  match result with
  | .ok document => (f.forget, f.write dir document, .ok ())
  | .error failure => (f, dir, .error failure)

end RecordFile

end LiabilityProof
