import LiabilityProof.Kzg.Setup
import LiabilityProof.Storage.Directory
import LiabilityProof.Storage.Document
import LiabilityProof.Wire.Parameters

/-!
# Parameter files

Parameters are kept in the table `srs` of a document, in a row of that type with the parameters
as its data; other rows and other tables belong to somebody else and are kept. Loading takes the
first such row in the order of the file. Saving replaces the data of every such row, and adds one
when there is none. It adds in two steps: the table is written as it is, and then once more with
the row.

`TrustedSetup.ofFile` reads the exponent of the domain off the path of the file, and reports
whatever is wrong with the file as a failure of configuration, except for values of the wrong
shape.
-/

namespace LiabilityProof

namespace ParameterFile

/-- The name of the table, and the type of the row, that hold parameters. -/
def recordType : String := "srs"

/-- The parameters in a document; `path` is where it was found. -/
def ofDocument (path : String) (document : Datum) : Except Failure Parameters := do
  match ← Document.search recordType (.text recordType) document with
  | [] => .error (.noParameters path)
  | record :: _ => (← record.field "data") |> Wire.parameters

/-- The parameters in a file. -/
def load (dir : Directory) (path : String) : Except Failure Parameters := do
  let file ← dir.find path
  let document ← file.readOrNull
  ofDocument path document

/-- The document with parameters saved in it. -/
def saveInto (p : Parameters) (document : Datum) : Except Failure Datum :=
  Document.upsert recordType (.text recordType) (Wire.ofParameters p) document

/-- A document that can be written. -/
def writable (document : Datum) : Except Failure Datum :=
  match document.obstacle? with
  | some obstacle => .error (.ofObstacle obstacle)
  | none => .ok document

/-- What a failure to save leaves in a file: what there was, but the table is written anew when no
row has the type and one could not be added. -/
def leftover (p : Parameters) (file : File) : File :=
  let updated := do
    let (document, found) ←
      Document.update recordType (.text recordType) (Wire.ofParameters p) (← file.readOrNull)
    pure (← writable document, found)
  match updated with
  | .ok (document, false) => .document document
  | _ => file

/-- Saves parameters in a file, which is made when there is none. -/
def save (dir : Directory) (path : String) (p : Parameters) : Directory × Except Failure Unit :=
  match dir.place path with
  | .error failure => (dir, .error failure)
  | .ok name =>
    let file := (dir.get? name).getD .empty
    match file.readOrNull >>= saveInto p >>= writable with
    | .ok document => (dir.put name (.document document), .ok ())
    | .error failure => (dir.put name (leftover p file), .error failure)

end ParameterFile

namespace TrustedSetup

/-- A failure to load parameters, as the caller sees it. -/
def loadFailure (path : Datum) (failure : Failure) : Failure :=
  match failure.kind with
  | .value | .json | .encoding | .configuration | .missingField | .file _ =>
    .unreadableParameters path failure
  | _ => failure

/-- The parameters of a file bound to a circuit. -/
def ofFile (dir : Directory) (path currencies : Datum) : Except Failure TrustedSetup := do
  let k ← domainExponent path
  let p ← (Directory.pathOf path >>= ParameterFile.load dir).mapError (loadFailure path)
  bind p (.integer k) currencies path

end TrustedSetup

end LiabilityProof
