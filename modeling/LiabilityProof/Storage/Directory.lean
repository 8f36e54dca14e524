import LiabilityProof.Failure
import LiabilityProof.Json.Printer
import LiabilityProof.Json.Reader
import LiabilityProof.Storage.Destination

/-!
# Files

A directory is flat, and paths are followed in it as `Destination` says. A file holds bytes
nobody has read yet, or a document that was written by the library; a document that was written
is read back as it is, so it is kept as it is.

Reading bytes as a document takes UTF-8, takes every line end for a line feed, and refuses
integers of more digits than a numeral may have.
-/

namespace LiabilityProof

/-- What a file holds. -/
inductive File where
  | bytes (content : ByteArray)
  | document (d : Datum)

namespace File

/-- A file of nothing. -/
def empty : File := bytes .empty

/-- The characters with every line end as one line feed. -/
def unifyLineEnds : List Char → List Char
  | '\r' :: '\n' :: rest => '\n' :: unifyLineEnds rest
  | '\r' :: rest => '\n' :: unifyLineEnds rest
  | c :: rest => c :: unifyLineEnds rest
  | [] => []

/-- A fault of a document as a failure. -/
def failureOf : Json.Fault → Failure
  | .malformed fault => .notJson fault
  | .tooManyDigits count => .numeral (.tooManyDigits count)
  | .tooDeep => .tooDeep

/-- The document that a file writes. -/
def read : File → Except Failure Datum
  | document d => .ok d
  | bytes content =>
    match String.fromUTF8? content with
    | none => .error .notUtf8
    | some text => (Json.read .standard (unifyLineEnds text.toList)).mapError failureOf

/-- The document that a file writes, where an empty file writes nothing. -/
def readOrNull : File → Except Failure Datum
  | document d => .ok d
  | bytes content => if content.size = 0 then .ok .null else read (bytes content)

/-- The bytes of a file. -/
def toBytes : File → ByteArray
  | document d => (Json.render d).toUTF8
  | bytes content => content

end File

/-- A flat directory. -/
structure Directory where
  /-- The files, under distinct names. -/
  files : List (String × File)

namespace Directory

/-- The directory without files. -/
def empty : Directory := ⟨[]⟩

/-- The file under a name. -/
def get? (dir : Directory) (name : String) : Option File := Table.lookup name dir.files

/-- The directory with a file written. -/
def put (dir : Directory) (name : String) (file : File) : Directory :=
  ⟨Table.insert name file dir.files⟩

/-- A file that was written is there, and no other file changes. -/
theorem get?_put (dir : Directory) (name other : String) (file : File) :
    (dir.put name file).get? other = if name = other then some file else dir.get? other :=
  Table.lookup_insert name other file dir.files

/-! ### Paths -/

/-- Where a path leads in a directory. -/
def follow (dir : Directory) (path : String) : Except Failure Destination :=
  Destination.ofPath (fun name => (dir.get? name).isSome) path

/-- The file at a path, which has to exist. -/
def find (dir : Directory) (path : String) : Except Failure File := do
  match ← dir.follow path with
  | .directory => .error (.file .isDirectory path)
  | .file name slashed =>
    match dir.get? name with
    | some file => if slashed then .error (.file .notDirectory path) else pure file
    | none => .error (.file .missing path)

/-- The name of the file to be written at a path. -/
def place (dir : Directory) (path : String) : Except Failure String := do
  match ← dir.follow path with
  | .file name false => pure name
  | _ => .error (.file .isDirectory path)

/-- Whether there is something at a path. -/
def hasPath (dir : Directory) (path : String) : Bool :=
  match dir.follow path with
  | .ok .directory => true
  | .ok (.file name slashed) => !slashed && (dir.get? name).isSome
  | .error _ => false

/-- The least number that is too large to stand for an open file. -/
def handleBound : Int := (Nat.pow 2 31 : Nat)

/-- The path that a value is. A number of 32 bits stands for a file that is open, and none
is. -/
def pathOf : Datum → Except Failure String
  | .text path => .ok path
  | d =>
    match d.asInteger? with
    | some n =>
      .error <|
        if handleBound ≤ n ∨ n < -handleBound then .wrongShape
        else if n < 0 then .negativeHandle
        else .file .badHandle ""
    | none => .error .wrongShape

end Directory

end LiabilityProof
