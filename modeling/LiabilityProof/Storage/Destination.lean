import LiabilityProof.Failure
import LiabilityProof.Text.Hex
import LiabilityProof.Text.Parts

/-!
# Where paths lead

All files stand in one flat directory, and a path is followed from there: parts between slashes
are followed one after the other, a single dot stays and two dots leave the directory. Outside of
it nothing is known to exist. A path that ends in a slash asks for a directory.
-/

namespace LiabilityProof

/-- Where a path leads. -/
inductive Destination where
  /-- To the place of a file, which need not be there, with a slash behind its name or not. -/
  | file (name : String) (slashed : Bool)
  /-- To a directory. -/
  | directory
deriving DecidableEq

namespace Destination

/-- The largest number of bytes of a name. -/
def maxName : Nat := 255

/-- The number of bytes from which on a path is too long. -/
def pathLimit : Nat := 4096

/-- Follows the parts of a path from inside the directory or from outside. -/
def follow (known : String → Bool) (slashed : Bool) :
    Bool → List (List Char) → Except FileProblem Destination
  | _, [] => .ok directory
  | inside, part :: rest =>
    let name := String.ofList part
    if part = ['.'] then follow known slashed inside rest
    else if part = ['.', '.'] then follow known slashed false rest
    else if maxName < name.utf8ByteSize then .error .nameTooLong
    else if inside = false then .error .missing
    else if rest.isEmpty then .ok (file name slashed)
    else if known name then .error .notDirectory
    else .error .missing

/-- Where a path leads, where the files that are there are known. -/
def ofPath (known : String → Bool) (path : String) : Except Failure Destination :=
  let cs := path.toList
  if cs.contains '\x00' then .error .embeddedNull
  else if cs.isEmpty then .error (.file .missing path)
  else if pathLimit ≤ path.utf8ByteSize then .error (.file .nameTooLong path)
  else
    let names := (Text.parts '/' cs).filter fun part => !part.isEmpty
    (follow known (cs.getLast? == some '/') (cs.head? != some '/') names).mapError
      (Failure.file · path)

/-- Whether a text is a name that a file can have and that nothing follows through. -/
def isPlain (name : String) : Bool :=
  !name.toList.contains '/' && !name.toList.contains '\x00' && !name.toList.isEmpty &&
    name.toList != ['.'] && name.toList != ['.', '.'] && decide (name.utf8ByteSize ≤ maxName)

/-- A plain name leads to the place of its file. -/
theorem ofPath_of_isPlain (known : String → Bool) {name : String} (h : isPlain name = true) :
    ofPath known name = .ok (file name false) := by
  simp only [isPlain, Bool.and_eq_true, Bool.not_eq_true', bne_iff_ne, ne_eq,
    decide_eq_true_eq] at h
  obtain ⟨⟨⟨⟨⟨hslash, hnull⟩, hempty⟩, hdot⟩, hdots⟩, hlen⟩ := h
  have hmem : '/' ∉ name.toList := by simpa using hslash
  have hlast : name.toList.getLast? ≠ some '/' := fun h => hmem (List.mem_of_getLast? h)
  have hhead : name.toList.head? ≠ some '/' := fun h => hmem (List.mem_of_head? h)
  have hshort : ¬ pathLimit ≤ name.utf8ByteSize := by
    simp only [pathLimit, maxName] at *
    omega
  have hlong : ¬ maxName < name.utf8ByteSize := by omega
  have hleads : follow known (name.toList.getLast? == some '/') (name.toList.head? != some '/')
      [name.toList] = .ok (file name false) := by
    simp [follow, hdot, hdots, hlong, hlast, hhead]
  simp only [ofPath, hnull, Bool.false_eq_true, if_false, hempty, hshort,
    Text.parts_of_not_mem hmem, List.filter_cons, Bool.not_false, if_true, List.filter_nil, hleads]
  rfl

end Destination

end LiabilityProof
