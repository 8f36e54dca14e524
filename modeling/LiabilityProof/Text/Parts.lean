/-!
# Texts cut at a separator

`parts sep cs` is what stands between the separators of a text: one part more than there are
separators, some of them perhaps empty. `joined` puts the parts together again.
-/

namespace LiabilityProof

namespace Text

/-- The parts of a text between separators. -/
def parts (sep : Char) : List Char → List (List Char)
  | [] => [[]]
  | c :: rest =>
    if c = sep then [] :: parts sep rest
    else
      match parts sep rest with
      | part :: others => (c :: part) :: others
      | [] => [[c]]

/-- Parts with a separator between every two of them. -/
def joined (sep : Char) : List (List Char) → List Char
  | [] => []
  | [part] => part
  | part :: others => part ++ sep :: joined sep others

/-- A text without separators is its only part. -/
theorem parts_of_not_mem {sep : Char} {cs : List Char} (h : sep ∉ cs) : parts sep cs = [cs] := by
  induction cs with
  | nil => rfl
  | cons c rest ih =>
    rw [List.mem_cons, not_or] at h
    rw [parts, if_neg (Ne.symm h.1), ih h.2]

/-- What stands before the first separator, and what follows it if there is one. -/
def cut (sep : Char) (cs : List Char) : List Char × Option (List Char) :=
  match cs.dropWhile (· ≠ sep) with
  | _ :: rest => (cs.takeWhile (· ≠ sep), some rest)
  | [] => (cs, none)

/-- What stands before the last separator, if there is one, and what follows it. -/
def cutLast (sep : Char) (cs : List Char) : Option (List Char) × List Char :=
  let (behind, before) := cut sep cs.reverse
  (before.map List.reverse, behind.reverse)

end Text

end LiabilityProof
