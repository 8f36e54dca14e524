import LiabilityProof.Proofs.SumTree.Run
import LiabilityProof.Proofs.Wire.Integer

/-!
# Which proofs are accepted

A proof comes from outside, and each of its fields may hold any value. `MerkleProof.Consistent`
says of these values what an accepted proof is: the sequences have one length, the sides are the
integers zero and one, the rest are field elements that need no reduction, and the siblings lead
from the leaf of an entry with a text as its name and one balance to the claimed hash.

Whatever else a proof holds is refused, with one exception. The values are read one after the other
up to the first that is no field element, and its refusal shows it. If it is an array or an object
of too many levels, this ends in a failure that is no refusal (`MerkleProof.RunsTooDeep`), and the
caller gets no answer. Every other failure is a refusal (`AnswersUnless`), and the comparison of
balances at the end never fails.
-/

namespace LiabilityProof

/-! ### What is read from values -/

namespace Datum

/-- Whether a value is a field element, or an integer that is the least non-negative member of its
class. Truth values are no integers here. -/
def IsElement : Datum → Prop
  | scalar _ => True
  | integer n => 0 ≤ n ∧ n < groupOrder
  | _ => False

/-- The field element that a value is. -/
def element : Datum → Scalar
  | scalar a => a
  | integer n => Residue.ofInt n
  | _ => 0

theorem canonical_eq_ok_iff {d : Datum} {a : Scalar} :
    d.canonical = .ok a ↔ d.IsElement ∧ d.element = a := by
  cases d with
  | scalar b => simp [canonical, IsElement, element]
  | integer n =>
    have hfits : Scalar.fits n = true ↔ (integer n).IsElement := by
      simp [Scalar.fits, IsElement]
    by_cases h : Scalar.fits n = true
    · rw [canonical, if_pos h, Except.ok.injEq]
      exact (and_iff_right (hfits.mp h)).symm
    · rw [canonical, if_neg h]
      exact iff_of_false (by simp) fun hn => h (hfits.mpr hn.1)
  | null | bool | double | text | array | object => simp [canonical, IsElement]

theorem IsElement.obstacle?_ne_tooDeep {d : Datum} (h : d.IsElement) :
    d.obstacle? ≠ some .tooDeep := by
  cases d with
  | scalar a => simp
  | integer n => exact obstacle?_integer_ne_tooDeep n
  | null | bool | double | text | array | object => exact h.elim

end Datum

namespace Entry

theorem identity_eq_ok_iff {e : Entry} {n : Nat} :
    e.identity = .ok n ↔ ∃ name, e.username = .text name ∧ identityOf name = n := by
  rw [identity]
  split
  next name h => simp [h]
  next h => exact iff_of_false (by simp) fun ⟨name, hname, _⟩ => h name hname

theorem balance_eq_ok_iff {e : Entry} {b : Nat} : e.balance = .ok b ↔ e.balances = [b] := by
  rw [balance, onlyBalance.eq_def]
  split
  next b' h => simp [h]
  next h => exact iff_of_false (by simp) (h b)

end Entry

namespace MerkleProof

/-! ### Refusals -/

/-- A computation that runs too deep if some condition holds, and in which nothing goes wrong but by
a refusal if it does not. -/
structure AnswersUnless {α : Type} (deep : Prop) (x : Except Failure α) : Prop where
  tooDeep : deep → x = .error .tooDeep
  refusal : ¬deep → FailsOnlyAs (isRefusal · = true) x

/-- Going through the values, one comes to one that is too deep before any other that is no field
element. -/
inductive ReachesTooDeep : List Datum → Prop where
  | here {d : Datum} {rest : List Datum} (hd : d.obstacle? = some .tooDeep) :
    ReachesTooDeep (d :: rest)
  | further {d : Datum} {rest : List Datum} (hd : d.IsElement) (hrest : ReachesTooDeep rest) :
    ReachesTooDeep (d :: rest)

namespace AnswersUnless

variable {α β : Type}

theorem congr {deep deep' : Prop} {x : Except Failure α} (hx : AnswersUnless deep x)
    (h : deep ↔ deep') : AnswersUnless deep' x := by
  rwa [← h]

theorem ok (a : α) : AnswersUnless False (.ok a) := ⟨False.elim, fun _ => .ok a⟩

theorem error {failure : Failure} (h : isRefusal failure.kind = true) :
    AnswersUnless False (.error failure : Except Failure α) := ⟨False.elim, fun _ => .error h⟩

theorem bind {deep : Prop} {x : Except Failure α} {f : α → Except Failure β}
    (hx : AnswersUnless False x) (hf : ∀ a, x = .ok a → AnswersUnless deep (f a))
    (hok : deep → ∃ a, x = .ok a) : AnswersUnless deep (x >>= f) where
  tooDeep hdeep := by
    obtain ⟨a, rfl⟩ := hok hdeep
    exact (hf a rfl).tooDeep hdeep
  refusal hdeep := (hx.refusal id).bind fun a ha => (hf a ha).refusal hdeep

theorem onlyBalance (balances : List Nat) : AnswersUnless False (Entry.onlyBalance balances) := by
  rw [Entry.onlyBalance.eq_def]
  split
  · exact ok _
  · exact error rfl

theorem identity (e : Entry) : AnswersUnless False e.identity := by
  rw [Entry.identity]
  split
  · exact ok _
  · exact error rfl

theorem leaf (e : Entry) : AnswersUnless False (Node.leaf e) :=
  (onlyBalance e.balances).bind (fun _ _ => (identity e).bind (fun _ _ => ok _) False.elim) False.elim

theorem entry (p : MerkleProof) : AnswersUnless False p.entry := by
  rw [MerkleProof.entry]
  split
  · exact ok _
  · exact (onlyBalance _).bind (fun _ _ => error rfl) False.elim
  · exact error rfl

end AnswersUnless

/-! ### Values that are read -/

theorem canonical_of_tooDeep {d : Datum} (h : d.obstacle? = some .tooDeep) :
    d.canonical = .error .tooDeep := by
  cases d with
  | integer n => exact absurd h (Datum.obstacle?_integer_ne_tooDeep n)
  | null | bool | double | text | scalar => simp at h
  | array | object =>
    rw [Datum.canonical, Failure.showing_singleton, h]
    · rfl
    · simp
    · simp

/-- A value is read, and what stands behind it only if the value is a field element. -/
theorem AnswersUnless.canonical {α : Type} {d : Datum} {rest : List Datum}
    {f : Scalar → Except Failure α} (hf : ∀ a, AnswersUnless (ReachesTooDeep rest) (f a)) :
    AnswersUnless (ReachesTooDeep (d :: rest)) (d.canonical >>= f) where
  tooDeep hdeep := by
    cases hdeep with
    | here hd => rw [canonical_of_tooDeep hd]; rfl
    | further hd hrest =>
      rw [Datum.canonical_eq_ok_iff.mpr ⟨hd, rfl⟩]
      exact (hf _).tooDeep hrest
  refusal hdeep := by
    refine FailsOnlyAs.bind (Datum.failsOnlyAs_canonical rfl (.inl fun hd => hdeep (.here hd)))
      fun a ha => (hf a).refusal fun hrest => hdeep (.further ?_ hrest)
    exact (Datum.canonical_eq_ok_iff.mp ha).1

/-- The values of the siblings, in the order in which they are read. -/
def siblingValues (hashes sums : List Datum) : List Datum :=
  (hashes.zip sums).flatMap fun sibling => [sibling.1, sibling.2]

/-- The siblings are read value by value, and what stands behind them after all of them. -/
theorem AnswersUnless.stepsOf {α : Type} {hashes sums rest : List Datum} {sides : List Bool}
    (hsums : sums.length = hashes.length) (hsides : sides.length = hashes.length)
    {f : List Step → Except Failure α}
    (hf : ∀ steps, AnswersUnless (ReachesTooDeep rest) (f steps)) :
    AnswersUnless (ReachesTooDeep (siblingValues hashes sums ++ rest))
      (MerkleProof.stepsOf hashes sums sides >>= f) := by
  induction hashes generalizing sums sides f with
  | nil =>
    rw [MerkleProof.stepsOf]
    · exact hf []
    · simp
  | cons hash hashes ih =>
    obtain ⟨sum, sums, rfl⟩ := List.exists_of_length_succ _ hsums
    obtain ⟨right, sides, rfl⟩ := List.exists_of_length_succ _ hsides
    simp only [MerkleProof.stepsOf, Node.ofData, bind_assoc, pure_bind]
    exact canonical fun a => canonical fun b =>
      ih (Nat.succ.inj hsums) (Nat.succ.inj hsides) fun steps => hf _

/-- The values of a proof that have to be field elements, in the order in which they are read. -/
def values (p : MerkleProof) : List Datum :=
  siblingValues p.siblingHashes p.siblingSums ++ [p.rootHash]

/-- The verification of a proof comes to a value that is too deep to be shown: the sequences have
one length, the sides are the integers zero and one, the entry has a leaf, and all values that are
read before are field elements. -/
structure RunsTooDeep (p : MerkleProof) : Prop where
  /-- There are as many sums as hashes. -/
  length_siblingSums : p.siblingSums.length = p.siblingHashes.length
  /-- There are as many sides as hashes. -/
  length_pathIndices : p.pathIndices.length = p.siblingHashes.length
  /-- Every side is the integer zero or one. -/
  pathIndices : ∀ d ∈ p.pathIndices, d = .integer 0 ∨ d = .integer 1
  /-- The entry has a text as its name and one balance. -/
  claimant : ∃ name balance, p.claimant = .entry ⟨.text name, [balance]⟩
  /-- Among the values, one that is too deep comes first. -/
  values : ReachesTooDeep p.values

/-! ### The sides -/

/-- Whether a value names the right side. -/
def isRight : Datum → Bool
  | .integer 1 => true
  | _ => false

theorem side?_eq_some_iff {d : Datum} {right : Bool} :
    side? d = some right ↔ (d = .integer 0 ∨ d = .integer 1) ∧ isRight d = right := by
  unfold side?
  split
  next => simp [isRight]
  next => simp [isRight]
  next hzero hone => exact iff_of_false (by simp) fun h => h.1.elim hzero hone

theorem mapM_side?_eq_some_iff {data : List Datum} {sides : List Bool} :
    data.mapM side? = some sides ↔
      (∀ d ∈ data, d = .integer 0 ∨ d = .integer 1) ∧ data.map isRight = sides := by
  induction data generalizing sides with
  | nil => simp [eq_comm]
  | cons d data ih =>
    simp only [List.mapM_cons, Option.bind_eq_bind, Option.bind_eq_some_iff, side?_eq_some_iff,
      ih, List.forall_mem_cons, List.map_cons]
    constructor
    · rintro ⟨right, ⟨hd, rfl⟩, rest, ⟨hdata, rfl⟩, h⟩
      exact ⟨⟨hd, hdata⟩, Option.some.inj h⟩
    · rintro ⟨⟨hd, hdata⟩, rfl⟩
      exact ⟨_, ⟨hd, rfl⟩, _, ⟨hdata, rfl⟩, rfl⟩

theorem sides?_eq_some_iff {p : MerkleProof} {sides : List Bool} :
    p.sides? = some sides ↔
      (p.siblingSums.length = p.siblingHashes.length ∧
        p.pathIndices.length = p.siblingHashes.length) ∧
      (∀ d ∈ p.pathIndices, d = .integer 0 ∨ d = .integer 1) ∧
        p.pathIndices.map isRight = sides := by
  rw [sides?, depth]
  split
  next h => rw [mapM_side?_eq_some_iff, and_iff_right h]
  next h => exact iff_of_false (by simp) fun h' => h h'.1

/-! ### Answers -/

/-- The entries that have a leaf have a text as their name and one balance. -/
theorem exists_leaf_iff {e : Entry} :
    (∃ leaf, Node.leaf e = .ok leaf) ↔ ∃ name balance, e = ⟨.text name, [balance]⟩ := by
  obtain ⟨username, balances⟩ := e
  simp only [Node.leaf, bind_eq_ok_iff, Entry.balance_eq_ok_iff, Entry.identity_eq_ok_iff]
  constructor
  · rintro ⟨-, balance, rfl, -, ⟨name, rfl, -⟩, -⟩
    exact ⟨name, balance, rfl⟩
  · rintro ⟨name, balance, h⟩
    obtain ⟨rfl, rfl⟩ := Entry.mk.inj h
    exact ⟨_, balance, rfl, _, ⟨name, rfl, rfl⟩, rfl⟩

/-- A check runs too deep when a value does, and is otherwise answered or refused. -/
theorem answersUnless_check (p : MerkleProof) : AnswersUnless p.RunsTooDeep p.check := by
  rw [check]
  split
  next hsides =>
    refine (AnswersUnless.ok false).congr (iff_of_false id fun h => ?_)
    have hsome := sides?_eq_some_iff.mpr
      ⟨⟨h.length_siblingSums, h.length_pathIndices⟩, h.pathIndices, rfl⟩
    exact absurd (hsides.symm.trans hsome) (by simp)
  next sides hsides =>
    obtain ⟨⟨hsums, hindices⟩, hvalues, rfl⟩ := sides?_eq_some_iff.mp hsides
    -- the entry and its leaf are looked at before any value
    refine (AnswersUnless.entry p).bind (fun e he => ?_) fun hdeep => ?_
    · have hclaimant := entry_eq_ok_iff.mp he
      refine (AnswersUnless.leaf e).bind (fun leaf hleaf => ?_) fun hdeep => ?_
      · obtain ⟨name, balance, rfl⟩ := exists_leaf_iff.mp ⟨leaf, hleaf⟩
        have hlength : (p.pathIndices.map isRight).length = p.siblingHashes.length := by
          rw [List.length_map, hindices]
        refine AnswersUnless.congr
          (.stepsOf hsums hlength fun steps => .canonical fun root => .congr (.ok _) ?_)
          ⟨fun h => ⟨hsums, hindices, hvalues, ⟨name, balance, hclaimant⟩, h⟩, fun h => h.values⟩
        exact iff_of_false id fun hreached => by cases hreached
      · obtain ⟨name, balance, h⟩ := hdeep.claimant
        exact exists_leaf_iff.mpr ⟨name, balance, Claimant.entry.inj (hclaimant.symm.trans h)⟩
    · obtain ⟨name, balance, h⟩ := hdeep.claimant
      exact ⟨_, entry_eq_ok_iff.mpr h⟩

/-- Every other proof gets an answer. -/
theorem verdict_eq_ok_verify {p : MerkleProof} (h : ¬p.RunsTooDeep) :
    p.verdict = .ok p.verify := by
  rw [verdict, verify]
  split
  next => rfl
  next failure hfailure => rw [if_pos (p.answersUnless_check.refusal h failure hfailure)]

theorem verdict_of_verify {p : MerkleProof} (h : p.verify = true) : p.verdict = .ok true := by
  rw [verify] at h
  rw [verdict]
  split at h
  next => exact congrArg Except.ok h
  next => exact absurd h Bool.false_ne_true

theorem ReachesTooDeep.exists_mem {ds : List Datum} (h : ReachesTooDeep ds) :
    ∃ d ∈ ds, d.obstacle? = some .tooDeep := by
  induction h with
  | here hd => exact ⟨_, List.mem_cons_self, hd⟩
  | further _ _ ih => exact ih.imp fun d hd => ⟨List.mem_cons_of_mem _ hd.1, hd.2⟩

theorem mem_of_mem_siblingValues {hashes sums : List Datum} {d : Datum}
    (h : d ∈ siblingValues hashes sums) : d ∈ hashes ∨ d ∈ sums := by
  obtain ⟨⟨hash, sum⟩, hsibling, hd⟩ := List.mem_flatMap.mp h
  obtain ⟨hhash, hsum⟩ := List.of_mem_zip hsibling
  obtain rfl | hd := List.mem_cons.mp hd
  · exact .inl hhash
  · exact .inr (List.mem_singleton.mp hd ▸ hsum)

/-- A proof without values that are too deep is answered. -/
theorem not_runsTooDeep {p : MerkleProof}
    (h : ∀ d, d ∈ p.siblingHashes ∨ d ∈ p.siblingSums ∨ d = p.rootHash →
      d.obstacle? ≠ some .tooDeep) : ¬p.RunsTooDeep := by
  intro hdeep
  obtain ⟨d, hd, hobstacle⟩ := hdeep.values.exists_mem
  refine h d ?_ hobstacle
  obtain hd | hd := List.mem_append.mp hd
  · exact (mem_of_mem_siblingValues hd).imp_right .inl
  · exact .inr (.inr (List.mem_singleton.mp hd))

/-! ### Consistent proofs -/

/-- The step that a sibling's values and a side make. -/
def stepAt (hash sum index : Datum) : Step := ⟨⟨hash.element, sum.element⟩, isRight index⟩

/-- The node that the siblings of a proof lead to from a leaf. -/
def rebuilt (p : MerkleProof) (leaf : Node) : Node :=
  (List.zipWith3 stepAt p.siblingHashes p.siblingSums p.pathIndices).foldl (fun n s => s.up n) leaf

/-- What an accepted proof is, value by value. -/
structure Consistent (p : MerkleProof) : Prop where
  /-- There are as many sums as hashes. -/
  length_siblingSums : p.siblingSums.length = p.siblingHashes.length
  /-- There are as many sides as hashes. -/
  length_pathIndices : p.pathIndices.length = p.siblingHashes.length
  /-- Every side is the integer zero or one. -/
  pathIndices : ∀ d ∈ p.pathIndices, d = .integer 0 ∨ d = .integer 1
  /-- Every hash of a sibling is a field element. -/
  siblingHashes : ∀ d ∈ p.siblingHashes, d.IsElement
  /-- Every sum of a sibling is a field element. -/
  siblingSums : ∀ d ∈ p.siblingSums, d.IsElement
  /-- The hash of the root is a field element. -/
  rootHash : p.rootHash.IsElement
  /-- The entry has a text as its name and one balance, and its leaf leads to the root. -/
  leads_up : ∃ name balance, p.claimant = .entry ⟨.text name, [balance]⟩ ∧
    (p.rebuilt (.ofPair (Scalar.encode (Entry.identityOf name)) (Scalar.encode balance))).hash =
      p.rootHash.element

theorem nodeOfData_eq_ok_iff {hash sum : Datum} {n : Node} :
    Node.ofData hash sum = .ok n ↔
      hash.IsElement ∧ sum.IsElement ∧ (⟨hash.element, sum.element⟩ : Node) = n := by
  simp only [Node.ofData, bind_eq_ok_iff, Datum.canonical_eq_ok_iff, pure, Except.pure,
    Except.ok.injEq]
  constructor
  · rintro ⟨_, ⟨hhash, rfl⟩, _, ⟨hsum, rfl⟩, h⟩
    exact ⟨hhash, hsum, h⟩
  · rintro ⟨hhash, hsum, h⟩
    exact ⟨_, ⟨hhash, rfl⟩, _, ⟨hsum, rfl⟩, h⟩

/-- The steps can be read when all their values are field elements. -/
theorem stepsOf_eq_ok_iff {hashes sums indices : List Datum} {steps : List Step}
    (hsums : sums.length = hashes.length) (hindices : indices.length = hashes.length) :
    stepsOf hashes sums (indices.map isRight) = .ok steps ↔
      (∀ d ∈ hashes, d.IsElement) ∧ (∀ d ∈ sums, d.IsElement) ∧
        List.zipWith3 stepAt hashes sums indices = steps := by
  induction hashes generalizing sums indices steps with
  | nil =>
    obtain rfl := List.eq_nil_of_length_eq_zero hsums
    obtain rfl := List.eq_nil_of_length_eq_zero hindices
    simp [stepsOf, List.zipWith3]
  | cons hash hashes ih =>
    obtain ⟨sum, sums, rfl⟩ := List.exists_of_length_succ _ hsums
    obtain ⟨index, indices, rfl⟩ := List.exists_of_length_succ _ hindices
    simp only [List.map_cons, stepsOf, bind_eq_ok_iff, nodeOfData_eq_ok_iff,
      ih (Nat.succ.inj hsums) (Nat.succ.inj hindices), List.forall_mem_cons, pure, Except.pure,
      Except.ok.injEq]
    constructor
    · rintro ⟨_, ⟨hhash, hsum, rfl⟩, _, ⟨hhashes, hsums, rfl⟩, h⟩
      exact ⟨⟨hhash, hhashes⟩, ⟨hsum, hsums⟩, h⟩
    · rintro ⟨⟨hhash, hhashes⟩, ⟨hsum, hsums⟩, h⟩
      exact ⟨_, ⟨hhash, hsum, rfl⟩, _, ⟨hhashes, hsums, rfl⟩, h⟩

/-- What the climb reaches is the node of the steps. -/
theorem fst_climb (leaf : Node) (steps : List Step) :
    (climb leaf steps).1 = steps.foldl (fun n s => s.up n) leaf := by
  induction steps using List.reverseRecOn with
  | nil => rfl
  | append_singleton steps s ih => rw [climb_append_singleton, List.foldl_append, ih]; rfl

/-- The proofs that are accepted are the consistent ones. -/
theorem verify_eq_true_iff_consistent {p : MerkleProof} : p.verify = true ↔ p.Consistent := by
  rw [verify_eq_true_iff]
  constructor
  · rintro ⟨r, hr, hroot⟩
    obtain ⟨⟨username, balances⟩, identity, balance, hclaimant, hidentity, hbalance, hri, hrb⟩ :=
      hr.claimant
    obtain ⟨name, rfl, rfl⟩ := Entry.identity_eq_ok_iff.mp hidentity
    obtain rfl := Entry.balance_eq_ok_iff.mp hbalance
    obtain ⟨sides, hsides, hsteps⟩ := hr.steps
    obtain ⟨⟨hsums, hindices⟩, hvalues, rfl⟩ := sides?_eq_some_iff.mp hsides
    obtain ⟨hhashElements, hsumElements, hlist⟩ := (stepsOf_eq_ok_iff hsums hindices).mp hsteps
    obtain ⟨hrootElement, hhash⟩ := Datum.canonical_eq_ok_iff.mp hroot
    refine ⟨hsums, hindices, hvalues, hhashElements, hsumElements, hrootElement, name, balance,
      hclaimant, ?_⟩
    rw [hhash, Reading.running_zero, fst_climb, rebuilt, hlist, Reading.leaf, hri, hrb]
  · rintro ⟨hsums, hindices, hvalues, hhashElements, hsumElements, hrootElement, name, balance,
      hclaimant, hhash⟩
    have hsides : p.sides? = some (p.pathIndices.map isRight) :=
      sides?_eq_some_iff.mpr ⟨⟨hsums, hindices⟩, hvalues, rfl⟩
    have hsteps := (stepsOf_eq_ok_iff hsums hindices).mpr ⟨hhashElements, hsumElements, rfl⟩
    refine ⟨⟨Scalar.encode (Entry.identityOf name), Scalar.encode balance, _⟩,
      ⟨⟨_, _, _, hclaimant, rfl, rfl, rfl, rfl⟩, _, hsides, hsteps⟩, ?_⟩
    rw [Reading.running_zero, fst_climb]
    exact Datum.canonical_eq_ok_iff.mpr ⟨hrootElement, hhash.symm⟩

end MerkleProof

namespace MerkleProof

end MerkleProof

end LiabilityProof
