import LiabilityProof.Proofs.Json.Reader
import LiabilityProof.Proofs.Server.Events
import LiabilityProof.Proofs.Wire.MerkleProof

/-!
# What the verification of sum tree proofs answers

A request to verify a sum tree proof may carry any body. If the body is an object that writes a
proof, the answer is whether this proof verifies; every other body is refused with the status 400,
whatever it holds and wherever in it the first value stands that cannot be read
(`Service.respond_verification`). A body is bytes, and those that are no text are refused as well.
Nothing fails: a document that was read can be shown, so only three kinds of failure can occur while
a proof is read, all of them are refusals, and the verification of a proof that was read always
gives an answer.

Two things decide before the body is looked at, and are left out here: a body that is larger than
the settings allow, and one of values inside values to no end.

The bodies that are answered are those of the documented shape and a few more, in which a text or an
object stands for a row of numbers (`Service.shape_of_verification`).
-/

namespace LiabilityProof

namespace Request

/-- Only a body of values inside values to no end fails to be read. -/
theorem document_cases (q : Request) :
    q.document = .error .tooDeep ∨ ∃ body, q.document = .ok body := by
  have hof : ∀ cs, documentOf cs = .error .tooDeep ∨ ∃ body, documentOf cs = .ok body := by
    intro cs
    rw [documentOf]
    split
    · exact .inr ⟨_, rfl⟩
    · exact .inl rfl
    · exact .inr ⟨_, rfl⟩
  rw [document]
  split
  · cases Text.Encoding.read? q.body with
    | none => exact .inr ⟨none, rfl⟩
    | some cs => exact hof cs
  · exact .inr ⟨none, rfl⟩

/-- The document in a body can be shown. -/
theorem obstacle?_of_document {q : Request} {d : Datum} (h : q.document = .ok (some d)) :
    d.obstacle? = none := by
  have hof : ∀ cs, documentOf cs = .ok (some d) → d.obstacle? = none := by
    intro cs h
    rw [documentOf] at h
    split at h
    next hread => exact Json.obstacle?_of_read (Option.some.inj (Except.ok.inj h) ▸ hread)
    next => cases h
    next => cases h
  rw [document] at h
  split at h
  · cases hread : Text.Encoding.read? q.body with
    | none => rw [hread] at h; cases h
    | some cs => rw [hread] at h; exact hof cs h
  · cases h

end Request

namespace Service

variable {settings : Settings} {q : Request}

/-- A body that is not too large is read as the document that it is. -/
theorem body_of_fits (hsize : settings.refusesBody q.body.length = .ok false) :
    body settings q = q.document := by
  rw [body, Request.document, hsize]
  by_cases hjson : Request.isJson q.contentType = true
  · by_cases hempty : q.body.isEmpty = true
    · rw [List.isEmpty_iff.mp hempty, hjson]
      rfl
    · rw [hjson, Bool.eq_false_iff.mpr hempty]
      rfl
  · rw [Bool.eq_false_iff.mpr hjson]
    rfl

/-! ### Two bodies -/

/-- A request to verify what a text holds, which is sent in UTF-8. -/
def verificationOf (body : String) : Request :=
  ⟨.post, "/merkle/verify", "application/json", body.toUTF8.toList⟩

/-- A proof without siblings, with arrays for its rows. -/
def bodyOfArrays : String :=
  "\x7b\"entry\": \x7b\"username\": \"a\", \"balances\": [\"5\"]\x7d, \"root_hash\": 1, " ++
    "\"sibling_hashes\": [], \"sibling_sums\": [], \"path_indices\": []\x7d"

/-- A proof without siblings, with texts and an object for its rows. -/
def bodyOfTexts : String :=
  "\x7b\"entry\": \x7b\"username\": \"a\", \"balances\": \"5\"\x7d, \"root_hash\": 1, " ++
    "\"sibling_hashes\": \"\", \"sibling_sums\": \x7b\x7d, \"path_indices\": \"\"\x7d"

/-- Whether the body of a request is an object that is read as a proof and passes a check. -/
def readsAs (q : Request) (check : List (String × Datum) → Bool) : Bool :=
  match q.document with
  | .ok (some (.object fields)) =>
    check fields && (Wire.merkleProof (.object fields)).toOption.isSome
  | _ => false

theorem exists_of_readsAs {check : List (String × Datum) → Bool} (h : readsAs q check = true) :
    ∃ fields p, q.document = .ok (some (.object fields)) ∧ check fields = true ∧
      Wire.merkleProof (.object fields) = .ok p := by
  unfold readsAs at h
  split at h
  next fields hdocument =>
    obtain ⟨hcheck, hread⟩ := Bool.and_eq_true_iff.mp h
    cases hcase : Wire.merkleProof (.object fields) with
    | error failure => rw [hcase] at hread; exact absurd hread (by simp [Except.toOption])
    | ok p => exact ⟨fields, p, hdocument, hcheck, hcase⟩
  next => exact absurd h (by simp)

theorem exists_document_bodyOfArrays : ∃ fields p,
    (verificationOf bodyOfArrays).document = .ok (some (.object fields)) ∧
      Wire.merkleProof (.object fields) = .ok p := by
  have hreads : readsAs (verificationOf bodyOfArrays) (fun _ => true) = true := by decide +kernel
  obtain ⟨fields, p, hdocument, -, hread⟩ := exists_of_readsAs hreads
  exact ⟨fields, p, hdocument, hread⟩

/-- The reader takes a text for the row of hashes. -/
theorem exists_document_bodyOfTexts : ∃ fields p,
    (verificationOf bodyOfTexts).document = .ok (some (.object fields)) ∧
      Table.lookup "sibling_hashes" fields = some (.text "") ∧
        Wire.merkleProof (.object fields) = .ok p := by
  have hreads : readsAs (verificationOf bodyOfTexts) (fun fields =>
      (Table.lookup "sibling_hashes" fields).any fun d => d.same (.text "")) = true := by
    decide +kernel
  obtain ⟨fields, p, hdocument, hcheck, hread⟩ := exists_of_readsAs hreads
  obtain ⟨d, hd, hsame⟩ := (Option.any_eq_true _ _).mp hcheck
  exact ⟨fields, p, hdocument, Datum.same_text_iff.mp hsame ▸ hd, hread⟩

/-! ### Every body is answered -/

/-- The answer to a body: whether the proof that it writes verifies, or a refusal of a body that
writes none. -/
inductive Verification : Option Datum → Response → Prop where
  | verified {fields : List (String × Datum)} {p : MerkleProof} {valid : Bool}
    (hread : Wire.merkleProof (.object fields) = .ok p) (hwrites : Wire.WritesProof fields p)
    (hvalid : p.verdict = .ok valid) :
    Verification (some (.object fields)) (.ok (.object [("valid", .bool valid)]))
  | refused {body : Option Datum} (message : String)
    (hnone : ∀ fields, body = some (.object fields) →
      ∀ p, Wire.merkleProof (.object fields) ≠ .ok p) :
    Verification body (.error 400 message)

theorem Verification.status {body : Option Datum} {response : Response}
    (h : Verification body response) : response.status = 200 ∨ response.status = 400 := by
  cases h with
  | verified => exact .inl rfl
  | refused => exact .inr rfl

/-- Only what writes a proof is verified. -/
theorem Verification.status_eq_iff {body : Option Datum} {response : Response}
    (h : Verification body response) :
    response.status = 200 ↔
      ∃ fields p, body = some (.object fields) ∧ Wire.merkleProof (.object fields) = .ok p := by
  cases h with
  | verified hread hwrites hvalid => exact iff_of_true rfl ⟨_, _, rfl, hread⟩
  | refused message hnone =>
    refine iff_of_false (by simp [Response.error]) ?_
    rintro ⟨fields, p, hbody, hread⟩
    exact hnone fields hbody p hread

/-- Every failure to read a proof is a refusal. -/
theorem readingFailure_of_isMalformed {failure : Failure} (h : Wire.IsMalformed failure.kind) :
    ∃ message, readingFailure failure = .ok (.error 400 message) := by
  rw [readingFailure]
  obtain h | h | h := h <;> exact h ▸ ⟨_, rfl⟩

theorem verification_of_verifyDocument {body : Option Datum}
    (hshown : ∀ d, body = some d → d.obstacle? = none) :
    ∃ response, verifyDocument body = .ok response ∧ Verification body response := by
  unfold verifyDocument
  split
  next fields =>
    -- once a proof is read, its verification cannot fail
    split
    next p hread =>
      have hwrites := Wire.merkleProof_eq_ok_iff.mp hread
      have hverdict := MerkleProof.verdict_eq_ok_verify hwrites.not_runsTooDeep
      rw [hverdict]
      exact ⟨_, rfl, .verified hread hwrites hverdict⟩
    next failure hread =>
      obtain ⟨message, hmessage⟩ :=
        readingFailure_of_isMalformed (Wire.failsOnlyAs_merkleProof (hshown _ rfl) failure hread)
      refine ⟨_, hmessage, .refused message ?_⟩
      rintro fields' hbody p hp
      obtain rfl := Datum.object.inj (Option.some.inj hbody)
      exact absurd (hread.symm.trans hp) (by simp)
  next hbody => exact ⟨_, rfl, .refused _ fun fields hfields => absurd hfields (hbody fields)⟩

/-- A request to verify a proof is answered, and changes nothing. -/
theorem exists_verification (E : PairingGroups) (s : State)
    (hroute : route? settings q = some .verification)
    (hsize : settings.refusesBody q.body.length = .ok false)
    (hdepth : q.document ≠ .error .tooDeep) :
    ∃ body response, q.document = .ok body ∧
      respond E settings s q = (s, .ok response) ∧ Verification body response := by
  obtain hdeep | ⟨body, hbody⟩ := q.document_cases
  · exact absurd hdeep hdepth
  have hshown : ∀ d, body = some d → d.obstacle? = none := by
    rintro d rfl
    exact Request.obstacle?_of_document hbody
  obtain ⟨response, hresponse, hverification⟩ := verification_of_verifyDocument hshown
  refine ⟨body, response, hbody, ?_, hverification⟩
  have hverify : verify settings q = .ok response := by
    rw [verify, body_of_fits hsize, hbody]
    exact hresponse
  rw [respond_of_route E s hroute]
  exact congrArg (Prod.mk s ∘ settle settings) hverify

/-- The verification of sum tree proofs fails in no other way than by a refusal. Whatever the body
of a request holds, if it is not too large and not values inside values to no end, the state is left
as it was, and the answer has the status 200 or 400. It is 200 exactly if the body is an object that
is read as a proof, and then tells whether this proof verifies; every number of the proof is the one
that the body writes. -/
theorem respond_verification (E : PairingGroups) (s : State)
    (hroute : route? settings q = some .verification)
    (hsize : settings.refusesBody q.body.length = .ok false)
    (hdepth : q.document ≠ .error .tooDeep) :
    ∃ body response, q.document = .ok body ∧
      respond E settings s q = (s, .ok response) ∧ Verification body response ∧
      (response.status = 200 ∨ response.status = 400) ∧
      (response.status = 200 ↔
        ∃ fields p, body = some (.object fields) ∧ Wire.merkleProof (.object fields) = .ok p) := by
  obtain ⟨body, response, hbody, hrespond, h⟩ := exists_verification E s hroute hsize hdepth
  exact ⟨body, response, hbody, hrespond, h, h.status, h.status_eq_iff⟩

/-- A proof in a request is read, and the request is answered with 200. -/
theorem respond_verification_bodyOfArrays : ∃ body response,
    (verificationOf bodyOfArrays).document = .ok body ∧
      respond .bn254 (.defaults false) .empty (verificationOf bodyOfArrays) =
        (.empty, .ok response) ∧
      Verification body response ∧ response.status = 200 := by
  obtain ⟨fields, p, hdocument, hread⟩ := exists_document_bodyOfArrays
  have hroute : route? (.defaults false) (verificationOf bodyOfArrays) = some .verification := rfl
  obtain ⟨body, response, hbody, hrespond, h, -, hstatus⟩ :=
    respond_verification .bn254 .empty hroute rfl (by rw [hdocument]; simp)
  obtain rfl := Except.ok.inj (hdocument.symm.trans hbody)
  exact ⟨_, response, hbody, hrespond, h, hstatus.mpr ⟨fields, p, rfl, hread⟩⟩

/-! ### Bodies of other shapes -/

/-- What is answered with 200 has the documented shape, unless a text or an object stands for one of
its rows. The bodies of all other shapes are answered with 400. -/
theorem shape_of_verification (E : PairingGroups) (s : State)
    (hroute : route? settings q = some .verification)
    (hsize : settings.refusesBody q.body.length = .ok false)
    (hdepth : q.document ≠ .error .tooDeep) :
    ∃ body response, q.document = .ok body ∧ respond E settings s q = (s, .ok response) ∧
      (response.status = 200 ↔
        ∃ fields p, body = some (.object fields) ∧ Wire.WritesProof fields p) ∧
      (response.status = 200 → ∃ fields, body = some (.object fields) ∧
        Wire.HasShape Datum.Lists fields ∧
        (Wire.HasShape Wire.ListsArray fields ∨ ∃ d, Wire.StandsForRow fields d ∧
          ((∃ text, d = .text text) ∨ ∃ inner, d = .object inner))) ∧
      ((∀ fields, body = some (.object fields) → ¬Wire.HasShape Datum.Lists fields) →
        ∃ message, response = .error 400 message) := by
  obtain ⟨body, response, hbody, hrespond, h⟩ := exists_verification E s hroute hsize hdepth
  refine ⟨body, response, hbody, hrespond, ?_, fun hstatus => ?_, fun hshape => ?_⟩
  · simp only [h.status_eq_iff, Wire.merkleProof_eq_ok_iff]
  · obtain ⟨fields, p, rfl, hread⟩ := h.status_eq_iff.mp hstatus
    have hhas := (Wire.merkleProof_eq_ok_iff.mp hread).hasShape
    exact ⟨fields, rfl, hhas, hhas.arrays_or⟩
  · cases h with
    | verified hread hwrites hvalid => exact absurd hwrites.hasShape (hshape _ rfl)
    | refused message hnone => exact ⟨message, rfl⟩

/-- A text stands for a row of a proof that is answered with 200. -/
theorem shape_of_verification_bodyOfTexts : ∃ fields response,
    (verificationOf bodyOfTexts).document = .ok (some (.object fields)) ∧
      respond .bn254 (.defaults false) .empty (verificationOf bodyOfTexts) =
        (.empty, .ok response) ∧
      response.status = 200 ∧ Wire.HasShape Datum.Lists fields := by
  obtain ⟨fields, p, hdocument, -, hread⟩ := exists_document_bodyOfTexts
  have hroute : route? (.defaults false) (verificationOf bodyOfTexts) = some .verification := rfl
  obtain ⟨body, response, hbody, hrespond, hstatus, hshape, -⟩ :=
    shape_of_verification .bn254 .empty hroute rfl (by rw [hdocument]; simp)
  obtain rfl := Except.ok.inj (hdocument.symm.trans hbody)
  have h200 := hstatus.mpr ⟨fields, p, rfl, Wire.merkleProof_eq_ok_iff.mp hread⟩
  obtain ⟨fields', hfields, hhas, -⟩ := hshape h200
  obtain rfl := Datum.object.inj (Option.some.inj hfields)
  exact ⟨fields, response, hdocument, hrespond, h200, hhas⟩

/-- A proof that has texts and an object where it should have arrays is answered with 200. -/
theorem exists_verification_of_texts : ∃ fields response,
    (verificationOf bodyOfTexts).document = .ok (some (.object fields)) ∧
      respond .bn254 (.defaults false) .empty (verificationOf bodyOfTexts) =
        (.empty, .ok response) ∧
      response.status = 200 ∧ ¬Wire.HasShape Wire.ListsArray fields := by
  obtain ⟨fields, p, hdocument, hrow, hread⟩ := exists_document_bodyOfTexts
  have hroute : route? (.defaults false) (verificationOf bodyOfTexts) = some .verification := rfl
  obtain ⟨body, response, hbody, hrespond, h⟩ :=
    exists_verification .bn254 .empty hroute rfl (by rw [hdocument]; simp)
  obtain rfl := Except.ok.inj (hdocument.symm.trans hbody)
  refine ⟨fields, response, hdocument, hrespond, h.status_eq_iff.mpr ⟨fields, p, rfl, hread⟩, ?_⟩
  rintro ⟨-, -, ⟨d, members, hlookup, harray, -⟩, -, -⟩
  exact absurd (Option.some.inj (hrow.symm.trans hlookup)) (harray ▸ by simp)

end Service

end LiabilityProof
