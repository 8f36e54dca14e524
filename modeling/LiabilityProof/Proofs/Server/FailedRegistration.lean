import LiabilityProof.Proofs.Kzg.Capacity
import LiabilityProof.Proofs.Server.Events
import LiabilityProof.Proofs.Server.Interleaving

/-!
# Registrations that fail

A registration drops the proofs of its timestamp first, sets the round next, and only then computes
the summary. So where the timestamp can be no key or there is no summary, the registration fails
after the proofs are gone, and in the second case with the round in its place
(`State.register_failed`). The records of other keys stay: the summary of the round that was there
before is answered on, while the list and the proofs are those of the round that failed. Only where
the timestamp cannot be shown does the registration fail before anything is changed.
-/

namespace LiabilityProof

open State (summaryName proofName)
open Document (startsWith)

variable {E : PairingGroups}

namespace State

variable {s : State} {view : String → Datum} {room : Nat}

/-- A view without the proofs of a timestamp. -/
def withoutProofs (timestamp : Datum) (view : String → Datum) : String → Datum := fun key =>
  if startsWith (proofMark timestamp) key then .null else view key

/-! ### Answers for a round that is there -/

section Answers

variable {r : Round} {t u : Int}

/-- A round is answered for with the summary that is recorded, if there is one. -/
theorem Holds.showRound (h : s.Holds view room) (hround : s.round? (.integer t) = some r) :
    (Service.showRound s t).2 = .ok (match view (summaryName t) with
      | .null => Service.unknownRound t
      | summary => .ok summary) := by
  obtain ⟨s', hrecord, hrounds, -⟩ := h.record (summaryName t)
  have hround' : s'.round? (.integer t) = some r := by
    rw [round?, hrounds]
    exact hround
  rw [Service.showRound, summaryKey_integer, hrecord]
  cases view (summaryName t) <;> simp only [hround']

/-- A proof that is recorded is answered with. -/
theorem Holds.proveUser_of_record (h : s.Holds view room)
    (hround : s.round? (.integer t) = some r) (hrecord : view (proofName t u) ≠ .null) :
    (Service.proveUser E s t u).2 = .ok (.ok (view (proofName t u))) := by
  obtain ⟨s', hfound, -⟩ := h.record (proofName t u)
  rw [Service.proveUser]
  simp only [hround, proofKey_integer, hfound]

/-- A user who is in no entry of the round is not found, unless a proof is recorded. -/
theorem Holds.proveUser_of_not_index (h : s.Holds view room)
    (hround : s.round? (.integer t) = some r) (hrecord : view (proofName t u) = .null)
    (hindex : ¬∃ i : Nat, Datum.integer u = .integer i ∧ i < r.snapshot.entries.length)
    (hshort : Text.isTooLong u = false) :
    ∃ words, (Service.proveUser E s t u).2 = .ok (.error 404 words) := by
  obtain ⟨failure, hproof, hkind⟩ := Snapshot.inclusionProof_of_shown (E := E) (s := r.snapshot)
    hindex (Datum.obstacle?_integer_of_short hshort)
  have hdocument : Service.proofDocument E r u = .error failure := by
    rw [Service.proofDocument, Round.inclusionProof, hproof]
    rfl
  obtain ⟨s', hfound, -⟩ := h.record (proofName t u)
  rw [hrecord] at hfound
  rw [Service.proveUser]
  simp only [hround, proofKey_integer, hfound, Service.makeProof, hdocument, Service.proofFailure,
    hkind]
  exact ⟨_, rfl⟩

end Answers

/-! ### What a registration leaves behind -/

/-- Without a text for the timestamp there is no family of proofs to drop, and nothing is done. -/
theorem register_of_obstacle (E : PairingGroups) {r : Round} {obstacle : Datum.Obstacle}
    (hobstacle : r.timestamp.obstacle? = some obstacle) :
    s.register E r = (s, .error (.ofObstacle obstacle)) := by
  rw [register, dropProofs, hobstacle]

/-- The three ends that a registration can come to whose timestamp can be shown. -/
theorem Holds.register_cases (h : s.Holds view (room + 1)) (E : PairingGroups) {r : Round}
    (hshown : r.timestamp.obstacle? = none) :
    (r.timestamp.isKey = false ∧
        (s.register E r).2 = .error .wrongShape ∧ (s.register E r).1.rounds = s.rounds ∧
        (s.register E r).1.Holds (withoutProofs r.timestamp view) room) ∨
      (∃ failure, r.timestamp.isKey = true ∧
        summary E r = .error failure ∧ (s.register E r).2 = .error failure ∧
        (s.register E r).1.rounds = insertRound r.timestamp r s.rounds ∧
        (s.register E r).1.Holds (withoutProofs r.timestamp view) room) ∨
      ∃ d, r.timestamp.isKey = true ∧ summary E r = .ok d ∧ (s.register E r).2 = .ok d := by
  obtain ⟨s₁, hdrop, hrounds₁, hholds₁⟩ := h.dropRecords (proofMark r.timestamp)
  have hdropped : s.dropProofs r.timestamp = (s₁, .ok ()) := by
    rw [dropProofs, hshown]
    exact hdrop
  cases hkey : r.timestamp.isKey with
  | true =>
    have hregister : s.register E r = (s₁.setRound r.timestamp r).recordSummary E r := by
      rw [register, hdropped]
      exact if_pos hkey
    have hrounds : (s₁.setRound r.timestamp r).rounds = insertRound r.timestamp r s.rounds := by
      rw [← hrounds₁]
      rfl
    rw [hregister, recordSummary]
    cases hsummary : summary E r with
    | error failure =>
      exact .inr (.inl ⟨failure, rfl, rfl, rfl, hrounds, hholds₁.mono (Nat.le_succ room)⟩)
    | ok d =>
      obtain ⟨s₂, hput, -, -⟩ := (hholds₁.setRound r.timestamp r).putRecord
        ("round." ++ r.timestamp.display) d
      refine .inr (.inr ⟨d, rfl, rfl, ?_⟩)
      simp only [summaryKey, hput]
      rfl
  | false =>
    have hregister : s.register E r = (s₁, .error .wrongShape) := by
      rw [register, hdropped]
      exact if_neg (by rw [hkey]; exact Bool.false_ne_true)
    rw [hregister]
    exact .inl ⟨rfl, rfl, hrounds₁, hholds₁.mono (Nat.le_succ room)⟩

/-- A registration fails for its timestamp, which cannot be shown or can be no key, or for the
summary of its round. -/
theorem Holds.exists_register_eq_error_iff (h : s.Holds view (room + 1)) (E : PairingGroups)
    (r : Round) :
    (∃ failure, (s.register E r).2 = .error failure) ↔
      r.timestamp.obstacle? ≠ none ∨ r.timestamp.isKey = false ∨
        ∃ failure, summary E r = .error failure := by
  cases hshown : r.timestamp.obstacle? with
  | some obstacle =>
    exact iff_of_true ⟨_, congrArg Prod.snd (register_of_obstacle E hshown)⟩
      (.inl (Option.some_ne_none obstacle))
  | none =>
    obtain ⟨hkey, hresult, -⟩ | ⟨failure, -, hsummary, hresult, -⟩ | ⟨d, hkey, hsummary, hresult⟩ :=
      h.register_cases E hshown
    · exact iff_of_true ⟨_, hresult⟩ (.inr (.inl hkey))
    · exact iff_of_true ⟨_, hresult⟩ (.inr (.inr ⟨_, hsummary⟩))
    · rw [hresult, hkey, hsummary]
      simp

/-- What is put under a timestamp that equals itself is found there. -/
theorem findRound_insertRound_self {timestamp : Datum}
    (hself : timestamp.same timestamp = true) (r : Round) (rounds : List (Datum × Round)) :
    findRound timestamp (insertRound timestamp r rounds) = some r := by
  induction rounds with
  | nil => rw [insertRound, findRound, if_pos hself]
  | cons row rounds ih =>
    obtain ⟨k, old⟩ := row
    rw [insertRound]
    split
    next h => rw [findRound, if_pos h]
    next h => rw [findRound, if_neg h, ih]

/-- What a registration leaves behind that fails after the proofs were dropped. -/
structure AfterFailure (view : String → Datum) (r : Round) (s s' : State) : Prop where
  /-- The round is registered all the same, unless its timestamp can be no key. -/
  rounds : s'.rounds =
    if r.timestamp.isKey then insertRound r.timestamp r s.rounds else s.rounds
  /-- The proofs of the timestamp are gone, and every other record is as it was. -/
  record : ∀ key, (s'.record (.text key)).2 =
    .ok (if startsWith (proofMark r.timestamp) key then .null else view key)
  /-- Under an integer, the round is found, and answered for with the summary of another, if there
  was one. -/
  showRound : ∀ t, r.timestamp = .integer t → s'.round? (.integer t) = some r ∧
    (Service.showRound s' t).2 = .ok (match view (summaryName t) with
      | .null => Service.unknownRound t
      | summary => .ok summary)

theorem Holds.afterFailure (h : s.Holds view (room + 1)) {r : Round} {failure : Failure}
    (hshown : r.timestamp.obstacle? = none) (hfailed : (s.register E r).2 = .error failure) :
    AfterFailure view r s (s.register E r).1 := by
  obtain ⟨hkey, -, hrounds, hholds⟩ | ⟨_, hkey, -, -, hrounds, hholds⟩ | ⟨d, -, -, hresult⟩ :=
    h.register_cases E hshown
  · refine ⟨?_, hholds.record_eq, fun t ht => ?_⟩
    · rw [hkey]
      exact hrounds
    · rw [ht] at hkey
      exact absurd hkey (by simp [Datum.isKey])
  · refine ⟨?_, hholds.record_eq, fun t ht => ?_⟩
    · rw [hkey]
      exact hrounds
    · have hround : (s.register E r).1.round? (.integer t) = some r := by
        have hself : (Datum.integer t).same (.integer t) = true := by
          rw [Datum.same_integer]
          exact decide_eq_true rfl
        rw [round?, hrounds, ht]
        exact findRound_insertRound_self hself r s.rounds
      -- the summary is no proof, and is not dropped with them
      have hview : withoutProofs r.timestamp view (summaryName t) = view (summaryName t) := by
        rw [withoutProofs, ht, proofMark_integer]
        exact if_neg (by rw [startsWith_summaryName]; simp)
      rw [← hview]
      exact ⟨hround, hholds.showRound hround⟩
  · exact absurd (hresult.symm.trans hfailed) (by simp)

/-- When a registration fails, and what it has done then: nothing if the timestamp cannot be shown,
and otherwise as much as stands before the failure. The records that were there can be read before
and after it. -/
theorem register_failed (E : PairingGroups) (h : s.Holds view (room + 1)) (r : Round) :
    ((∃ failure, (s.register E r).2 = .error failure) ↔
        r.timestamp.obstacle? ≠ none ∨ r.timestamp.isKey = false ∨
          ∃ failure, summary E r = .error failure) ∧
      (∀ key, (s.record (.text key)).2 = .ok (view key)) ∧
      (∀ obstacle, r.timestamp.obstacle? = some obstacle →
        s.register E r = (s, .error (.ofObstacle obstacle))) ∧
      ∀ failure, r.timestamp.obstacle? = none → (s.register E r).2 = .error failure →
        AfterFailure view r s (s.register E r).1 :=
  ⟨h.exists_register_eq_error_iff E r, h.record_eq, fun _ => register_of_obstacle E,
    fun _ => h.afterFailure⟩

/-! ### A proof that is lost -/

/-- There is a round of every timestamp without a summary: its set-up was bound, and lacks the
power of `x`. -/
theorem exists_round_without_summary (E : PairingGroups) (t : Int) : ∃ r : NumberedRound,
    r.number = t ∧ r.round.snapshot.entries = [] ∧
      (∃ p, TrustedSetup.bind p (.integer 1) (.integer 1) .null = .ok r.round.snapshot.setup) ∧
      summary E r.round = .error .pastTheEnd := by
  let p : Parameters := ⟨[PairingGroups.generator1],
    [PairingGroups.generator2, PairingGroups.generator2], .integer 1⟩
  let domain : Domain := ⟨1, Scalar.twoPowerRoot 1⟩
  let setup : TrustedSetup := ⟨p, ⟨domain, p.powers1, .integer (1 + 1 : Nat)⟩,
    ⟨domain, p.powers2.take 2, .integer (1 + 1 : Nat)⟩, .integer 1, .null⟩
  have hdomain : Domain.ofDatum (.integer 1) = .ok domain :=
    Domain.ofDatum_natCast (by decide)
  have hbind : TrustedSetup.bind p (.integer 1) (.integer 1) .null = .ok setup :=
    (TrustedSetup.bind_eq_ok_iff rfl).mpr ⟨_, _, rfl, hdomain, le_rfl, le_rfl, rfl⟩
  have hcolumns : setup.columns = .integer (1 + 1 : Nat) := rfl
  have hfits : Snapshot.mismatch? [Poly.power 1, Poly.power 0] [] setup = none := by
    refine Snapshot.mismatch?_eq_none hcolumns rfl ?_ (Nat.zero_le _) (by simp)
    simp only [List.forall_mem_cons, Poly.degree_power]
    exact ⟨by decide, by decide, by simp⟩
  have hmissing : ¬((Poly.power 1).degree < 1 ∨ Poly.power 1 = 0) := by
    rw [Poly.degree_power]
    exact not_or.mpr ⟨lt_irrefl 1, Poly.power_ne_zero 1⟩
  have hcommit : Kzg.commit E (Poly.power 1) setup.parameters.key = .error .pastTheEnd :=
    Kzg.commit_eq_pastTheEnd rfl (by rw [Poly.degree_power]; rfl) hmissing
  refine ⟨⟨⟨.integer t, ⟨_, [], setup, .inTurn, hfits⟩, .recording, []⟩, t, rfl⟩, rfl, rfl,
    ⟨p, hbind⟩, ?_⟩
  rw [summary, Snapshot.commitment, Snapshot.columnCommitments, List.mapM_cons, hcommit]
  rfl

/-- The registration of a round, and a request for the proof of its first user. -/
def proofOfFirst (A : NumberedRound) : List Event :=
  [.registration A, .request ⟨.get, "/rounds/1/proofs/0", "", []⟩]

/-- After them, the proof is recorded. -/
theorem exists_shows_proofOfFirst {A : NumberedRound} {d : Datum} (hA : A.number = 1)
    (hproof : Service.proofDocument E A.round 0 = .ok d) (room : Nat) : ∃ scene : Scene,
    (Service.run E (.defaults false) .empty (proofOfFirst A)).Shows scene room ∧
      scene.round 1 = some A.round ∧ scene.view (proofName 1 0) = d := by
  have hstart : State.start .empty .null = .ok .empty := rfl
  have hfresh : State.empty.IsFresh (room + (proofOfFirst A).length) := rfl
  have hroute : Service.route? (.defaults false) ⟨.get, "/rounds/1/proofs/0", "", []⟩ =
      some (.proof 1 0) := rfl
  have hshort : Text.isTooLong A.number = false := hA ▸ Text.isTooLong_one
  have hround : (Scene.empty.registered E A).round 1 = some A.round := by
    rw [Scene.round_registered _ _ hshort, if_pos hA.symm]
  have hnull : (Scene.empty.registered E A).view (proofName 1 0) = .null := by
    rw [Scene.view_registered_proofName _ _ _ hshort, if_pos hA]
  have hafter : Scene.empty.serveAll E (.defaults false) (proofOfFirst A) =
      (Scene.empty.registered E A).putRecord (proofName 1 0) d := by
    rw [Scene.serveAll, proofOfFirst, List.foldl_cons, List.foldl_cons, List.foldl_nil, Scene.serve,
      Scene.serve, hroute]
    dsimp only
    rw [Scene.performed, Scene.proved, hround]
    dsimp only
    rw [hnull, hproof]
  refine ⟨_, (Shows.of_start hstart hfresh).serveAll, ?_, ?_⟩
  · rw [hafter, Scene.round_putRecord, hround]
  · rw [hafter, Scene.view_putRecord, if_pos rfl]

/-- The round 1 is registered and its first user proved, and then a round without a summary is
registered in its place. -/
theorem register_failed_of_missing_power : ∃ (A B : NumberedRound) (view : String → Datum),
    A.number = 1 ∧ B.number = 1 ∧
    let s := Service.run .bn254Logarithms (.defaults false) .empty (proofOfFirst A)
    s.Holds view (0 + 1) ∧ view (proofName 1 0) ≠ .null ∧
    (s.register .bn254Logarithms B.round).2 = .error .pastTheEnd ∧
    AfterFailure view B.round s (s.register .bn254Logarithms B.round).1 := by
  obtain ⟨A, -, hA, -, ⟨d, hproof, hnull⟩, -⟩ := exists_rounds_with_and_without_user
  obtain ⟨B, hB, -, -, hsummary⟩ := exists_round_without_summary .bn254Logarithms 1
  obtain ⟨scene, hshows, -, hview⟩ := exists_shows_proofOfFirst hA hproof (0 + 1)
  have hshort : Text.isTooLong B.number = false := hB ▸ Text.isTooLong_one
  have hshown : B.round.timestamp.obstacle? = none := by
    rw [B.timestamp_eq, Datum.obstacle?_integer_of_short hshort]
  obtain ⟨s', hregister, -⟩ := hshows.registered (E := .bn254Logarithms) B
  rw [hshort, if_neg Bool.false_ne_true, hsummary] at hregister
  have hresult := congrArg Prod.snd hregister
  obtain ⟨-, -, -, hafter⟩ := register_failed .bn254Logarithms hshows.holds B.round
  exact ⟨A, B, scene.view, hA, hB, hshows.holds, hview ▸ hnull, hresult, hafter _ hshown hresult⟩

/-- The registration fails, and the state is not what it was: the round is in its place, the
recorded proof is gone, and the user to whom it was given is not found any more. -/
theorem exists_registration_not_undone : ∃ (A B : NumberedRound) (d : Datum),
    A.number = 1 ∧ B.number = 1 ∧
    (∃ p, TrustedSetup.bind p (.integer 1) (.integer 1) .null = .ok B.round.snapshot.setup) ∧
    let s := Service.run .bn254Logarithms (.defaults false) .empty (proofOfFirst A)
    let s' := (s.register .bn254Logarithms B.round).1
    (s.register .bn254Logarithms B.round).2 = .error .pastTheEnd ∧
    s.round? (.integer 1) = some A.round ∧ s'.round? (.integer 1) = some B.round ∧
    (s.record (proofKey (.integer 1) (.integer 0))).2 = .ok d ∧ d ≠ .null ∧
    (s'.record (proofKey (.integer 1) (.integer 0))).2 = .ok .null ∧
    (Service.proveUser .bn254Logarithms s 1 0).2 = .ok (.ok d) ∧
    ∃ words, (Service.proveUser .bn254Logarithms s' 1 0).2 = .ok (.error 404 words) := by
  obtain ⟨A, -, hA, -, ⟨d, hproof, hnull⟩, -⟩ := exists_rounds_with_and_without_user
  obtain ⟨B, hB, hentries, hbind, hsummary⟩ := exists_round_without_summary .bn254Logarithms 1
  obtain ⟨scene, hshows, hround, hview⟩ := exists_shows_proofOfFirst hA hproof (0 + 1)
  have hshort : Text.isTooLong B.number = false := hB ▸ Text.isTooLong_one
  have hzero : Text.isTooLong 0 = false := Text.isTooLong_natCast (Nat.pow_pos (by decide))
  obtain ⟨s', hregister, hshows'⟩ := hshows.registered (E := .bn254Logarithms) B
  rw [hshort, if_neg Bool.false_ne_true, hsummary] at hregister
  have hround' : (scene.registered .bn254Logarithms B).round 1 = some B.round := by
    rw [Scene.round_registered _ _ hshort, if_pos hB.symm]
  have hview' : (scene.registered .bn254Logarithms B).view (proofName 1 0) = .null := by
    rw [Scene.view_registered_proofName _ _ _ hshort, if_pos hB]
  have hindex :
      ¬∃ i : Nat, Datum.integer 0 = .integer i ∧ i < B.round.snapshot.entries.length := by
    rw [hentries]
    simp
  refine ⟨A, B, d, hA, hB, hbind, congrArg Prod.snd hregister,
    (hshows.round 1).trans hround, ?_, ?_, hnull, ?_, ?_, ?_⟩
  · rw [hregister]
    exact (hshows'.round 1).trans hround'
  · rw [proofKey_integer, hshows.holds.record_eq, hview]
  · rw [hregister, proofKey_integer, hshows'.holds.record_eq, hview']
  · have hkept := hshows.holds.proveUser_of_record (E := .bn254Logarithms) (t := 1) (u := 0)
      ((hshows.round 1).trans hround) (hview ▸ hnull)
    rw [hkept, hview]
  · rw [hregister]
    exact hshows'.holds.proveUser_of_not_index ((hshows'.round 1).trans hround') hview' hindex
      hzero

end State

end LiabilityProof
