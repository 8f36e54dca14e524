import LiabilityProof.Proofs.Epoch.Publication
import LiabilityProof.Proofs.Server.Mirror

/-!
# Records are invisible

From the start on, every event keeps the state of a server a mirror of the reference server. So
after any events, no answer shows whether it was recorded or computed (`run_refines_reference`).

Registrations complete if the timestamps of their rounds can be shown and the commitments can be
computed (`Mirrors.completes`).
-/

namespace LiabilityProof

variable {E : PairingGroups} {settings : Settings}

namespace Mirrors

variable {s : State} {table : List (Int × Round)} {room : Nat}

/-- An event leaves a mirror of the reference after the event. -/
theorem step (h : Mirrors E s table (room + 1)) {event : Event}
    (hcompletes : ∀ r, event = .registration r → ∃ d, (s.register E r.round).2 = .ok d) :
    Mirrors E (Service.step E settings s event) (Reference.step table event) room := by
  cases event with
  | registration r =>
    obtain ⟨d, hregister⟩ := hcompletes r rfl
    obtain ⟨hshort, hsummary⟩ := h.summary_of_register r hregister
    obtain ⟨s', hregister', h'⟩ := h.register_of_summary r hshort hsummary
    rw [Service.step, hregister']
    exact h'
  | request q => exact (h.respond settings q).1

/-- Events leave a mirror of the reference after the events. -/
theorem run {events : List Event} (h : Mirrors E s table (room + events.length))
    (hcompletes : Service.Completes E settings s events) :
    Mirrors E (Service.run E settings s events) (events.foldl Reference.step table) room := by
  induction events generalizing s table with
  | nil => exact h
  | cons event events ih => exact ih (h.step hcompletes.1) hcompletes.2

/-- All registrations complete if the timestamps of the rounds can be shown and their commitments
can be computed. -/
theorem completes {events : List Event} (h : Mirrors E s table (room + events.length))
    (hsummary : ∀ r, .registration r ∈ events →
      Text.isTooLong r.number = false ∧ ∃ d, State.summary E r.round = .ok d) :
    Service.Completes E settings s events := by
  induction events generalizing s table with
  | nil => trivial
  | cons event events ih =>
    have hcompletes : ∀ r, event = .registration r → ∃ d, (s.register E r.round).2 = .ok d := by
      rintro r rfl
      obtain ⟨hshort, d, hd⟩ := hsummary r List.mem_cons_self
      obtain ⟨s', hregister, -⟩ := h.register_of_summary r hshort hd
      exact ⟨d, congrArg Prod.snd hregister⟩
    exact ⟨hcompletes,
      ih (h.step hcompletes) fun r hr => hsummary r (List.mem_cons_of_mem event hr)⟩

/-- A state without rounds and records mirrors a reference that has none. -/
theorem of_start {dir : Directory} {path : Datum} (hstart : State.start dir path = .ok s)
    (hfresh : s.IsFresh room) : Mirrors E s [] room := by
  obtain ⟨hrounds, hholds⟩ := State.holds_of_start hstart hfresh
  exact ⟨hrounds ▸ .nil, _, hholds, .nil⟩

end Mirrors

/-! ### What is registered -/

/-- A round on an honest set-up has a summary. -/
theorem State.exists_summary_of_honest {τ : Scalar} {d : Nat} (hE : E.Lawful) {r : Round}
    (hsetup : r.snapshot.setup.Honest E τ d) : ∃ summary, State.summary E r = .ok summary := by
  rw [State.summary, Snapshot.commitment_of_honest hE hsetup]
  exact ⟨_, rfl⟩

/-- There is a round of one user under every timestamp, on a set-up of two rows and with a signer
that accepts everything. -/
theorem exists_boundRound (t : Int) (balance : Nat) : ∃ r : NumberedRound,
    r.number = t ∧ r.round.snapshot.entries = [⟨.text "a", [balance]⟩] ∧
      r.round.snapshot.columns =
        [.constant (Scalar.encode 97), .constant (Scalar.encode balance)] ∧
      TrustedSetup.bind (Parameters.generate .bn254Logarithms (Scalar.encode 3) 1) (.integer 1)
        (.integer 1) .null = .ok r.round.snapshot.setup ∧
      r.round.signer = .recording ∧ r.round.submissions = [] := by
  obtain ⟨setup, hbind, hdomain, hsetup⟩ := TrustedSetup.exists_bind_eq_ok .bn254Logarithms
    (Scalar.encode 3) (by decide : 1 ≤ Scalar.maxDomainExponent) le_rfl
    (by decide : ((2 ^ 1 : Nat) : Int) - 1 ≤ 1) .null
  have hsize : setup.domain.size = 2 := by rw [hdomain]; rfl
  have hfits : Snapshot.mismatch? [.constant (Scalar.encode 97), .constant (Scalar.encode balance)]
      [⟨.text "a", [balance]⟩] setup = none := by
    refine Snapshot.mismatch?_eq_none hsetup rfl ?_ (by simp [hsize]) (by simp)
    rw [hsize]
    simp only [List.forall_mem_cons, List.not_mem_nil, false_implies, implies_true, and_true]
    exact ⟨Poly.degree_ofCoeffs_lt (by simp) two_pos, Poly.degree_ofCoeffs_lt (by simp) two_pos⟩
  exact ⟨⟨⟨.integer t, ⟨_, _, setup, .inTurn, hfits⟩, .recording, []⟩, t, rfl⟩, rfl, rfl, rfl,
    hbind, rfl, rfl⟩

/-- The set-up of this round is honest. -/
theorem exists_recordingRound (t : Int) (balance : Nat) : ∃ r : NumberedRound,
    r.number = t ∧ r.round.snapshot.entries = [⟨.text "a", [balance]⟩] ∧
      r.round.snapshot.columns =
        [.constant (Scalar.encode 97), .constant (Scalar.encode balance)] ∧
      (∃ d, r.round.snapshot.setup.Honest .bn254Logarithms (Scalar.encode 3) d) ∧
      r.round.signer = .recording ∧ r.round.submissions = [] := by
  obtain ⟨r, hnumber, hentries, hcolumns, hbind, hsigner, hsubmissions⟩ :=
    exists_boundRound t balance
  obtain ⟨d, -, hhonest⟩ := TrustedSetup.honest_of_bind hbind
  exact ⟨r, hnumber, hentries, hcolumns, ⟨d, hhonest⟩, hsigner, hsubmissions⟩

/-- There is a round of one user under every timestamp, with a summary. -/
theorem exists_numberedRound (t : Int) (balance : Nat) : ∃ r : NumberedRound,
    r.number = t ∧ r.round.snapshot.entries = [⟨.text "a", [balance]⟩] ∧
      ∃ summary, State.summary .bn254Logarithms r.round = .ok summary := by
  obtain ⟨r, hnumber, hentries, -, ⟨d, hhonest⟩, -⟩ := exists_recordingRound t balance
  exact ⟨r, hnumber, hentries,
    State.exists_summary_of_honest PairingGroups.bn254Logarithms_lawful hhonest⟩

/-! ### Refinement -/

/-- The state of a server whose records do not show. -/
structure State.HidesRecords (E : PairingGroups) (settings : Settings) (s : State)
    (rounds : List (Int × Round)) : Prop where
  /-- What is read is what the reference computes from the rounds. -/
  respond_eq : ∀ q : Request, q.method = .get →
    (Service.respond E settings s q).2 = Reference.respond E settings rounds q
  /-- A proof that is recorded under a registered round is the one that the round gives. -/
  record_proof : ∀ (t : Int) (r : Round), s.round? (.integer t) = some r → ∀ user : Int,
    ∃ d, (s.record (State.proofKey (.integer t) (.integer user))).2 = .ok d ∧
      (d ≠ .null → Service.proofDocument E r user = .ok d)

/-- Records are invisible. After any events on a fresh server of which every registration
completes, whatever is read is answered as by a server that keeps no records and computes every
answer from the round that was registered last. Rows of a file have numbers that can be written,
so a server that keeps its records in a file lives through fewer than `RecordFile.capacity`
events. -/
theorem Service.run_refines_reference (E : PairingGroups) (settings : Settings) {dir : Directory}
    {path : Datum} {s : State} (hstart : State.start dir path = .ok s) {events : List Event}
    (hfresh : s.IsFresh (events.length + 1)) (hcompletes : Completes E settings s events) :
    (run E settings s events).HidesRecords E settings (Reference.run events) := by
  have hmirrors : Mirrors E (run E settings s events) (Reference.run events) 1 :=
    Mirrors.run (by rw [Nat.add_comm]; exact .of_start hstart hfresh) hcompletes
  exact ⟨fun q => (hmirrors.respond settings q).2, fun t r => hmirrors.record_proofKey⟩

/-- The round 1 is proved to its user and then replaced by one of another balance, on a server that
keeps its records in a file. -/
theorem Service.run_refines_reference_of_replaced :
    ∃ (s : State) (r r' : NumberedRound), r.number = 1 ∧ r'.number = 1 ∧
      r.round.snapshot.entries ≠ r'.round.snapshot.entries ∧
      let E := PairingGroups.bn254Logarithms
      let settings := Settings.defaults false
      let events := [.registration r, .request ⟨.get, "/rounds/1/proofs/0", "", []⟩,
        .registration r']
      State.start .empty settings.recordPath = .ok s ∧ s.IsFresh (events.length + 1) ∧
      Completes E settings s events ∧
      (run E settings s events).HidesRecords E settings (Reference.run events) := by
  obtain ⟨r, hnumber, hentries, hsummary⟩ := exists_numberedRound 1 5
  obtain ⟨r', hnumber', hentries', hsummary'⟩ := exists_numberedRound 1 6
  obtain ⟨s, hstart, hfresh⟩ := State.exists_start_of_isPlain
    (by decide : Destination.isPlain "db.json" = true)
    (lt_of_lt_of_le (by decide : 4 < 10) RecordFile.ten_le_capacity)
  have hcompletes : Completes .bn254Logarithms (.defaults false) s
      [.registration r, .request ⟨.get, "/rounds/1/proofs/0", "", []⟩, .registration r'] := by
    have hmirrors : Mirrors .bn254Logarithms s [] (1 + 3) := .of_start hstart hfresh
    refine hmirrors.completes fun r'' hr'' => ?_
    simp only [List.mem_cons, Event.registration.injEq, reduceCtorEq, List.not_mem_nil, or_false,
      false_or] at hr''
    rcases hr'' with rfl | rfl
    · exact ⟨hnumber ▸ Text.isTooLong_one, hsummary⟩
    · exact ⟨hnumber' ▸ Text.isTooLong_one, hsummary'⟩
  refine ⟨s, r, r', hnumber, hnumber', ?_, hstart, hfresh, hcompletes,
    run_refines_reference _ _ hstart hfresh hcompletes⟩
  rw [hentries, hentries']
  simp

end LiabilityProof
