import LiabilityProof.Proofs.Kzg.Capacity
import LiabilityProof.Proofs.Server.Dispatches

/-!
# What a dispatch hands over

The commitment of a round is computed twice: for the summary when the round is registered, and for
the signer when it is dispatched. On honest set-ups it can be computed both times, and nothing that
happens in between changes the snapshot, so the signer is handed what the summary publishes
(`Service.dispatch_hands_over`).

If the signer accepts, the dispatch is noted, and that is all that changes. If it does not, in
whatever way, no record changes, and where it can be told what it failed with (`Verdict.CanBeTold`),
the dispatch fails and the answer has the status 502. A limit of more seconds than a floating-point
number can count is a failure of dispatch too, and then the signer is not called at all
(`Service.exists_dispatch_without_handover`).

A limit that leaves the signer time can be shown, since the doubles end before the numerals do
(`Double.isBeyond_of_isTooLong`). So can the timestamp: a registration under one that cannot comes
to nothing, and may be left out of the events (`Service.run_filter`).
-/

namespace LiabilityProof

open State (dispatchName)

variable {E : PairingGroups} {settings : Settings}

/-- The commitment of a snapshot on an honest set-up can be computed. -/
theorem Snapshot.exists_commitment_of_honest {s : Snapshot} {τ : Scalar} {d : Nat}
    (hsetup : s.setup.Honest E τ d) : ∃ bytes, s.commitment E = .ok bytes := by
  have hcommit : ∀ f ∈ s.columns, ∃ point,
      Kzg.commit E f s.setup.parameters.key = .ok point := by
    intro f hf
    have hdegree := degree_le_of_honest hsetup hf
    refine Kzg.exists_commit (n := d) (by rw [hsetup.parameters_key]; rfl)
      (Int.ofNat_le.mpr hdegree) (.inl ?_)
    rw [hsetup.parameters_key, CommitmentKey.ofSecret, List.length_map,
      Parameters.length_powersFrom]
    omega
  obtain ⟨points, hpoints⟩ := exists_mapM_eq_ok hcommit
  exact ⟨_, by rw [commitment, columnCommitments, hpoints]; rfl⟩

/-- The summary of a round publishes the commitment. -/
theorem State.exists_summary_of_commitment {r : Round} {bytes : List UInt8}
    (hbytes : r.snapshot.commitment E = .ok bytes) :
    ∃ fields, State.summary E r = .ok (.object fields) ∧
      Table.lookup "commitment" fields = some (Wire.ofBytes bytes) := by
  rw [State.summary, hbytes]
  exact ⟨_, rfl, rfl⟩

/-- It can be told what the signer failed with, if it failed. -/
def Verdict.CanBeTold : Verdict → Prop
  | accepted _ | silent => True
  | refused _ reason | failed reason => ∃ words, reason = .ok words

/-! ### Time limits -/

namespace Double

/-- A number of so many bits is rounded to an infinity. -/
theorem ofRatio_eq_infinite {negative : Bool} {n : Nat} (h : 1100 ≤ n.log2) :
    ofRatio negative n 1 = infinite negative := by
  have hone : Nat.log2 1 = 0 := by decide
  rw [ofRatio]
  dsimp only
  rw [hone]
  generalize hexponent : max minExponent _ = e
  have hlt : maxExponent < e := by
    rw [← hexponent, lt_max_iff, maxExponent]
    split <;> omega
  -- rounding up to the next power of two can only raise the exponent
  have hraised : ∀ (c : Prop) [Decidable c] (m m' : Nat),
      e ≤ (if c then (m, e + 1) else (m', e)).2 := by
    intro c _ m m'
    split
    · exact Int.le_add_one le_rfl
    · exact le_rfl
  exact if_pos (hlt.trans_le (hraised ..))

/-- An integer of too many digits lies beyond the doubles. -/
theorem isBeyond_of_isTooLong {n : Int} (h : Text.isTooLong n = true) : isBeyond n = true := by
  have hpow : 10 ^ Text.maxDigits ≤ n.natAbs := by
    by_contra hlt
    rw [Text.isTooLong_eq_false_iff.mpr (not_le.mp hlt)] at h
    exact Bool.false_ne_true h
  have hlog : Text.maxDigits ≤ n.natAbs.log2 := by
    rw [Nat.le_log2 ((Nat.pow_pos (by decide : 0 < 10)).trans_le hpow).ne']
    exact (Nat.pow_le_pow_left (by decide : 2 ≤ 10) Text.maxDigits).trans hpow
  exact decide_eq_true (ofRatio_eq_infinite ((by decide : 1100 ≤ Text.maxDigits).trans hlog))

end Double

namespace Round

/-- A time limit that is absent or positive gives the signer time, unless it is a whole number of
seconds beyond all clocks. -/
theorem limitOf_of_positive {timeout : Datum}
    (h : timeout = .null ∨ timeout.compareInteger? 0 = some (some .gt)) :
    limitOf timeout = if timeout.asInteger?.any Double.isBeyond then .tooLarge else .ample := by
  obtain rfl | h := h
  · rfl
  · unfold limitOf
    split
    · rfl
    · simp only [h]

/-- A limit that leaves the signer time can be shown. -/
theorem obstacle?_of_limitOf {timeout : Datum} (h : limitOf timeout = .ample) :
    timeout.obstacle? = none := by
  cases timeout with
  | integer n =>
    rw [Datum.obstacle?_integer]
    cases hlong : Text.isTooLong n with
    | false => rfl
    | true =>
      simp only [limitOf, Datum.compareInteger?, Datum.asInteger?, Option.map_some,
        Option.any_some, Double.isBeyond_of_isTooLong hlong, if_true] at h
      split at h <;> cases h
  | array | object => cases h
  | null | bool | double | text | scalar => rfl

/-- A verdict that can be told and is no receipt is a failure of dispatch, in words of its own. -/
theorem failure_of_outcome {timestamp timeout : Datum} {v : Verdict} {failure : Failure}
    (htimestamp : timestamp.obstacle? = none) (htimeout : timeout.obstacle? = none)
    (htold : v.CanBeTold) (h : outcome timestamp timeout v = .error failure) :
    failure.kind = .dispatch ∧ failure.words = .ok failure.message := by
  cases v with
  | accepted receipt => cases h
  | refused refusal reason =>
    obtain ⟨words, rfl⟩ := htold
    rw [outcome, Failure.showing_of_forall (List.forall_mem_singleton.mpr htimestamp)] at h
    exact Except.error.inj h ▸ ⟨rfl, rfl⟩
  | failed reason =>
    obtain ⟨words, rfl⟩ := htold
    exact Except.error.inj h ▸ ⟨rfl, rfl⟩
  | silent =>
    rw [outcome, Failure.showing_of_forall (List.forall_mem_cons.mpr
      ⟨htimestamp, List.forall_mem_singleton.mpr htimeout⟩)] at h
    exact Except.error.inj h ▸ ⟨rfl, rfl⟩

end Round

/-! ### Rounds of a run -/

/-- The rounds of the reference are those that were registered. -/
theorem Reference.exists_registration {events : List Event} {t : Int} {r : Round}
    (h : Table.lookup t (run events) = some r) :
    ∃ n : NumberedRound, .registration n ∈ events ∧ n.number = t ∧ n.round = r := by
  induction events using List.reverseRecOn with
  | nil => exact absurd h (by simp [run])
  | append_singleton events event ih =>
    have hstep : run (events ++ [event]) = step (run events) event := List.foldl_concat ..
    have hbefore : Table.lookup t (run events) = some r →
        ∃ n : NumberedRound, .registration n ∈ events ++ [event] ∧ n.number = t ∧ n.round = r := by
      intro h
      obtain ⟨n, hn, hnumber, hround⟩ := ih h
      exact ⟨n, List.mem_append_left _ hn, hnumber, hround⟩
    rw [hstep] at h
    cases event with
    | request q => exact hbefore h
    | registration n =>
      rw [step, Table.lookup_insert] at h
      split at h
      next hnumber => exact ⟨n, by simp, hnumber, Option.some.inj h⟩
      next => exact hbefore h

theorem Follow.numbered {rounds : List (Datum × Round)} {table : List (Int × Round)}
    (h : Follow rounds table) : State.Numbered rounds := by
  intro row hrow
  have hkey : row.1 ∈ (table.map Prod.fst).map Datum.integer :=
    h.map_fst ▸ List.mem_map_of_mem hrow
  obtain ⟨n, -, hn⟩ := List.mem_map.mp hkey
  exact ⟨n, hn.symm⟩

/-- The event is not a registration under a timestamp that cannot be shown. -/
def Event.canBeShown : Event → Bool
  | registration r => !Text.isTooLong r.number
  | request _ => true

/-- Nothing comes of the other events. -/
theorem Service.run_filter (E : PairingGroups) (settings : Settings) (s : State)
    (events : List Event) :
    run E settings s (events.filter Event.canBeShown) = run E settings s events := by
  induction events generalizing s with
  | nil => rfl
  | cons event events ih =>
    rw [List.filter_cons]
    cases hshown : event.canBeShown with
    | true => exact ih _
    | false =>
      have hstep : step E settings s event = s := by
        cases event with
        | request q => cases hshown
        | registration r =>
          rw [Event.canBeShown, Bool.not_eq_false'] at hshown
          rw [step, State.register, r.timestamp_eq, State.dropProofs_integer, if_pos hshown]
      rw [if_neg Bool.false_ne_true, ih, run, run, List.foldl_cons, hstep]

/-- Rounds whose commitments can be computed are registered with their summaries. -/
theorem Mirrors.of_commitments {dir : Directory} {path : Datum} {s : State}
    (hstart : State.start dir path = .ok s) {events : List Event}
    (hfresh : s.IsFresh (events.length + 1))
    (hcommitments : ∀ n, .registration n ∈ events →
      ∃ bytes, n.round.snapshot.commitment E = .ok bytes) :
    Mirrors E (Service.run E settings s events)
      (Reference.run (events.filter Event.canBeShown)) 1 := by
  have hmirrors : Mirrors E s [] (1 + (events.filter Event.canBeShown).length) := by
    refine (Mirrors.of_start hstart hfresh).mono ?_
    have := events.length_filter_le Event.canBeShown
    omega
  rw [← Service.run_filter]
  refine hmirrors.run (hmirrors.completes fun n hn => ?_)
  obtain ⟨hmem, hshown⟩ := List.mem_filter.mp hn
  obtain ⟨bytes, hbytes⟩ := hcommitments n hmem
  obtain ⟨fields, hsummary, -⟩ := State.exists_summary_of_commitment hbytes
  exact ⟨(Bool.not_eq_true' _).mp hshown, _, hsummary⟩

/-! ### One dispatch -/

namespace State

/-- A round is put back where it was found. -/
theorem insertRound_self {timestamp : Datum} {r : Round} {rounds : List (Datum × Round)}
    (h : findRound timestamp rounds = some r) : insertRound timestamp r rounds = rounds := by
  induction rounds with
  | nil => exact absurd h (by simp [findRound])
  | cons row rounds ih =>
    obtain ⟨k, old⟩ := row
    rw [findRound] at h
    rw [insertRound]
    split at h
    next hkey => rw [if_pos hkey, Option.some.inj h]
    next hkey => rw [if_neg hkey, ih h]

/-- A round that replaces another takes its timestamp over. -/
theorem map_fst_insertRound {timestamp : Datum} {r r' : Round} {rounds : List (Datum × Round)}
    (h : findRound timestamp rounds = some r) :
    (insertRound timestamp r' rounds).map Prod.fst = rounds.map Prod.fst := by
  induction rounds with
  | nil => exact absurd h (by simp [findRound])
  | cons row rounds ih =>
    obtain ⟨k, old⟩ := row
    rw [findRound] at h
    rw [insertRound]
    split at h
    next hkey => rw [if_pos hkey, List.map_cons, List.map_cons]
    next hkey => rw [if_neg hkey, List.map_cons, List.map_cons, ih h]

/-- The rounds are those that were there, and the signer of one of them was handed its timestamp
and some bytes once more. -/
structure HandsOver (s s' : State) (t : Int) (r : Round) (bytes : List UInt8) : Prop where
  /-- The timestamps are the same. -/
  timestamps : s'.rounds.map Prod.fst = s.rounds.map Prod.fst
  /-- The round differs in what was handed over. -/
  round : s'.round? (.integer t) =
    some { r with submissions := r.submissions ++ [⟨bytes, .integer t⟩] }
  /-- The other rounds are the same. -/
  others : ∀ t', t' ≠ t → s'.round? (.integer t') = s.round? (.integer t')

/-- The records and the files are as they were. -/
structure KeepsRecords (s s' : State) : Prop where
  /-- The records. -/
  records : s'.records = s.records
  /-- The files. -/
  directory : s'.directory = s.directory

theorem handsOver_of_rounds_eq {s s' : State} {t : Int} {r : Round} {bytes : List UInt8}
    (hnumbered : Numbered s.rounds) (hround : s.round? (.integer t) = some r)
    (hrounds : s'.rounds = insertRound (.integer t)
      { r with submissions := r.submissions ++ [⟨bytes, .integer t⟩] } s.rounds) :
    s.HandsOver s' t r bytes where
  timestamps := by rw [hrounds, map_fst_insertRound hround]
  round := by rw [round?, hrounds, findRound_insertRound hnumbered, if_pos rfl]
  others t' hne := by rw [round?, hrounds, findRound_insertRound hnumbered, if_neg hne, round?]

end State

namespace Service

/-- The dispatch was accepted: the answer says so, and of the records only the note differs. -/
structure Delivers (t : Int) (s : State) (after : State × Except Failure Response) : Prop where
  /-- The answer. -/
  answer : after.2 =
    .ok (.ok (.object [("timestamp", .integer t), ("dispatched", .bool true)]))
  /-- The records. -/
  record : ∀ key, (after.1.record (.text key)).2 =
    if key = dispatchName t then .ok Scene.acceptance else (s.record (.text key)).2

/-- The dispatch of a round failed: the answer tells why, and the records are as they were. -/
structure Withholds (E : PairingGroups) (settings : Settings) (r : Round) (s : State)
    (after : State × Except Failure Response) : Prop extends s.KeepsRecords after.1 where
  /-- What the dispatch of the round fails with is what the answer tells. -/
  answer : ∃ failure, (r.dispatch E settings.dispatchTimeout).2 = .error failure ∧
    failure.kind = .dispatch ∧ after.2 = .ok (.error 502 failure.message)

variable {s : State} {t : Int} {r : Round}

/-- The dispatch of a round that is there is either noted or without a trace among the records. -/
theorem dispatch_cases (E : PairingGroups) (settings : Settings) {view : String → Datum}
    {room : Nat} (hholds : s.Holds view (room + 1)) (hround : s.round? (.integer t) = some r) :
    (dispatch E settings s t).1.rounds =
        State.insertRound (.integer t) (r.dispatch E settings.dispatchTimeout).1 s.rounds ∧
      ((∃ receipt, (r.dispatch E settings.dispatchTimeout).2 = .ok receipt) ∧
          Delivers t s (dispatch E settings s t) ∨
        ∃ failure, (r.dispatch E settings.dispatchTimeout).2 = .error failure ∧
          s.KeepsRecords (dispatch E settings s t).1 ∧
          (failure.kind = .dispatch ∧ failure.words = .ok failure.message →
            Withholds E settings r s (dispatch E settings s t))) := by
  cases hresult : (r.dispatch E settings.dispatchTimeout).2 with
  | ok receipt =>
    have hholds' := hholds.setRound (.integer t) (r.dispatch E settings.dispatchTimeout).1
    obtain ⟨s', hput, hrounds, hnoted⟩ := hholds'.putRecord (dispatchName t) Scene.acceptance
    have hdispatch : dispatch E settings s t =
        (s', .ok (.ok (.object [("timestamp", .integer t), ("dispatched", .bool true)]))) := by
      rw [Scene.acceptance] at hput
      rw [dispatch, hround]
      simp only [hresult, State.dispatchKey_integer, hput]
      rfl
    rw [hdispatch]
    refine ⟨hrounds, .inl ⟨⟨receipt, rfl⟩, rfl, fun key => ?_⟩⟩
    rw [hnoted.record_eq, hholds.record_eq, Function.update_apply]
    split <;> rfl
  | error failure =>
    have hdispatch : dispatch E settings s t =
        (s.setRound (.integer t) (r.dispatch E settings.dispatchTimeout).1,
          if failure.kind = .dispatch then failure.words.map (Response.error 502)
          else .error failure) := by
      rw [dispatch, hround]
      simp only [hresult]
      split <;> rfl
    rw [hdispatch]
    refine ⟨rfl, .inr ⟨failure, rfl, ⟨rfl, rfl⟩, ?_⟩⟩
    rintro ⟨hkind, hwords⟩
    refine ⟨⟨rfl, rfl⟩, failure, hresult, hkind, ?_⟩
    rw [if_pos hkind, hwords]
    rfl

/-- Within the limit, the signer is handed the commitment and decides; beyond all clocks, it is
not asked. -/
theorem dispatch_of_commitment {view : String → Datum} {room : Nat}
    (hholds : s.Holds view (room + 1)) (hnumbered : State.Numbered s.rounds)
    (hround : s.round? (.integer t) = some r) (htimestamp : r.timestamp = .integer t)
    (hshort : Text.isTooLong t = false)
    {bytes : List UInt8} (hbytes : r.snapshot.commitment E = .ok bytes)
    (htime : settings.dispatchTimeout = .null ∨
      settings.dispatchTimeout.compareInteger? 0 = some (some .gt)) :
    let after := dispatch E settings s t
    let verdict := r.signer r.submissions ⟨bytes, .integer t⟩
    (settings.dispatchTimeout.asInteger?.any Double.isBeyond = false →
      s.HandsOver after.1 t r bytes ∧
      ((∃ receipt, verdict = .accepted receipt) → Delivers t s after) ∧
      ((¬∃ receipt, verdict = .accepted receipt) →
        s.KeepsRecords after.1 ∧ (verdict.CanBeTold → Withholds E settings r s after))) ∧
    (settings.dispatchTimeout.asInteger?.any Double.isBeyond = true →
      after.1.rounds = s.rounds ∧ Withholds E settings r s after) := by
  intro after verdict
  have hshown : (Datum.integer t).obstacle? = none := Datum.obstacle?_integer_of_short hshort
  have hlimit := Round.limitOf_of_positive htime
  obtain ⟨hrounds, hcases⟩ := dispatch_cases E settings hholds hround
  refine ⟨fun hclock => ?_, fun hclock => ?_⟩
  · rw [hclock, if_neg Bool.false_ne_true] at hlimit
    have hdispatch : r.dispatch E settings.dispatchTimeout =
        ({ r with submissions := r.submissions ++ [⟨bytes, .integer t⟩] },
          Round.outcome (.integer t) settings.dispatchTimeout verdict) := by
      rw [Round.dispatch, hbytes, hlimit, htimestamp]
    simp only [hdispatch, Round.outcome_eq_ok_iff] at hrounds hcases
    refine ⟨State.handsOver_of_rounds_eq hnumbered hround hrounds, fun haccepted => ?_,
      fun hnot => ?_⟩
    · obtain ⟨-, hdelivers⟩ | ⟨failure, hfailure, -⟩ := hcases
      · exact hdelivers
      · obtain ⟨receipt, hreceipt⟩ := haccepted
        rw [hreceipt] at hfailure
        cases hfailure
    · obtain ⟨haccepted, -⟩ | ⟨failure, hfailure, hkept, hwithholds⟩ := hcases
      · exact absurd haccepted hnot
      · exact ⟨hkept, fun htold => hwithholds
          (Round.failure_of_outcome hshown (Round.obstacle?_of_limitOf hlimit) htold hfailure)⟩
  · rw [hclock, if_pos rfl] at hlimit
    have hdispatch : r.dispatch E settings.dispatchTimeout =
        (r, .error (.dispatchLimitTooLarge (.integer t))) := by
      rw [Round.dispatch, hbytes, hlimit, htimestamp,
        Failure.showing_of_forall (List.forall_mem_singleton.mpr hshown)]
    simp only [hdispatch, reduceCtorEq, exists_false, false_and, false_or] at hrounds hcases
    rw [State.insertRound_self hround] at hrounds
    obtain ⟨failure, hfailure, -, hwithholds⟩ := hcases
    obtain rfl := Except.error.inj hfailure
    exact ⟨hrounds, hwithholds ⟨rfl, rfl⟩⟩

/-! ### Dispatches after events -/

/-- The first round registered on a server is there. -/
theorem round?_registration (E : PairingGroups) (settings : Settings) {A : NumberedRound}
    (hA : A.number = 1) :
    (run E settings .empty [.registration A]).round? (.integer 1) = some A.round := by
  have hstart : State.start .empty .null = .ok .empty := rfl
  have hshows : (run E settings .empty [.registration A]).Shows
      (Scene.empty.serveAll E settings [.registration A]) 0 :=
    (State.Shows.of_start hstart (rfl : State.empty.IsFresh (0 + 1))).serveAll
  exact (hshows.round 1).trans (round_registration hA)

/-- The summary that a round is answered for with publishes the commitment that its snapshot
still has. -/
theorem exists_published {events : List Event} {room : Nat}
    (hmirrors : Mirrors E s (Reference.run events) room)
    (hcommitments : ∀ n, .registration n ∈ events →
      ∃ bytes, n.round.snapshot.commitment E = .ok bytes)
    (hround : s.round? (.integer t) = some r) :
    r.timestamp = .integer t ∧ ∃ bytes fields s',
      r.snapshot.commitment E = .ok bytes ∧ showRound s t = (s', .ok (.ok (.object fields))) ∧
      Table.lookup "commitment" fields = some (Wire.ofBytes bytes) := by
  obtain ⟨hnone, -⟩ | ⟨_, r', hsome, hlookup, halike⟩ := hmirrors.round? t
  · exact absurd (hnone.symm.trans hround) (by simp)
  obtain rfl := Option.some.inj (hround.symm.trans hsome)
  -- the round that was registered differs in what was handed over alone
  obtain ⟨n, hn, rfl, rfl⟩ := Reference.exists_registration hlookup
  obtain ⟨bytes, hbytes⟩ := hcommitments n hn
  obtain ⟨s', hshow, -⟩ := hmirrors.showRound n.number
  obtain ⟨fields, hsummary, hcommitment⟩ := State.exists_summary_of_commitment hbytes
  simp only [Reference.showRound, hlookup, hsummary, Except.map] at hshow
  exact ⟨halike.timestamp.trans n.timestamp_eq, bytes, fields, s',
    halike.snapshot ▸ hbytes, hshow, hcommitment⟩

/-- A dispatch that comes to an answer is answered with it. -/
theorem respond_of_dispatch {q : Request} (hq : route? settings q = some (.dispatch t))
    {response : Response} (h : (dispatch E settings s t).2 = .ok response) :
    respond E settings s q = dispatch E settings s t := by
  have hdispatch : dispatch E settings s t = ((dispatch E settings s t).1, .ok response) :=
    Prod.ext rfl h
  exact (respond_of_perform hq hdispatch).trans hdispatch.symm

/-- What is published is what is handed over. After any events of which the registrations are of
rounds on honest set-ups, let a round be registered under `t`. Then its summary is answered with a
commitment, and a dispatch under a limit that is absent or positive calls the signer once, with the
bytes of this commitment and with `t`. If the signer accepts, the note of the dispatch is the only
change to the records; if it does not, nothing is recorded, and where it can be told what it failed
with, the dispatch fails with the status 502. The rounds are the same apart from what was handed
over.

Under a limit of more whole seconds than a floating-point number can count, the signer is not
called, and the dispatch fails without a change of any kind. -/
theorem dispatch_hands_over (E : PairingGroups) (settings : Settings) {dir : Directory}
    {path : Datum} {s : State} (hstart : State.start dir path = .ok s) {events : List Event}
    (hfresh : s.IsFresh (events.length + 1))
    (hhonest : ∀ n, .registration n ∈ events → ∃ τ d k currencies provenance,
      TrustedSetup.bind (Parameters.generate E τ d) k currencies provenance =
        .ok n.round.snapshot.setup)
    (htime : settings.dispatchTimeout = .null ∨
      settings.dispatchTimeout.compareInteger? 0 = some (some .gt))
    {t : Int} {r : Round} (hround : (run E settings s events).round? (.integer t) = some r)
    {q q' : Request} (hq : route? settings q = some (.round t))
    (hq' : route? settings q' = some (.dispatch t)) :
    let last := run E settings s events
    let after := respond E settings last q'
    ∃ bytes fields,
      (respond E settings last q).2 = .ok (.ok (.object fields)) ∧
      Table.lookup "commitment" fields = some (Wire.ofBytes bytes) ∧
      (settings.dispatchTimeout.asInteger?.any Double.isBeyond = false →
        let verdict := r.signer r.submissions ⟨bytes, .integer t⟩
        last.HandsOver after.1 t r bytes ∧
        ((∃ receipt, verdict = .accepted receipt) → Delivers t last after) ∧
        ((¬∃ receipt, verdict = .accepted receipt) →
          last.KeepsRecords after.1 ∧
            (verdict.CanBeTold → Withholds E settings r last after))) ∧
      (settings.dispatchTimeout.asInteger?.any Double.isBeyond = true →
        after.1.rounds = last.rounds ∧ Withholds E settings r last after) := by
  have hcommitments : ∀ n, .registration n ∈ events →
      ∃ bytes, n.round.snapshot.commitment E = .ok bytes := by
    intro n hn
    obtain ⟨τ, d, k, currencies, provenance, hbind⟩ := hhonest n hn
    obtain ⟨_, -, hsetup⟩ := TrustedSetup.honest_of_bind hbind
    exact Snapshot.exists_commitment_of_honest hsetup
  have hmirrors : Mirrors E (run E settings s events)
      (Reference.run (events.filter Event.canBeShown)) 1 :=
    .of_commitments hstart hfresh hcommitments
  obtain ⟨htimestamp, bytes, fields, s₁, hbytes, hshow, hcommitment⟩ := exists_published hmirrors
    (fun n hn => hcommitments n (List.mem_of_mem_filter hn)) hround
  obtain ⟨view, hholds, -⟩ := hmirrors.holds
  have hshort : Text.isTooLong t = false := isTooLong_of_route? hq t List.mem_cons_self
  obtain ⟨hclock, hbeyond⟩ := dispatch_of_commitment (E := E) hholds hmirrors.follow.numbered
    hround htimestamp hshort hbytes htime
  intro last after
  have hstate : after.1 = (dispatch E settings last t).1 := by
    have hrespond : after = _ := respond_of_route E last hq'
    rw [hrespond]
    rfl
  have hafter : ∀ response, (dispatch E settings last t).2 = .ok response →
      after = dispatch E settings last t := fun _ => respond_of_dispatch hq'
  have hwithheld : Withholds E settings r last (dispatch E settings last t) →
      Withholds E settings r last after := fun hwithholds => by
    obtain ⟨failure, -, -, hanswer⟩ := hwithholds.answer
    rwa [hafter _ hanswer]
  refine ⟨bytes, fields, congrArg Prod.snd (respond_of_perform hq hshow), hcommitment,
    fun htime => ?_, fun htime => ?_⟩
  · obtain ⟨hhands, hdelivers, hkeeps⟩ := hclock htime
    rw [hstate]
    refine ⟨hhands, fun haccepted => ?_, fun hnot => ?_⟩
    · rw [hafter _ (hdelivers haccepted).answer]
      exact hdelivers haccepted
    · obtain ⟨hkept, hwithholds⟩ := hkeeps hnot
      exact ⟨hkept, fun htold => hwithheld (hwithholds htold)⟩
  · obtain ⟨hrounds, hwithholds⟩ := hbeyond htime
    exact ⟨hstate ▸ hrounds, hwithheld hwithholds⟩

/-- The commitment of a round is published, and handed to a signer that accepts it. -/
theorem dispatch_hands_over_recording : ∃ (A : NumberedRound) (bytes : List UInt8),
    A.number = 1 ∧
    let E := PairingGroups.bn254Logarithms
    let last := run E (.defaults false) .empty [.registration A]
    let after := respond E (.defaults false) last ⟨.post, "/rounds/1/dispatch", "", []⟩
    last.round? (.integer 1) = some A.round ∧
    (∃ fields, (respond E (.defaults false) last ⟨.get, "/rounds/1", "", []⟩).2 =
        .ok (.ok (.object fields)) ∧
      Table.lookup "commitment" fields = some (Wire.ofBytes bytes)) ∧
    last.HandsOver after.1 1 A.round bytes ∧ Delivers 1 last after := by
  obtain ⟨A, hA, -, -, hbind, hsigner, -⟩ := exists_boundRound 1 5
  have hstart : State.start .empty .null = .ok .empty := rfl
  have hround := round?_registration .bn254Logarithms (.defaults false) hA
  have hhonest : ∀ n, .registration n ∈ [Event.registration A] →
      ∃ τ d k currencies provenance,
        TrustedSetup.bind (Parameters.generate .bn254Logarithms τ d) k currencies provenance =
          .ok n.round.snapshot.setup := by
    intro n hn
    obtain rfl := Event.registration.inj (List.mem_singleton.mp hn)
    exact ⟨_, _, _, _, _, hbind⟩
  obtain ⟨bytes, fields, hsummary, hcommitment, hclock, -⟩ :=
    dispatch_hands_over .bn254Logarithms (.defaults false) hstart
      (rfl : State.empty.IsFresh ([Event.registration A].length + 1)) hhonest (.inr rfl) hround
      (rfl : route? (.defaults false) ⟨.get, "/rounds/1", "", []⟩ = some (.round 1))
      (rfl : route? (.defaults false) ⟨.post, "/rounds/1/dispatch", "", []⟩ = some (.dispatch 1))
  obtain ⟨hhands, hdelivers, -⟩ := hclock rfl
  exact ⟨A, bytes, hA, hround, ⟨fields, hsummary, hcommitment⟩, hhands,
    hdelivers ⟨_, by rw [hsigner]; rfl⟩⟩

/-- Settings with a limit of more seconds than a floating-point number can count. -/
def boundless : Settings :=
  (Settings.defaults false).override [("DISPATCH_TIMEOUT", .integer (10 ^ 400))]

/-- The limit is positive, and the signer accepts everything. All the same it is handed nothing, and
the dispatch fails. -/
theorem exists_dispatch_without_handover : ∃ A : NumberedRound, A.number = 1 ∧
    TrustedSetup.bind (Parameters.generate .bn254Logarithms (Scalar.encode 3) 1) (.integer 1)
      (.integer 1) .null = .ok A.round.snapshot.setup ∧
    A.round.signer = .recording ∧ A.round.submissions = [] ∧
    boundless.dispatchTimeout.compareInteger? 0 = some (some .gt) ∧
    let E := PairingGroups.bn254Logarithms
    let last := run E boundless .empty [.registration A]
    let after := respond E boundless last ⟨.post, "/rounds/1/dispatch", "", []⟩
    last.round? (.integer 1) = some A.round ∧ after.1.round? (.integer 1) = some A.round ∧
    ∃ message, after.2 = .ok (.error 502 message) := by
  obtain ⟨A, hA, -, -, hbind, hsigner, hsubmissions⟩ := exists_boundRound 1 5
  have hround := round?_registration .bn254Logarithms boundless hA
  have hroute : route? boundless ⟨.post, "/rounds/1/dispatch", "", []⟩ = some (.dispatch 1) := rfl
  have htime : boundless.dispatchTimeout.compareInteger? 0 = some (some .gt) := by decide +kernel
  have hbeyond : boundless.dispatchTimeout.asInteger?.any Double.isBeyond = true := by
    decide +kernel
  obtain ⟨_, -, hsetup⟩ := TrustedSetup.honest_of_bind hbind
  obtain ⟨bytes, hbytes⟩ := Snapshot.exists_commitment_of_honest hsetup
  have hmirrors : Mirrors .bn254Logarithms
      (run .bn254Logarithms boundless .empty [.registration A]) _ 1 :=
    .of_commitments (rfl : State.start .empty .null = .ok .empty)
      (rfl : State.empty.IsFresh ([Event.registration A].length + 1)) fun n hn => by
        obtain rfl := Event.registration.inj (List.mem_singleton.mp hn)
        exact ⟨bytes, hbytes⟩
  obtain ⟨view, hholds, -⟩ := hmirrors.holds
  obtain ⟨hrounds, hwithholds⟩ := (dispatch_of_commitment hholds hmirrors.follow.numbered hround
    (A.timestamp_eq.trans (congrArg Datum.integer hA)) Text.isTooLong_one hbytes
    (.inr htime)).2 hbeyond
  obtain ⟨failure, -, -, hanswer⟩ := hwithholds.answer
  have hrespond := respond_of_perform hroute (s := run .bn254Logarithms boundless .empty
    [.registration A]) (Prod.ext (Eq.refl (dispatch _ boundless _ 1).1) hanswer)
  refine ⟨A, hA, hbind, hsigner, hsubmissions, htime, hround, ?_, failure.message, ?_⟩
  · rw [hrespond]
    exact (congrArg (State.findRound (.integer 1)) hrounds).trans hround
  · rw [hrespond]

end Service

end LiabilityProof
