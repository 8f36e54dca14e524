import LiabilityProof.Proofs.Server.Records
import LiabilityProof.Proofs.Server.Rounds

/-!
# States that mirror the reference

A state *mirrors* the rounds of the reference server if it has the same rounds, each with its
summary for a record, and if no proof is recorded under a round but the proof that the round gives
now.

A registration drops the proofs of its timestamp and of no other before the round changes, a proof
is recorded under the round that it was computed from, and a dispatch leaves every round with its
snapshot. So all of them keep a state a mirror, and a mirror answers what is to be read as the
reference does.
-/

namespace LiabilityProof

/-! ### What records tell -/

open State (summaryName proofStart proofName dispatchName)

variable {E : PairingGroups}

theorem ne_null_of_summary {r : Round} {d : Datum} (h : State.summary E r = .ok d) :
    d ≠ .null := by
  rintro rfl
  rw [State.summary] at h
  cases hcommitment : r.snapshot.commitment E with
  | error failure => exact absurd (hcommitment ▸ h) (by simp [Except.map])
  | ok bytes => exact absurd (hcommitment ▸ h) (by simp [Except.map])

/-- The records tell of the rounds of a table what these give now. -/
structure Tells (E : PairingGroups) (table : List (Int × Round)) (view : String → Datum) :
    Prop where
  summary : ∀ {t r}, Table.lookup t table = some r →
    State.summary E r = .ok (view (summaryName t))
  proof : ∀ {t r}, Table.lookup t table = some r → ∀ u, view (proofName t u) ≠ .null →
    Service.proofDocument E r u = .ok (view (proofName t u))

namespace Tells

variable {table : List (Int × Round)} {view : String → Datum}

theorem nil : Tells E [] view where
  summary h := absurd h (Option.some_ne_none _).symm
  proof h := absurd h (Option.some_ne_none _).symm

/-- A note on a dispatch tells nothing of rounds. -/
theorem dispatch (h : Tells E table view) (t : Int) (d : Datum) :
    Tells E table (Function.update view (dispatchName t) d) where
  summary hlookup := by
    rw [Function.update_of_ne (State.summaryName_ne_dispatchName _ _)]
    exact h.summary hlookup
  proof hlookup u := by
    rw [Function.update_of_ne (State.proofName_ne_dispatchName _ _ _)]
    exact h.proof hlookup u

/-- A proof may be recorded under the round that gives it. -/
theorem proofMade (h : Tells E table view) {t u : Int} {r : Round}
    (hlookup : Table.lookup t table = some r) {d : Datum}
    (hproof : Service.proofDocument E r u = .ok d) :
    Tells E table (Function.update view (proofName t u) d) where
  summary hlookup' := by
    rw [Function.update_of_ne (State.proofName_ne_summaryName _ _ _).symm]
    exact h.summary hlookup'
  proof {t' r'} hlookup' u' := by
    by_cases hkey : t' = t ∧ u' = u
    · obtain ⟨rfl, rfl⟩ := hkey
      rw [Function.update_self, Option.some.inj (hlookup'.symm.trans hlookup)]
      exact fun _ => hproof
    · rw [Function.update_of_ne (mt State.proofName_inj.mp hkey)]
      exact h.proof hlookup' u'

/-- A round may be put in the place of another once the proofs of its timestamp are dropped, and
with its summary. -/
theorem registration (h : Tells E table view) (t : Int) {r : Round} {d : Datum}
    (hsummary : State.summary E r = .ok d) :
    Tells E (Table.insert t r table) (Function.update
      (fun key => if Document.startsWith (proofStart t) key then .null else view key)
      (summaryName t) d) where
  summary {t' r'} hlookup := by
    rw [Table.lookup_insert] at hlookup
    split at hlookup
    next heq =>
      subst heq
      rw [Function.update_self, ← Option.some.inj hlookup, hsummary]
    next hne =>
      rw [Function.update_of_ne fun heq => hne (State.summaryName_injective heq).symm,
        State.startsWith_summaryName, if_neg Bool.false_ne_true]
      exact h.summary hlookup
  proof {t' r'} hlookup u hnull := by
    rw [Function.update_of_ne (State.proofName_ne_summaryName _ _ _),
      State.startsWith_proofName] at hnull ⊢
    rw [Table.lookup_insert] at hlookup
    by_cases heq : t = t'
    · rw [decide_eq_true heq, if_pos rfl] at hnull
      exact absurd rfl hnull
    · rw [if_neg heq] at hlookup
      rw [decide_eq_false heq, if_neg Bool.false_ne_true] at hnull ⊢
      exact h.proof hlookup u hnull

end Tells

/-! ### Mirrors -/

/-- The state has the rounds of the table, and its records tell of them what they give now. -/
structure Mirrors (E : PairingGroups) (s : State) (table : List (Int × Round)) (room : Nat) :
    Prop where
  follow : Follow s.rounds table
  holds : ∃ view, s.Holds view room ∧ Tells E table view

namespace Mirrors

variable {s : State} {table : List (Int × Round)} {room : Nat}

theorem mono (h : Mirrors E s table room) {room' : Nat} (hle : room' ≤ room) :
    Mirrors E s table room' := by
  obtain ⟨hfollow, view, hholds, htells⟩ := h
  exact ⟨hfollow, view, hholds.mono hle, htells⟩

/-- A round is found under a timestamp in both or in neither. -/
theorem round? (h : Mirrors E s table room) (t : Int) :
    (s.round? (.integer t) = none ∧ Table.lookup t table = none) ∨
      ∃ r r', s.round? (.integer t) = some r ∧ Table.lookup t table = some r' ∧ r.Alike r' := by
  have hrel := h.follow.findRound t
  rw [State.round?]
  cases hfind : State.findRound (.integer t) s.rounds with
  | none =>
    rw [hfind] at hrel
    cases hlookup : Table.lookup t table with
    | none => exact .inl ⟨rfl, rfl⟩
    | some r' => rw [hlookup] at hrel; cases hrel
  | some r =>
    rw [hfind] at hrel
    cases hlookup : Table.lookup t table with
    | none => rw [hlookup] at hrel; cases hrel
    | some r' =>
      rw [hlookup] at hrel
      cases hrel with
      | some halike => exact .inr ⟨r, r', rfl, rfl, halike⟩

/-- What is recorded for a proof of a round is nothing, or the proof that the round gives. -/
theorem record_proofKey (h : Mirrors E s table room) {t : Int} {r : Round}
    (hround : s.round? (.integer t) = some r) (u : Int) :
    ∃ d, (s.record (State.proofKey (.integer t) (.integer u))).2 = .ok d ∧
      (d ≠ .null → Service.proofDocument E r u = .ok d) := by
  obtain ⟨hnone, -⟩ | ⟨_, r', hsome, hlookup, halike⟩ := h.round? t
  · exact absurd (hnone.symm.trans hround) (Option.some_ne_none _).symm
  obtain rfl := Option.some.inj (hsome.symm.trans hround)
  obtain ⟨-, view, hholds, htells⟩ := h
  obtain ⟨s', hrecord, -, -⟩ := hholds.record (proofName t u)
  rw [State.proofKey_integer, hrecord]
  refine ⟨_, rfl, fun hnull => ?_⟩
  rw [halike.proofDocument_eq]
  exact htells.proof hlookup u hnull

/-! ### Registration -/

/-- A round whose commitment can be computed is registered, if its timestamp can be shown, and
mirrored from then on. -/
theorem register_of_summary (h : Mirrors E s table (room + 1)) (r : NumberedRound) {d : Datum}
    (hshort : Text.isTooLong r.number = false) (hsummary : State.summary E r.round = .ok d) :
    ∃ s' : State, s.register E r.round = (s', .ok d) ∧
      Mirrors E s' (Table.insert r.number r.round table) room := by
  obtain ⟨hfollow, view, hholds, htells⟩ := h
  obtain ⟨s₁, hdrop, hrounds₁, hholds₁⟩ := hholds.dropRecords (proofStart r.number)
  obtain ⟨s₂, hput, hrounds₂, hholds₂⟩ :=
    (hholds₁.setRound (.integer r.number) r.round).putRecord (summaryName r.number) d
  refine ⟨s₂, ?_, ?_, _, hholds₂, htells.registration r.number hsummary⟩
  · simp only [State.register, r.timestamp_eq, State.dropProofs_integer, hshort,
      Bool.false_eq_true, if_false, hdrop, Datum.isKey, if_true, State.recordSummary, hsummary,
      State.summaryKey_integer, hput]
    rfl
  · rw [hrounds₂]
    change Follow (State.insertRound _ _ s₁.rounds) _
    rw [hrounds₁]
    exact hfollow.insert r.number ⟨rfl, rfl⟩

/-- Only such a round is. -/
theorem summary_of_register (h : Mirrors E s table (room + 1)) (r : NumberedRound) {d : Datum}
    (hregister : (s.register E r.round).2 = .ok d) :
    Text.isTooLong r.number = false ∧ State.summary E r.round = .ok d := by
  cases hlong : Text.isTooLong r.number with
  | true =>
    rw [State.register, r.timestamp_eq, State.dropProofs_integer, hlong] at hregister
    cases hregister
  | false =>
    refine ⟨rfl, ?_⟩
    cases hsummary : State.summary E r.round with
    | error failure =>
      obtain ⟨-, view, hholds, -⟩ := h
      obtain ⟨s₁, hdrop, -, -⟩ := hholds.dropRecords (proofStart r.number)
      simp only [State.register, r.timestamp_eq, State.dropProofs_integer, hlong,
        Bool.false_eq_true, if_false, hdrop, Datum.isKey, if_true, State.recordSummary,
        hsummary] at hregister
      exact hregister
    | ok d' =>
      obtain ⟨s', hregister', -⟩ := h.register_of_summary r hlong hsummary
      rw [← hregister, hregister']

/-! ### Requests -/

theorem listRounds (h : Mirrors E s table room) :
    Service.listRounds s = .ok (Reference.listRounds table) := by
  rw [Service.listRounds, State.timestamps_of_follow h.follow]
  rfl

/-- A summary from the records is the summary of the round. -/
theorem showRound (h : Mirrors E s table room) (t : Int) :
    ∃ s', Service.showRound s t = (s', Reference.showRound E table t) ∧
      Mirrors E s' table room := by
  obtain ⟨hfollow, view, hholds, htells⟩ := h
  obtain ⟨s', hrecord, hrounds, hholds'⟩ := hholds.record (summaryName t)
  have h' : Mirrors E s' table room := ⟨hrounds ▸ hfollow, view, hholds', htells⟩
  refine ⟨s', ?_, h'⟩
  rw [Service.showRound, State.summaryKey_integer, hrecord, Reference.showRound]
  obtain ⟨hnone, hlookup⟩ | ⟨r, r', hsome, hlookup, -⟩ := h'.round? t
  · simp only [hnone, hlookup]
    rfl
  · have hsummary := htells.summary hlookup
    simp only [hsome, hlookup, hsummary]
    cases hview : view (summaryName t) with
    | null => exact absurd hview (ne_null_of_summary hsummary)
    | _ => rfl

theorem proofFailure_eq (failure : Failure) :
    Service.proofFailure failure =
      if failure.kind = .outOfRange then .ok (.error 404 failure.message)
      else if failure.kind = .selfCheck then .ok (.error 500 failure.message)
      else .error failure := by
  rw [Service.proofFailure]
  cases failure.kind <;> simp

/-- A proof is computed and recorded, unless the round has none. -/
theorem makeProof (h : Mirrors E s table (room + 1)) {t : Int} {r r' : Round}
    (hlookup : Table.lookup t table = some r') (halike : r.Alike r') (u : Int) :
    ∃ s', Service.makeProof E s r t u = (s', Reference.proveUser E table t u) ∧
      Mirrors E s' table room := by
  rw [Service.makeProof, Reference.proveUser, hlookup, halike.proofDocument_eq]
  cases hproof : Service.proofDocument E r' u with
  | error failure =>
    refine ⟨s, ?_, h.mono (Nat.le_succ room)⟩
    simp only [hproof, proofFailure_eq]
  | ok d =>
    obtain ⟨hfollow, view, hholds, htells⟩ := h
    obtain ⟨s', hput, hrounds, hholds'⟩ := hholds.putRecord (proofName t u) d
    refine ⟨s', ?_, hrounds ▸ hfollow, _, hholds', htells.proofMade hlookup hproof⟩
    simp only [State.proofKey_integer, hput, hproof]
    rfl

/-- A proof from the records is the proof of the round. -/
theorem proveUser (h : Mirrors E s table (room + 1)) (t u : Int) :
    ∃ s', Service.proveUser E s t u = (s', Reference.proveUser E table t u) ∧
      Mirrors E s' table room := by
  rw [Service.proveUser]
  obtain ⟨hnone, hlookup⟩ | ⟨r, r', hsome, hlookup, halike⟩ := h.round? t
  · refine ⟨s, ?_, h.mono (Nat.le_succ room)⟩
    simp only [hnone, Reference.proveUser, hlookup]
    rfl
  obtain ⟨hfollow, view, hholds, htells⟩ := h
  obtain ⟨s', hrecord, hrounds, hholds'⟩ := hholds.record (proofName t u)
  have h' : Mirrors E s' table (room + 1) := ⟨hrounds ▸ hfollow, view, hholds', htells⟩
  simp only [hsome, State.proofKey_integer, hrecord]
  by_cases hnull : view (proofName t u) = .null
  · rw [hnull]
    exact h'.makeProof hlookup halike u
  · refine ⟨s', ?_, h'.mono (Nat.le_succ room)⟩
    simp only [Reference.proveUser, hlookup, htells.proof hlookup u hnull]

/-- A dispatch leaves every round with its snapshot. -/
theorem dispatch (h : Mirrors E s table (room + 1)) (settings : Settings) (t : Int) :
    Mirrors E (Service.dispatch E settings s t).1 table room := by
  rw [Service.dispatch]
  cases hround : s.round? (.integer t) with
  | none => exact h.mono (Nat.le_succ room)
  | some r =>
    obtain ⟨hfollow, view, hholds, htells⟩ := h
    have hfollow' : Follow
        (s.setRound (.integer t) (r.dispatch E settings.dispatchTimeout).1).rounds table :=
      hfollow.replace hround (.dispatch E r settings.dispatchTimeout)
    have hholds' := hholds.setRound (.integer t) (r.dispatch E settings.dispatchTimeout).1
    cases houtcome : (r.dispatch E settings.dispatchTimeout).2 with
    | ok receipt =>
      obtain ⟨s', hput, hrounds, hholds''⟩ :=
        hholds'.putRecord (dispatchName t) (.object [("dispatched", .bool true)])
      simp only [houtcome, State.dispatchKey_integer, hput]
      exact ⟨hrounds ▸ hfollow', _, hholds'', htells.dispatch t _⟩
    | error failure =>
      simp only [houtcome]
      have h' : Mirrors E _ table room := ⟨hfollow', view, hholds'.mono (Nat.le_succ room), htells⟩
      split <;> exact h'

/-- What is done on a route leaves a mirror, and what is to be read there is as in the reference. -/
theorem perform (h : Mirrors E s table (room + 1)) (settings : Settings) (q : Request)
    (route : Route Int) :
    Mirrors E (Service.perform E settings s q route).1 table room ∧
      (route.method = .get →
        (Service.perform E settings s q route).2 = Reference.perform E table route) := by
  have hmono := h.mono (Nat.le_succ room)
  cases route with
  | rounds => exact ⟨hmono, fun _ => h.listRounds⟩
  | round t =>
    obtain ⟨s', hshow, h'⟩ := hmono.showRound t
    rw [Service.perform, hshow]
    exact ⟨h', fun _ => rfl⟩
  | proof t u =>
    obtain ⟨s', hprove, h'⟩ := h.proveUser t u
    rw [Service.perform, hprove]
    exact ⟨h', fun _ => rfl⟩
  | dispatch t => exact ⟨h.dispatch settings t, fun hmethod => nomatch hmethod⟩
  | verification => exact ⟨hmono, fun hmethod => nomatch hmethod⟩
  | asset => exact ⟨hmono, fun _ => rfl⟩

end Mirrors

theorem Route.method_of_mapNumbers? {N M : Type} {f : N → Option M} {route : Route N}
    {route' : Route M} (h : route.mapNumbers? f = some route') : route'.method = route.method := by
  cases route with
  | rounds | verification | asset => rw [← Option.some.inj h]; rfl
  | round t | dispatch t =>
    obtain ⟨t', -, rfl⟩ := Option.map_eq_some_iff.mp h
    rfl
  | proof t u =>
    obtain ⟨t', -, hmap⟩ := Option.bind_eq_some_iff.mp h
    obtain ⟨u', -, rfl⟩ := Option.map_eq_some_iff.mp hmap
    rfl

/-- A request is led to a route of its own method. -/
theorem Target.method_of_route {t : Target} {method : Method} {route : Route Int}
    (h : t.route method = .ok route) : route.method = method := by
  rw [Target.route] at h
  split at h
  next named _ =>
    split at h
    next => exact absurd h (by simp)
    next hproblem =>
      have hmethod : named.method = method := by
        by_contra hne
        rw [atRoute, if_pos hne] at hproblem
        exact absurd hproblem (Option.some_ne_none _)
      cases hroute : named.mapNumbers? Route.readNumber? with
      | none => rw [hroute] at h; exact absurd h (by simp)
      | some route' =>
        rw [hroute] at h
        rw [← Except.ok.inj h, Route.method_of_mapNumbers? hroute, hmethod]
  next => split at h <;> exact absurd h (by simp)

namespace Mirrors

variable {s : State} {table : List (Int × Round)} {room : Nat}

theorem answer (h : Mirrors E s table (room + 1)) (settings : Settings) (q : Request) (t : Target)
    (problem : Option RequestProblem) :
    Mirrors E (Service.answer E settings s q t problem).1 table room ∧
      (q.method = .get → (Service.answer E settings s q t problem).2 =
        Reference.answer E settings table q t problem) := by
  have hmono := h.mono (Nat.le_succ room)
  unfold Service.answer Reference.answer
  cases settings.sessionFault? with
  | some failure => exact ⟨hmono, fun _ => rfl⟩
  | none =>
    cases problem with
    | some problem => exact ⟨hmono, fun _ => rfl⟩
    | none =>
      cases hroute : t.route q.method with
      | error problem => exact ⟨hmono, fun _ => rfl⟩
      | ok route =>
        obtain ⟨h', hread⟩ := h.perform settings q route
        exact ⟨h', fun hget => hread ((Target.method_of_route hroute).trans hget)⟩

/-- A request leaves a mirror, and what it reads is as in the reference. -/
theorem respond (h : Mirrors E s table (room + 1)) (settings : Settings) (q : Request) :
    Mirrors E (Service.respond E settings s q).1 table room ∧
      (q.method = .get →
        (Service.respond E settings s q).2 = Reference.respond E settings table q) := by
  unfold Service.respond Reference.respond
  cases Service.receive settings q with
  | error failure => exact ⟨h.mono (Nat.le_succ room), fun _ => rfl⟩
  | ok received =>
    obtain ⟨t, problem⟩ := received
    obtain ⟨h', hread⟩ := h.answer settings q t problem
    exact ⟨h', fun hget => congrArg (Service.settle settings) (hread hget)⟩

end Mirrors

end LiabilityProof
