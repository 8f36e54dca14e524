import LiabilityProof.Proofs.Server.Events
import LiabilityProof.Proofs.Server.Refinement

/-!
# What the note on a dispatch tells

A dispatch whose commitment is accepted leaves a note under its timestamp, and nothing ever takes
the note back. A registration drops the proofs of its timestamp and writes its summary anew, but
leaves the note. So a note tells that the commitment of a round that was registered under the
timestamp was accepted (`Service.note_of_run`). This is the round that is there for as long as no
other is registered; after that, the note of a round that is gone stands by a round whose
commitment nobody has seen (`exists_note_of_replaced_round`).
-/

namespace LiabilityProof

open State (dispatchName)

variable {E : PairingGroups} {settings : Settings}

/-! ### Accepted rounds -/

namespace Round

/-- The signer was handed the commitment of the round, and accepted it. -/
def Accepted (E : PairingGroups) (r : Round) : Prop :=
  ∃ bytes before after receipt, r.snapshot.commitment E = .ok bytes ∧
    r.submissions = before ++ ⟨bytes, r.timestamp⟩ :: after ∧
    r.signer before ⟨bytes, r.timestamp⟩ = .accepted receipt

variable {r : Round} {timeout : Datum}

theorem outcome_eq_ok_iff {timestamp receipt : Datum} {v : Verdict} :
    outcome timestamp timeout v = .ok receipt ↔ v = .accepted receipt := by
  cases v with
  | accepted => simp [outcome]
  | refused refusal reason | failed reason => cases reason <;> simp [outcome]
  | silent => simp [outcome]

/-- A dispatch that gets as far as the signer hands over the commitment; any other leaves the
round. -/
theorem dispatch_cases (E : PairingGroups) (r : Round) (timeout : Datum) :
    ((r.dispatch E timeout).1 = r ∧ ∃ failure, (r.dispatch E timeout).2 = .error failure) ∨
      ∃ bytes, r.snapshot.commitment E = .ok bytes ∧
        (r.dispatch E timeout).1 =
          { r with submissions := r.submissions ++ [⟨bytes, r.timestamp⟩] } ∧
        (r.dispatch E timeout).2 =
          outcome r.timestamp timeout (r.signer r.submissions ⟨bytes, r.timestamp⟩) := by
  rw [dispatch]
  cases r.snapshot.commitment E with
  | error failure => exact .inl ⟨rfl, failure, rfl⟩
  | ok bytes =>
    cases limitOf timeout with
    | ample => exact .inr ⟨bytes, rfl, rfl, rfl⟩
    | _ => exact .inl ⟨rfl, _, rfl⟩

/-- A dispatch that gives a receipt is one that the signer accepted. -/
theorem accepted_of_dispatch {receipt : Datum} (h : (r.dispatch E timeout).2 = .ok receipt) :
    (r.dispatch E timeout).1.Accepted E := by
  obtain ⟨-, failure, hfailure⟩ | ⟨bytes, hbytes, hround, houtcome⟩ :=
    dispatch_cases E r timeout
  · exact absurd (h.symm.trans hfailure) (by simp)
  · rw [hround]
    exact ⟨bytes, r.submissions, [], receipt, hbytes, rfl,
      outcome_eq_ok_iff.mp (houtcome.symm.trans h)⟩

/-- What was accepted stays so, whatever is handed over later. -/
theorem Accepted.dispatch (h : r.Accepted E) (timeout : Datum) :
    (r.dispatch E timeout).1.Accepted E := by
  obtain ⟨hround, -⟩ | ⟨bytes', -, hround, -⟩ := dispatch_cases E r timeout
  · rwa [hround]
  · obtain ⟨bytes, before, after, receipt, hbytes, hsubmissions, hsigner⟩ := h
    rw [hround]
    refine ⟨bytes, before, after ++ [⟨bytes', r.timestamp⟩], receipt, hbytes, ?_, hsigner⟩
    rw [hsubmissions, List.append_assoc, List.cons_append]

/-- Of a round that handed nothing over, nothing was accepted. -/
theorem not_accepted_of_submissions (h : r.submissions = []) : ¬r.Accepted E := by
  rintro ⟨bytes, before, after, receipt, -, hsubmissions, -⟩
  rw [h] at hsubmissions
  exact absurd hsubmissions (by simp)

/-- A signer that accepts everything gives a receipt, if there is time. -/
theorem exists_receipt_of_recording {bytes : List UInt8}
    (hbytes : r.snapshot.commitment E = .ok bytes) (hsigner : r.signer = .recording)
    (htime : limitOf timeout = .ample) : ∃ receipt, (r.dispatch E timeout).2 = .ok receipt := by
  rw [dispatch, hbytes, htime, hsigner]
  exact ⟨_, rfl⟩

end Round

/-! ### One event -/

namespace Event

/-- The event is the registration of a round under a timestamp. -/
def Registers (t : Int) : Event → Prop
  | registration r => r.number = t
  | request _ => False

/-- The event is a dispatch for a timestamp, and the signer of the round that is there accepts the
commitment. -/
def IsAccepted (E : PairingGroups) (settings : Settings) (round : Int → Option Round) (t : Int)
    (event : Event) : Prop :=
  ∃ q, event = .request q ∧ Service.route? settings q = some (.dispatch t) ∧
    ∃ r receipt, round t = some r ∧ (r.dispatch E settings.dispatchTimeout).2 = .ok receipt

end Event

namespace Scene

variable {scene : Scene} {t : Int}

/-- An accepted dispatch leaves a note, and any other event leaves the notes. -/
theorem view_serve (E : PairingGroups) (settings : Settings) (scene : Scene) (event : Event)
    (t : Int) :
    (event.IsAccepted E settings scene.round t ∧
        (scene.serve E settings event).view (dispatchName t) = acceptance) ∨
      (¬event.IsAccepted E settings scene.round t ∧
        (scene.serve E settings event).view (dispatchName t) = scene.view (dispatchName t)) := by
  cases event with
  | registration r =>
    rw [serve, view_registered_dispatchName]
    refine .inr ⟨?_, rfl⟩
    rintro ⟨q, hq, -⟩
    cases hq
  | request q =>
    rw [serve]
    cases hroute : Service.route? settings q with
    | none =>
      refine .inr ⟨?_, rfl⟩
      rintro ⟨q', hq, hroute', -⟩
      obtain rfl := Event.request.inj hq
      exact absurd (hroute.symm.trans hroute') (by simp)
    | some route =>
      have hother : (∀ t', route ≠ .dispatch t') →
          ¬(Event.request q).IsAccepted E settings scene.round t := by
        rintro hne ⟨q', hq, hroute', -⟩
        obtain rfl := Event.request.inj hq
        exact hne t (Option.some.inj (hroute.symm.trans hroute'))
      cases route with
      | rounds | round | verification | asset => exact .inr ⟨hother (by simp), rfl⟩
      | proof t' u => exact .inr ⟨hother (by simp), view_proved_dispatchName scene t t' u⟩
      | dispatch t' =>
        obtain ⟨⟨rfl, haccepted⟩, hview⟩ | ⟨hnot, hview⟩ :=
          view_dispatched_dispatchName (E := E) scene t t' settings.dispatchTimeout
        · exact .inl ⟨⟨q, rfl, hroute, haccepted⟩, hview⟩
        · refine .inr ⟨?_, hview⟩
          rintro ⟨q', hq, hroute', haccepted⟩
          obtain rfl := Event.request.inj hq
          have hroutes := Option.some.inj (hroute.symm.trans hroute')
          exact hnot ⟨(Route.dispatch.inj hroutes).symm, haccepted⟩

/-- The round of a timestamp is left or dispatched, unless another is registered. -/
theorem round_serve (E : PairingGroups) (settings : Settings) (scene : Scene) {event : Event}
    (hevent : ¬event.Registers t) :
    (scene.serve E settings event).round t = scene.round t ∨
      (scene.serve E settings event).round t =
        (scene.round t).map fun r => (r.dispatch E settings.dispatchTimeout).1 := by
  cases event with
  | registration r =>
    refine .inl ?_
    rw [serve]
    exact round_registered_of_ne scene t fun heq => hevent heq.symm
  | request q =>
    rw [serve]
    cases Service.route? settings q with
    | none => exact .inl rfl
    | some route =>
      cases route with
      | rounds | round | verification | asset => exact .inl rfl
      | proof t' u => exact .inl (congrFun (round_proved scene t' u) t)
      | dispatch t' =>
        dsimp only [performed]
        rw [round_dispatched]
        split
        · exact .inr rfl
        · exact .inl rfl

/-- An accepted dispatch leaves a round that was accepted. -/
theorem accepted_of_isAccepted {event : Event} (h : event.IsAccepted E settings scene.round t) :
    ∃ r, (scene.serve E settings event).round t = some r ∧ r.Accepted E := by
  obtain ⟨q, rfl, hroute, r, receipt, hround, hreceipt⟩ := h
  refine ⟨(r.dispatch E settings.dispatchTimeout).1, ?_, Round.accepted_of_dispatch hreceipt⟩
  rw [serve, hroute]
  dsimp only [performed]
  rw [round_dispatched, if_pos rfl, hround]
  rfl

/-- A round that was accepted stays there, and accepted, unless another is registered. -/
theorem accepted_serve (settings : Settings) {event : Event} {r : Round}
    (hround : scene.round t = some r) (haccepted : r.Accepted E)
    (hevent : ¬event.Registers t) :
    ∃ r', (scene.serve E settings event).round t = some r' ∧ r'.Alike r ∧ r'.Accepted E := by
  obtain h | h := round_serve E settings scene hevent
  · exact ⟨r, h.trans hround, ⟨rfl, rfl⟩, haccepted⟩
  · rw [hround] at h
    exact ⟨_, h, .dispatch E r _, haccepted.dispatch _⟩

/-! ### All events -/

/-- There is a note exactly if there was one or a dispatch was accepted. -/
theorem view_serveAll (scene : Scene) (events : List Event) (t : Int) :
    (scene.serveAll E settings events).view (dispatchName t) ≠ .null ↔
      scene.view (dispatchName t) ≠ .null ∨
        ∃ before event after, events = before ++ event :: after ∧
          event.IsAccepted E settings (scene.serveAll E settings before).round t := by
  induction events using List.reverseRecOn with
  | nil => simp [serveAll]
  | append_singleton events event ih =>
    rw [serveAll_concat]
    obtain ⟨haccepted, hview⟩ | ⟨hnot, hview⟩ :=
      view_serve E settings (scene.serveAll E settings events) event t
    · rw [hview]
      exact iff_of_true (by simp [acceptance]) (.inr ⟨events, event, [], rfl, haccepted⟩)
    · rw [hview, ih]
      refine or_congr_right ⟨?_, ?_⟩
      · rintro ⟨before, event', after, rfl, haccepted⟩
        exact ⟨before, event', after ++ [event], by simp, haccepted⟩
      · rintro ⟨before, event', after, hsplit, haccepted⟩
        cases after using List.reverseRecOn with
        | nil =>
          obtain ⟨rfl, hevent⟩ := List.append_inj' hsplit rfl
          obtain rfl := List.singleton_inj.mp hevent
          exact absurd haccepted hnot
        | append_singleton after last =>
          rw [← List.cons_append, ← List.append_assoc] at hsplit
          exact ⟨before, event', after, (List.append_inj' hsplit rfl).1, haccepted⟩

/-- A round that was accepted stays there, and accepted, while no other is registered. -/
theorem accepted_serveAll (settings : Settings) {events : List Event} {r : Round}
    (hround : scene.round t = some r) (haccepted : r.Accepted E)
    (hevents : ∀ event ∈ events, ¬event.Registers t) :
    ∃ r', (scene.serveAll E settings events).round t = some r' ∧ r'.Alike r ∧ r'.Accepted E := by
  induction events generalizing scene r with
  | nil => exact ⟨r, hround, ⟨rfl, rfl⟩, haccepted⟩
  | cons event events ih =>
    obtain ⟨hevent, hevents⟩ := List.forall_mem_cons.mp hevents
    obtain ⟨r₁, hround₁, halike₁, haccepted₁⟩ :=
      accepted_serve settings hround haccepted hevent
    obtain ⟨r', hround', halike, haccepted'⟩ := ih hround₁ haccepted₁ hevents
    exact ⟨r', hround', ⟨halike.timestamp.trans halike₁.timestamp,
      halike.snapshot.trans halike₁.snapshot⟩, haccepted'⟩

end Scene

/-! ### Notes of a run -/

namespace State

variable {s : State} {room : Nat} {scene : Scene}

/-- A state has the rounds of the scene that it shows. -/
theorem Shows.round_eq (h : s.Shows scene room) :
    (fun t => s.round? (.integer t)) = scene.round :=
  funext h.round

/-- The note of a timestamp is what the scene has under its key. -/
theorem Shows.record_dispatchKey (h : s.Shows scene room) (t : Int) :
    (s.record (dispatchKey (.integer t))).2 = .ok (scene.view (dispatchName t)) := by
  obtain ⟨s', hrecord, -, -⟩ := h.holds.record (dispatchName t)
  rw [dispatchKey_integer, hrecord]

end State

namespace Service

/-- An event is the dispatch for a timestamp, and is accepted when it comes after others: they lead
to a state in which a round is there whose signer accepts the commitment. -/
def AcceptedAfter (E : PairingGroups) (settings : Settings) (s : State) (before : List Event)
    (event : Event) (t : Int) : Prop :=
  event.IsAccepted E settings (fun t => (run E settings s before).round? (.integer t)) t

/-- What the note of a timestamp tells. From the start on, whatever is registered and requested and
whatever comes of it, there is a note exactly if a dispatch for the timestamp was accepted. The
round that was there then was accepted, and as long as no other is registered, it is the round that
is there now. -/
theorem note_of_run (E : PairingGroups) (settings : Settings) {dir : Directory} {path : Datum}
    {s : State} (hstart : State.start dir path = .ok s) {events : List Event}
    (hfresh : s.IsFresh events.length) (t : Int) :
    let last := run E settings s events
    ∃ d, (last.record (State.dispatchKey (.integer t))).2 = .ok d ∧
      (d ≠ .null ↔ ∃ before event after, events = before ++ event :: after ∧
        AcceptedAfter E settings s before event t) ∧
      ∀ before event after, events = before ++ event :: after →
        AcceptedAfter E settings s before event t →
        ∃ r, (run E settings s (before ++ [event])).round? (.integer t) = some r ∧ r.Accepted E ∧
          ((∀ later ∈ after, ¬later.Registers t) →
            ∃ r', last.round? (.integer t) = some r' ∧ r'.Alike r ∧ r'.Accepted E) := by
  have hshows : ∀ first rest, events = first ++ rest →
      (run E settings s first).Shows (Scene.empty.serveAll E settings first) rest.length := by
    rintro first rest rfl
    rw [List.length_append, Nat.add_comm] at hfresh
    exact (State.Shows.of_start hstart hfresh).serveAll
  have haccepted : ∀ before event after, events = before ++ event :: after →
      (AcceptedAfter E settings s before event t ↔
        event.IsAccepted E settings (Scene.empty.serveAll E settings before).round t) := by
    intro before event after hsplit
    rw [AcceptedAfter, (hshows before _ hsplit).round_eq]
  have hlast := hshows events [] (List.append_nil events).symm
  have hempty : ¬Scene.empty.view (dispatchName t) ≠ .null := not_not_intro rfl
  refine ⟨_, hlast.record_dispatchKey t, ?_, fun before event after hsplit hevent => ?_⟩
  · rw [Scene.view_serveAll, or_iff_right hempty]
    refine exists_congr fun before => exists_congr fun event => exists_congr fun after => ?_
    exact and_congr_right fun hsplit => (haccepted before event after hsplit).symm
  · obtain ⟨r, hround, hr⟩ :=
      Scene.accepted_of_isAccepted ((haccepted before event after hsplit).mp hevent)
    have hsplit' : events = (before ++ [event]) ++ after := by rw [hsplit, List.append_assoc]; rfl
    rw [← Scene.serveAll_concat] at hround
    refine ⟨r, ((hshows _ _ hsplit').round t).trans hround, hr, fun hafter => ?_⟩
    obtain ⟨r', hround', halike, hr'⟩ := Scene.accepted_serveAll settings hround hr hafter
    refine ⟨r', (hlast.round t).trans ?_, halike, hr'⟩
    rw [hsplit', Scene.serveAll_append]
    exact hround'

/-! ### A dispatch between two registrations -/

/-- The request to dispatch the commitment of the round 1. -/
def dispatchOfOne : Event := .request ⟨.post, "/rounds/1/dispatch", "", []⟩

/-- Under the default settings, a signer that accepts everything accepts the commitment that is
handed over. -/
theorem isAccepted_dispatchOfOne {E : PairingGroups} {round : Int → Option Round} {r : Round}
    {bytes : List UInt8} (hround : round 1 = some r)
    (hbytes : r.snapshot.commitment E = .ok bytes) (hsigner : r.signer = .recording) :
    dispatchOfOne.IsAccepted E (.defaults false) round 1 := by
  have htime : Round.limitOf (Settings.defaults false).dispatchTimeout = .ample := rfl
  obtain ⟨receipt, hreceipt⟩ := Round.exists_receipt_of_recording hbytes hsigner htime
  exact ⟨_, rfl, rfl, r, receipt, hround, hreceipt⟩

theorem round_registration {E : PairingGroups} {settings : Settings} {A : NumberedRound}
    (hA : A.number = 1) :
    (Scene.empty.serveAll E settings [.registration A]).round 1 = some A.round := by
  rw [← List.nil_append [_], Scene.serveAll_concat, Scene.serve,
    Scene.round_registered _ _ (hA ▸ Text.isTooLong_one), if_pos hA.symm]

theorem note_of_run_of_accepted : ∃ A : NumberedRound, A.number = 1 ∧
    let E := PairingGroups.bn254Logarithms
    let events := [.registration A, dispatchOfOne]
    State.start .empty .null = .ok .empty ∧ State.empty.IsFresh events.length ∧
    AcceptedAfter E (.defaults false) .empty [.registration A] dispatchOfOne 1 ∧
    ∃ d r, ((run E (.defaults false) .empty events).record (State.dispatchKey (.integer 1))).2 =
        .ok d ∧ d ≠ .null ∧
      (run E (.defaults false) .empty events).round? (.integer 1) = some r ∧ r.Accepted E := by
  obtain ⟨A, hA, -, -, ⟨n, hhonest⟩, hsigner, -⟩ := exists_recordingRound 1 5
  have hbytes := Snapshot.commitment_of_honest PairingGroups.bn254Logarithms_lawful hhonest
  have hstart : State.start .empty .null = .ok .empty := rfl
  have hshows : (run .bn254Logarithms (.defaults false) .empty [.registration A]).Shows
      (Scene.empty.serveAll .bn254Logarithms (.defaults false) [.registration A]) 0 :=
    (State.Shows.of_start hstart (rfl : State.empty.IsFresh (0 + 1))).serveAll
  have haccepted : AcceptedAfter .bn254Logarithms (.defaults false) .empty [.registration A]
      dispatchOfOne 1 := by
    rw [AcceptedAfter, hshows.round_eq]
    exact isAccepted_dispatchOfOne (round_registration hA) hbytes hsigner
  have hfresh : State.empty.IsFresh [Event.registration A, dispatchOfOne].length := rfl
  obtain ⟨d, hrecord, hnoted, hcurrent⟩ :=
    note_of_run .bn254Logarithms (.defaults false) hstart hfresh 1
  obtain ⟨_, -, -, hthen⟩ := hcurrent [.registration A] dispatchOfOne [] rfl haccepted
  obtain ⟨r, hround, -, hr⟩ := hthen (by simp)
  exact ⟨A, hA, hstart, hfresh, haccepted, d, r, hrecord,
    hnoted.mpr ⟨[.registration A], dispatchOfOne, [], rfl, haccepted⟩, hround, hr⟩

/-- A round is registered, its commitment is accepted, and then a round of another balance is
registered. The note is still there, and the commitment of the round that it stands by is another,
which was handed to nobody. -/
theorem exists_note_of_replaced_round : ∃ A B : NumberedRound, A.number = 1 ∧ B.number = 1 ∧
    let E := PairingGroups.bn254Logarithms
    let last := run E (.defaults false) .empty
      [.registration A, dispatchOfOne, .registration B]
    A.round.snapshot.commitment E ≠ B.round.snapshot.commitment E ∧
    last.round? (.integer 1) = some B.round ∧
    (∃ d, (last.record (State.dispatchKey (.integer 1))).2 = .ok d ∧ d ≠ .null) ∧
    ¬B.round.Accepted E := by
  obtain ⟨A, hA, -, hcolumns, ⟨n, hhonest⟩, hsigner, -⟩ := exists_recordingRound 1 5
  obtain ⟨B, hB, -, hcolumns', ⟨n', hhonest'⟩, -, hsubmissions⟩ := exists_recordingRound 1 6
  have hlawful := PairingGroups.bn254Logarithms_lawful
  have hbytes := Snapshot.commitment_of_honest hlawful hhonest
  let events : List Event := [.registration A, dispatchOfOne, .registration B]
  have hstart : State.start .empty .null = .ok .empty := rfl
  have hshows : (run .bn254Logarithms (.defaults false) .empty events).Shows
      (Scene.empty.serveAll .bn254Logarithms (.defaults false) events) 0 :=
    (State.Shows.of_start hstart (rfl : State.empty.IsFresh (0 + events.length))).serveAll
  refine ⟨A, B, hA, hB, ?_, ?_, ⟨_, hshows.record_dispatchKey 1, ?_⟩,
    Round.not_accepted_of_submissions hsubmissions⟩
  · refine Snapshot.commitment_ne_of_eval_ne hlawful
      PairingGroups.bn254_first_multiple_ne_zero hhonest hhonest' (j := 1)
      (by rw [hcolumns]; rfl) (by rw [hcolumns']; rfl) ?_
    decide +kernel
  · rw [hshows.round 1]
    have hlast : Scene.empty.serveAll .bn254Logarithms (.defaults false) events =
        (Scene.empty.serveAll .bn254Logarithms (.defaults false)
          [.registration A, dispatchOfOne]).serve .bn254Logarithms (.defaults false)
            (.registration B) :=
      Scene.serveAll_concat Scene.empty [.registration A, dispatchOfOne] (.registration B)
    rw [hlast, Scene.serve, Scene.round_registered _ _ (hB ▸ Text.isTooLong_one), if_pos hB.symm]
  · refine (Scene.view_serveAll Scene.empty events 1).mpr
      (.inr ⟨[.registration A], dispatchOfOne, [.registration B], rfl, ?_⟩)
    exact isAccepted_dispatchOfOne (round_registration hA) hbytes hsigner

end Service

end LiabilityProof
