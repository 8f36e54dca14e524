import LiabilityProof.Proofs.Server.Tasks

/-!
# What events do to a scene

A server that meets one event after the other shows a scene after each of them, and what an event
does to the scene can be told from the scene (`Scene.serve`). A registration drops the proofs of its
timestamp, sets the round, and records the summary if there is one. A request for a proof may record
it. A dispatch hands the commitment over and notes that it was accepted, if it was. All other
requests leave the scene.

Nothing has to succeed for this: whatever rounds are registered and whatever signers answer, a state
that shows a scene shows what the events make of it (`State.Shows.serveAll`).
-/

namespace LiabilityProof

open State (summaryName proofStart proofName dispatchName)

variable {E : PairingGroups} {settings : Settings}

/-! ### Routes -/

namespace Route

/-- The numbers of a route. -/
def numbers {N : Type} : Route N → List N
  | round timestamp | dispatch timestamp => [timestamp]
  | proof timestamp user => [timestamp, user]
  | rounds | verification | asset => []

/-- No number that is read from a path is too long. -/
theorem isTooLong_of_readNumber? {part : List Char} {n : Int} (h : readNumber? part = some n) :
    Text.isTooLong n = false := by
  rw [readNumber?] at h
  cases hread : Text.readInteger 10 (String.ofList part) with
  | error fault => rw [hread] at h; cases h
  | ok m =>
    rw [hread] at h
    exact Option.some.inj h ▸ Text.isTooLong_of_readInteger hread

theorem isTooLong_of_mapNumbers? {route : Route (List Char)} {route' : Route Int}
    (h : route.mapNumbers? readNumber? = some route') :
    ∀ n ∈ route'.numbers, Text.isTooLong n = false := by
  cases route with
  | rounds | verification | asset =>
    rw [← Option.some.inj h]
    exact List.forall_mem_nil _
  | round t | dispatch t =>
    obtain ⟨n, hn, rfl⟩ := Option.map_eq_some_iff.mp h
    exact List.forall_mem_singleton.mpr (isTooLong_of_readNumber? hn)
  | proof t u =>
    obtain ⟨n, hn, hmap⟩ := Option.bind_eq_some_iff.mp h
    obtain ⟨m, hm, rfl⟩ := Option.map_eq_some_iff.mp hmap
    exact List.forall_mem_cons.mpr ⟨isTooLong_of_readNumber? hn,
      List.forall_mem_singleton.mpr (isTooLong_of_readNumber? hm)⟩

end Route

namespace Service

/-- The route on which a request is answered; there is none for a request that does not get to
one. -/
def route? (settings : Settings) (q : Request) : Option (Route Int) :=
  match receive settings q, settings.sessionFault? with
  | .ok (t, none), none => (t.route q.method).toOption
  | _, _ => none

/-- All numbers that a request asks for can be shown. -/
theorem isTooLong_of_route? {q : Request} {route : Route Int}
    (h : route? settings q = some route) : ∀ n ∈ route.numbers, Text.isTooLong n = false := by
  rw [route?] at h
  split at h
  next t _ _ =>
    rw [Target.route] at h
    split at h
    next named _ =>
      split at h
      next => cases h
      next =>
        cases hnumbers : named.mapNumbers? Route.readNumber? with
        | none => rw [hnumbers] at h; cases h
        | some route' =>
          rw [hnumbers] at h
          exact Option.some.inj h ▸ Route.isTooLong_of_mapNumbers? hnumbers
    next => split at h <;> cases h
  next => cases h

/-- Only on a route can a request change the state. -/
theorem fst_respond (E : PairingGroups) (settings : Settings) (s : State) (q : Request) :
    (respond E settings s q).1 =
      match route? settings q with
      | some route => (perform E settings s q route).1
      | none => s := by
  rw [respond, route?]
  rcases receive settings q with failure | ⟨t, problem⟩
  · rfl
  · dsimp only
    rw [answer.eq_def]
    cases settings.sessionFault? with
    | some failure => cases problem <;> rfl
    | none =>
      cases problem with
      | some problem => rfl
      | none => cases hroute : t.route q.method <;> simp only [hroute, Except.toOption]

/-- A request that gets to a route is answered with what is done there. -/
theorem respond_of_route {route : Route Int} {q : Request} (E : PairingGroups) (s : State)
    (h : route? settings q = some route) :
    respond E settings s q =
      ((perform E settings s q route).1, settle settings (perform E settings s q route).2) := by
  rw [route?] at h
  split at h
  next t hreceive hsession =>
    have hroute : t.route q.method = .ok route := by
      cases hcase : t.route q.method with
      | error problem => rw [hcase] at h; exact absurd h (by simp [Except.toOption])
      | ok route' => rw [hcase] at h; exact congrArg Except.ok (Option.some.inj h)
    rw [respond, hreceive]
    simp only [answer, hsession, hroute]
  next => exact absurd h (by simp)

/-- An answer is given as it is. -/
theorem respond_of_perform {route : Route Int} {q : Request} {E : PairingGroups} {s s' : State}
    {response : Response} (h : route? settings q = some route)
    (hperform : perform E settings s q route = (s', .ok response)) :
    respond E settings s q = (s', .ok response) := by
  rw [respond_of_route E s h, hperform]
  rfl

end Service

/-! ### Scenes after events -/

namespace Scene

/-- The note that a commitment was accepted. -/
def acceptance : Datum := .object [("dispatched", .bool true)]

/-- The scene after the registration of a round, which comes to nothing if the timestamp cannot be
shown. -/
def registered (E : PairingGroups) (scene : Scene) (r : NumberedRound) : Scene :=
  if Text.isTooLong r.number then scene
  else
    let placed := (scene.dropProofs r.number).setRound r.number r.round
    match State.summary E r.round with
    | .ok d => placed.putRecord (summaryName r.number) d
    | .error _ => placed

/-- The scene after a request for the proof of a user. -/
def proved (E : PairingGroups) (scene : Scene) (t u : Int) : Scene :=
  match scene.round t with
  | none => scene
  | some r =>
    match scene.view (proofName t u), Service.proofDocument E r u with
    | .null, .ok d => scene.putRecord (proofName t u) d
    | _, _ => scene

/-- The scene after a dispatch. -/
def dispatched (E : PairingGroups) (timeout : Datum) (scene : Scene) (t : Int) : Scene :=
  match scene.round t with
  | none => scene
  | some r =>
    let handed := scene.setRound t (r.dispatch E timeout).1
    match (r.dispatch E timeout).2 with
    | .ok _ => handed.putRecord (dispatchName t) acceptance
    | .error _ => handed

/-- The scene after a request on a route. -/
def performed (E : PairingGroups) (settings : Settings) (scene : Scene) : Route Int → Scene
  | .proof t u => scene.proved E t u
  | .dispatch t => scene.dispatched E settings.dispatchTimeout t
  | .rounds | .round _ | .verification | .asset => scene

/-- The scene after an event. -/
def serve (E : PairingGroups) (settings : Settings) (scene : Scene) : Event → Scene
  | .registration r => scene.registered E r
  | .request q =>
    match Service.route? settings q with
    | some route => scene.performed E settings route
    | none => scene

/-- The scene after a list of events. -/
def serveAll (E : PairingGroups) (settings : Settings) (scene : Scene) (events : List Event) :
    Scene :=
  events.foldl (serve E settings) scene

theorem serveAll_append (scene : Scene) (events events' : List Event) :
    scene.serveAll E settings (events ++ events') =
      (scene.serveAll E settings events).serveAll E settings events' :=
  List.foldl_append

/-- The last of some events acts on the scene after the others. -/
theorem serveAll_concat (scene : Scene) (events : List Event) (event : Event) :
    scene.serveAll E settings (events ++ [event]) =
      (scene.serveAll E settings events).serve E settings event :=
  List.foldl_concat ..

/-! ### Rounds and notes after events -/

variable (scene : Scene) (t t' u : Int)

theorem round_registered {r : NumberedRound} (hshort : Text.isTooLong r.number = false) :
    (scene.registered E r).round t = if t = r.number then some r.round else scene.round t := by
  rw [registered, hshort]
  cases State.summary E r.round <;>
    simp only [Bool.false_eq_true, if_false, round_putRecord, round_setRound, round_dropProofs]

/-- A registration leaves the rounds of other timestamps. -/
theorem round_registered_of_ne {r : NumberedRound} (hne : t ≠ r.number) :
    (scene.registered E r).round t = scene.round t := by
  cases hlong : Text.isTooLong r.number with
  | true => rw [registered, if_pos hlong]
  | false => rw [round_registered scene t hlong, if_neg hne]

theorem round_proved : (scene.proved E t u).round = scene.round := by
  rw [proved]
  split
  · rfl
  · split <;> rfl

theorem round_dispatched (timeout : Datum) :
    (scene.dispatched E timeout t').round t =
      if t = t' then (scene.round t).map fun r => (r.dispatch E timeout).1
      else scene.round t := by
  rw [dispatched]
  cases hround : scene.round t' with
  | none =>
    dsimp only
    split
    next heq => rw [heq, hround]; rfl
    next => rfl
  | some r =>
    have hhanded : (scene.setRound t' (r.dispatch E timeout).1).round t =
        if t = t' then (scene.round t).map fun r => (r.dispatch E timeout).1
        else scene.round t := by
      rw [round_setRound]
      split
      next heq => rw [heq, hround]; rfl
      next => rfl
    cases houtcome : (r.dispatch E timeout).2 <;> simp only [houtcome] <;> exact hhanded

/-- A registration leaves the notes. -/
theorem view_registered_dispatchName (r : NumberedRound) :
    (scene.registered E r).view (dispatchName t) = scene.view (dispatchName t) := by
  have hplaced : ((scene.dropProofs r.number).setRound r.number r.round).view (dispatchName t) =
      scene.view (dispatchName t) := by
    rw [view_setRound, dropProofs]
    exact if_neg (by rw [State.startsWith_dispatchName]; simp)
  rw [registered]
  split
  · rfl
  cases State.summary E r.round with
  | error failure => exact hplaced
  | ok d =>
    simp only [view_putRecord, if_neg (State.summaryName_ne_dispatchName r.number t).symm]
    exact hplaced

/-- A registration leaves no proof of its timestamp, and leaves all other proofs. -/
theorem view_registered_proofName {r : NumberedRound} (hshort : Text.isTooLong r.number = false) :
    (scene.registered E r).view (proofName t u) =
      if r.number = t then .null else scene.view (proofName t u) := by
  have hplaced : ((scene.dropProofs r.number).setRound r.number r.round).view (proofName t u) =
      if r.number = t then .null else scene.view (proofName t u) := by
    rw [view_setRound, view_dropProofs_proofName]
  rw [registered, if_neg (by rw [hshort]; exact Bool.false_ne_true)]
  cases State.summary E r.round with
  | error failure => exact hplaced
  | ok d =>
    simp only [view_putRecord, if_neg (State.proofName_ne_summaryName t u r.number)]
    exact hplaced

theorem view_proved_dispatchName :
    (scene.proved E t' u).view (dispatchName t) = scene.view (dispatchName t) := by
  rw [proved]
  split
  · rfl
  · split
    · rw [view_putRecord, if_neg (State.proofName_ne_dispatchName t' u t).symm]
    · rfl

/-- A dispatch leaves a note if it gives a receipt, and leaves all other notes. -/
theorem view_dispatched_dispatchName (timeout : Datum) :
    ((t = t' ∧ ∃ r receipt, scene.round t = some r ∧ (r.dispatch E timeout).2 = .ok receipt) ∧
        (scene.dispatched E timeout t').view (dispatchName t) = acceptance) ∨
      ((¬(t = t' ∧
          ∃ r receipt, scene.round t = some r ∧ (r.dispatch E timeout).2 = .ok receipt)) ∧
        (scene.dispatched E timeout t').view (dispatchName t) = scene.view (dispatchName t)) := by
  rw [dispatched]
  cases hround : scene.round t' with
  | none =>
    refine .inr ⟨?_, rfl⟩
    rintro ⟨rfl, r, -, hr, -⟩
    exact absurd (hround.symm.trans hr) (by simp)
  | some r =>
    cases houtcome : (r.dispatch E timeout).2 with
    | error failure =>
      simp only [houtcome, view_setRound]
      refine .inr ⟨?_, trivial⟩
      rintro ⟨rfl, r', receipt, hr, hreceipt⟩
      obtain rfl := Option.some.inj (hround.symm.trans hr)
      exact absurd (houtcome.symm.trans hreceipt) (by simp)
    | ok receipt =>
      simp only [houtcome, view_putRecord, view_setRound, State.dispatchName_injective.eq_iff]
      by_cases heq : t = t'
      · exact .inl ⟨⟨heq, r, receipt, heq ▸ hround, houtcome⟩, if_pos heq⟩
      · exact .inr ⟨fun h => heq h.1, if_neg heq⟩

end Scene

/-! ### States after events -/

namespace State.Shows

variable {s : State} {scene : Scene} {room : Nat}

/-- Registering a round gives its summary, or the failure to show the timestamp or to compute the
summary. -/
theorem registered (h : s.Shows scene (room + 1)) (r : NumberedRound) :
    ∃ s' : State, s.register E r.round =
        (s', if Text.isTooLong r.number then .error .numeralTooLong
          else State.summary E r.round) ∧
      s'.Shows (scene.registered E r) room := by
  cases hlong : Text.isTooLong r.number with
  | true =>
    have hregister : s.register E r.round = (s, .error .numeralTooLong) := by
      rw [State.register, r.timestamp_eq, State.dropProofs_integer, hlong]
      rfl
    rw [hregister, Scene.registered, if_pos hlong]
    exact ⟨s, rfl, h.mono (Nat.le_succ room)⟩
  | false =>
  obtain ⟨s₁, hdrop, hrounds₁, hholds₁⟩ := h.holds.dropRecords (proofStart r.number)
  have hplaced : (s₁.setRound (.integer r.number) r.round).Shows
      ((scene.dropProofs r.number).setRound r.number r.round) (room + 1) :=
    (h.of_rounds_eq hrounds₁ hholds₁).setRound r.number r.round
  have hregister : s.register E r.round =
      (s₁.setRound (.integer r.number) r.round).recordSummary E r.round := by
    simp only [State.register, r.timestamp_eq, State.dropProofs_integer, hlong,
      Bool.false_eq_true, if_false, hdrop, Datum.isKey, if_true]
  rw [hregister, State.recordSummary, Scene.registered]
  simp only [hlong, Bool.false_eq_true, if_false]
  cases State.summary E r.round with
  | error failure => exact ⟨_, rfl, hplaced.mono (Nat.le_succ room)⟩
  | ok d =>
    obtain ⟨s₂, hput, hrounds₂, hholds₂⟩ := hplaced.holds.putRecord (summaryName r.number) d
    refine ⟨s₂, ?_, hplaced.of_rounds_eq hrounds₂ hholds₂⟩
    simp only [r.timestamp_eq, State.summaryKey_integer, hput]
    rfl

theorem proved (h : s.Shows scene (room + 1)) (t u : Int) :
    (Service.proveUser E s t u).1.Shows (scene.proved E t u) room := by
  have hmono := h.mono (Nat.le_succ room)
  rw [Service.proveUser, Scene.proved, h.round t]
  cases scene.round t with
  | none => exact hmono
  | some r =>
    obtain ⟨s₁, hrecord, hrounds₁, hholds₁⟩ := h.holds.record (proofName t u)
    have h₁ : s₁.Shows scene (room + 1) := h.of_rounds_eq hrounds₁ hholds₁
    simp only [State.proofKey_integer, hrecord]
    cases scene.view (proofName t u) with
    | null =>
      simp only [Service.makeProof]
      cases Service.proofDocument E r u with
      | error failure => exact h₁.mono (Nat.le_succ room)
      | ok d =>
        obtain ⟨s₂, hput, hrounds₂, hholds₂⟩ := h₁.holds.putRecord (proofName t u) d
        simp only [State.proofKey_integer, hput]
        exact h₁.of_rounds_eq hrounds₂ hholds₂
    | _ => exact h₁.mono (Nat.le_succ room)

theorem dispatched (h : s.Shows scene (room + 1)) (t : Int) :
    (Service.dispatch E settings s t).1.Shows
      (scene.dispatched E settings.dispatchTimeout t) room := by
  rw [Service.dispatch, Scene.dispatched, h.round t]
  cases scene.round t with
  | none => exact h.mono (Nat.le_succ room)
  | some r =>
    have hhanded := h.setRound t (r.dispatch E settings.dispatchTimeout).1
    cases houtcome : (r.dispatch E settings.dispatchTimeout).2 with
    | ok receipt =>
      obtain ⟨s', hput, hrounds, hholds⟩ :=
        hhanded.holds.putRecord (dispatchName t) Scene.acceptance
      rw [Scene.acceptance] at hput
      simp only [houtcome, State.dispatchKey_integer, hput]
      exact hhanded.of_rounds_eq hrounds hholds
    | error failure =>
      simp only [houtcome]
      have hmono := hhanded.mono (Nat.le_succ room)
      split <;> exact hmono

theorem performed (h : s.Shows scene (room + 1)) (q : Request) (route : Route Int) :
    (Service.perform E settings s q route).1.Shows (scene.performed E settings route) room := by
  have hmono := h.mono (Nat.le_succ room)
  cases route with
  | proof t u => exact h.proved t u
  | dispatch t => exact h.dispatched t
  | round t =>
    obtain ⟨s', hrecord, hrounds, hholds⟩ := hmono.holds.record (summaryName t)
    have h' : s'.Shows scene room := hmono.of_rounds_eq hrounds hholds
    simp only [Service.perform, Service.showRound, State.summaryKey_integer, hrecord]
    split <;> exact h'
  | rounds | verification | asset => exact hmono

/-- A state shows what an event makes of the scene. -/
theorem serve (h : s.Shows scene (room + 1)) (event : Event) :
    (Service.step E settings s event).Shows (scene.serve E settings event) room := by
  cases event with
  | registration r =>
    obtain ⟨s', hregister, hshows⟩ := h.registered (E := E) r
    rw [Service.step, hregister]
    exact hshows
  | request q =>
    rw [Service.step, Service.fst_respond, Scene.serve]
    cases Service.route? settings q with
    | some route => exact h.performed q route
    | none => exact h.mono (Nat.le_succ room)

/-- A state shows what events make of the scene. -/
theorem serveAll {events : List Event} (h : s.Shows scene (room + events.length)) :
    (Service.run E settings s events).Shows (scene.serveAll E settings events) room := by
  induction events generalizing s scene with
  | nil => exact h
  | cons event events ih => exact ih (h.serve event)

end State.Shows

end LiabilityProof
