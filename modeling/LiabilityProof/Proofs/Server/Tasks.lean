import LiabilityProof.Proofs.Server.Records
import LiabilityProof.Proofs.Server.Reference

/-!
# Tasks that take turns

A server that answers several requests at a time lets their steps mix. A request for a proof
(`Inquiry`) reads the round, looks for a record, makes the proof and records it; a registration
(`Registration`) drops the proofs, sets the round and records the summary. Each step is taken at
once, and between two steps of a task any number of others may be taken. Which task takes the next
step is said by a list of *turns*, the positions of the tasks; tasks and turns may be any. Whoever
has nothing left to do lets a turn pass.

Left alone, a task does what the server does in one go (`Inquiry.advance_alone`,
`Registration.advance_alone`).

All that tasks see of a state is a `Scene`: the round under each timestamp and the datum under each
key. What tasks do to a scene, they do to every state that shows it (`State.Shows.run`).
-/

namespace LiabilityProof

open State (summaryName proofStart proofName)
open Document (startsWith)

/-! ### Tasks -/

/-- How far a request for a proof has come. -/
inductive Inquiry where
  /-- Nothing was read yet. -/
  | asked
  /-- The round was read. -/
  | found (r : Round)
  /-- No record of the proof was found. -/
  | missed (r : Round)
  /-- The proof was made. -/
  | made (d : Datum)
  /-- There is an answer, or a failure. -/
  | answered (result : Except Failure Response)

/-- How far a registration has come. -/
inductive Registration where
  /-- Nothing was done yet. -/
  | submitted
  /-- The proofs of the timestamp were dropped. -/
  | cleared
  /-- The round was set. -/
  | placed
  /-- There is a summary, or a failure. -/
  | ended (result : Except Failure Datum)

/-- What the server does for one request, or for one round. -/
inductive Task where
  /-- The request for the proof of a user in the round of a timestamp. -/
  | inquiry (timestamp user : Int) (stage : Inquiry)
  /-- The registration of a round. -/
  | registration (r : NumberedRound) (stage : Registration)

/-- Whether a request has read the round and is not answered. -/
def Inquiry.IsPending : Inquiry → Prop
  | found _ | missed _ | made _ => True
  | asked | answered _ => False

/-- Whether a task is a request for a timestamp that is at work. -/
def Task.IsPending (t : Int) : Task → Prop
  | inquiry timestamp _ stage => timestamp = t ∧ stage.IsPending
  | registration _ _ => False

/-- Whether a task is a registration for a timestamp that has dropped the proofs and has still to
set the round. -/
def Task.IsClearing (t : Int) : Task → Prop
  | registration r .cleared => r.number = t
  | _ => False

/-- Whether nothing was done of a task yet. -/
def Task.IsNew : Task → Prop
  | inquiry _ _ stage => stage = .asked
  | registration _ stage => stage = .submitted

/-! ### Steps of a state -/

/-- The next step of a request. -/
def Inquiry.advance (E : PairingGroups) (s : State) (timestamp user : Int) :
    Inquiry → State × Inquiry
  | asked =>
    match s.round? (.integer timestamp) with
    | none => (s, answered (.ok (Service.unknownRound timestamp)))
    | some r => (s, found r)
  | found r =>
    match s.record (State.proofKey (.integer timestamp) (.integer user)) with
    | (s, .error failure) => (s, answered (.error failure))
    | (s, .ok .null) => (s, missed r)
    | (s, .ok kept) => (s, answered (.ok (.ok kept)))
  | missed r =>
    match Service.proofDocument E r user with
    | .error failure => (s, answered (Service.proofFailure failure))
    | .ok d => (s, made d)
  | made d =>
    let (s, written) := s.putRecord (State.proofKey (.integer timestamp) (.integer user)) d
    (s, answered (written.map fun _ => .ok d))
  | answered result => (s, answered result)

/-- The next step of a registration. -/
def Registration.advance (E : PairingGroups) (s : State) (r : NumberedRound) :
    Registration → State × Registration
  | submitted =>
    match s.dropProofs r.round.timestamp with
    | (s, .error failure) => (s, ended (.error failure))
    | (s, .ok ()) => (s, cleared)
  | cleared => (s.setRound r.round.timestamp r.round, placed)
  | placed =>
    let (s, result) := s.recordSummary E r.round
    (s, ended result)
  | ended result => (s, ended result)

/-- The next step of a task. -/
def Task.advance (E : PairingGroups) (s : State) : Task → State × Task
  | inquiry timestamp user stage =>
    let (s, stage) := stage.advance E s timestamp user
    (s, inquiry timestamp user stage)
  | registration r stage =>
    let (s, stage) := stage.advance E s r
    (s, registration r stage)

/-- Left alone, a request is answered as the server answers it. -/
theorem Inquiry.advance_alone (E : PairingGroups) (s : State) (t u : Int) :
    (fun x => advance E x.1 t u x.2)^[4] (s, asked) =
      ((Service.proveUser E s t u).1, answered (Service.proveUser E s t u).2) := by
  simp only [Function.iterate_succ, Function.iterate_zero, Function.comp_apply, id_eq]
  rw [Service.proveUser]
  cases hround : s.round? (.integer t) with
  | none => simp only [advance, hround]
  | some r =>
    simp only [advance, hround]
    rcases s.record (State.proofKey (.integer t) (.integer u)) with ⟨s', failure | d⟩
    · rfl
    · cases d with
      | null =>
        simp only [Service.makeProof]
        cases Service.proofDocument E r u with
        | error failure => rfl
        | ok d => rfl
      | _ => rfl

/-- Left alone, a registration does what the server does. -/
theorem Registration.advance_alone (E : PairingGroups) (s : State) (r : NumberedRound) :
    (fun x => advance E x.1 r x.2)^[3] (s, submitted) =
      ((s.register E r.round).1, ended (s.register E r.round).2) := by
  have hkey : r.round.timestamp.isKey = true := by rw [r.timestamp_eq]; rfl
  simp only [Function.iterate_succ, Function.iterate_zero, Function.comp_apply, id_eq]
  rw [State.register]
  simp only [advance, hkey, if_true]
  rcases s.dropProofs r.round.timestamp with ⟨s', failure | ⟨⟩⟩
  · rfl
  · rfl

/-! ### Turns -/

namespace Turns

variable {σ τ : Type} (advance : σ → τ → σ × τ)

/-- The turn of the task at a position. -/
def step (x : σ × List τ) (i : Nat) : σ × List τ :=
  match x.2[i]? with
  | none => x
  | some task => ((advance x.1 task).1, x.2.set i (advance x.1 task).2)

/-- The turns of a list, one after the other. -/
def run (x : σ × List τ) (turns : List Nat) : σ × List τ := turns.foldl (step advance) x

variable {advance}

theorem step_of_some {x : σ × List τ} {i : Nat} {task : τ} (h : x.2[i]? = some task) :
    step advance x i = ((advance x.1 task).1, x.2.set i (advance x.1 task).2) := by
  rw [step, h]

theorem step_of_none {x : σ × List τ} {i : Nat} (h : x.2[i]? = none) : step advance x i = x := by
  rw [step, h]

end Turns

/-! ### Scenes -/

/-- What tasks see. -/
structure Scene where
  /-- The round under each timestamp. -/
  round : Int → Option Round
  /-- The datum under each key. -/
  view : String → Datum

namespace Scene

variable {E : PairingGroups}

/-- The scene without rounds and records. -/
def empty : Scene := ⟨fun _ => none, fun _ => .null⟩

/-- The scene with a datum put under a key. -/
def putRecord (scene : Scene) (key : String) (d : Datum) : Scene :=
  { scene with view := Function.update scene.view key d }

/-- The scene without the proofs of a timestamp. -/
def dropProofs (scene : Scene) (t : Int) : Scene :=
  { scene with view := fun key =>
      if startsWith (proofStart t) key then .null else scene.view key }

/-- The scene with a round set under a timestamp. -/
def setRound (scene : Scene) (t : Int) (r : Round) : Scene :=
  { scene with round := Function.update scene.round t (some r) }

@[simp]
theorem round_putRecord (scene : Scene) (key : String) (d : Datum) :
    (scene.putRecord key d).round = scene.round := rfl

@[simp]
theorem round_dropProofs (scene : Scene) (t : Int) : (scene.dropProofs t).round = scene.round :=
  rfl

@[simp]
theorem view_setRound (scene : Scene) (t : Int) (r : Round) :
    (scene.setRound t r).view = scene.view := rfl

@[simp]
theorem round_setRound (scene : Scene) (t t' : Int) (r : Round) :
    (scene.setRound t r).round t' = if t' = t then some r else scene.round t' :=
  Function.update_apply ..

@[simp]
theorem view_putRecord (scene : Scene) (key key' : String) (d : Datum) :
    (scene.putRecord key d).view key' = if key' = key then d else scene.view key' :=
  Function.update_apply ..

/-- Of the proofs, those of the timestamp are dropped. -/
@[simp]
theorem view_dropProofs_proofName (scene : Scene) (t t' u : Int) :
    (scene.dropProofs t).view (proofName t' u) =
      if t = t' then .null else scene.view (proofName t' u) := by
  simp only [dropProofs, State.startsWith_proofName, decide_eq_true_iff]

/-- The next step of a request. -/
def inquire (E : PairingGroups) (scene : Scene) (t u : Int) : Inquiry → Scene × Inquiry
  | .asked =>
    match scene.round t with
    | none => (scene, .answered (.ok (Service.unknownRound t)))
    | some r => (scene, .found r)
  | .found r =>
    match scene.view (proofName t u) with
    | .null => (scene, .missed r)
    | kept => (scene, .answered (.ok (.ok kept)))
  | .missed r =>
    match Service.proofDocument E r u with
    | .error failure => (scene, .answered (Service.proofFailure failure))
    | .ok d => (scene, .made d)
  | .made d => (scene.putRecord (proofName t u) d, .answered (.ok (.ok d)))
  | .answered result => (scene, .answered result)

/-- The next step of a registration. -/
def register (E : PairingGroups) (scene : Scene) (r : NumberedRound) :
    Registration → Scene × Registration
  | .submitted =>
    if Text.isTooLong r.number then (scene, .ended (.error .numeralTooLong))
    else (scene.dropProofs r.number, .cleared)
  | .cleared => (scene.setRound r.number r.round, .placed)
  | .placed =>
    match State.summary E r.round with
    | .error failure => (scene, .ended (.error failure))
    | .ok d => (scene.putRecord (summaryName r.number) d, .ended (.ok d))
  | .ended result => (scene, .ended result)

/-- The next step of a task. -/
def advance (E : PairingGroups) (scene : Scene) : Task → Scene × Task
  | .inquiry t u stage =>
    ((scene.inquire E t u stage).1, .inquiry t u (scene.inquire E t u stage).2)
  | .registration r stage =>
    ((scene.register E r stage).1, .registration r (scene.register E r stage).2)

/-- What a step can do to the scene. -/
theorem advance_cases (E : PairingGroups) (scene : Scene) (task : Task) :
    (scene.advance E task).1 = scene ∨
      (∃ t u d, task = .inquiry t u (.made d) ∧
        (scene.advance E task).1 = scene.putRecord (proofName t u) d) ∨
      (∃ r, task = .registration r .submitted ∧
        (scene.advance E task).1 = scene.dropProofs r.number) ∨
      (∃ r, task = .registration r .cleared ∧
        (scene.advance E task).1 = scene.setRound r.number r.round) ∨
      ∃ r d, task = .registration r .placed ∧
        (scene.advance E task).1 = scene.putRecord (summaryName r.number) d := by
  cases task with
  | inquiry t u stage =>
    cases stage with
    | asked | found | missed => rw [advance, inquire]; split <;> exact .inl rfl
    | made d => exact .inr (.inl ⟨t, u, d, rfl, rfl⟩)
    | answered => exact .inl rfl
  | registration r stage =>
    cases stage with
    | submitted =>
      rw [advance, register]
      split
      · exact .inl rfl
      · exact .inr (.inr (.inl ⟨r, rfl, rfl⟩))
    | cleared => exact .inr (.inr (.inr (.inl ⟨r, rfl, rfl⟩)))
    | placed =>
      rw [advance, register]
      split
      · exact .inl rfl
      next d _ => exact .inr (.inr (.inr (.inr ⟨r, d, rfl, rfl⟩)))
    | ended => exact .inl rfl

/-- The round of a timestamp is left, or set by a registration that has dropped the proofs. -/
theorem round_advance (E : PairingGroups) (scene : Scene) (t : Int) (task : Task) :
    (scene.advance E task).1.round t = scene.round t ∨
      ∃ r, task = .registration r .cleared ∧ r.number = t ∧
        (scene.advance E task).1.round t = some r.round := by
  obtain h | ⟨t', u, d, -, h⟩ | ⟨r, -, h⟩ | ⟨r, hr, h⟩ | ⟨r, d, -, h⟩ :=
    advance_cases E scene task
  · exact .inl (by rw [h])
  · exact .inl (by rw [h, round_putRecord])
  · exact .inl (by rw [h, round_dropProofs])
  · rw [h, round_setRound]
    split
    next heq => exact .inr ⟨r, hr, heq.symm, rfl⟩
    next => exact .inl rfl
  · exact .inl (by rw [h, round_putRecord])

/-- The record of a proof is left, dropped, or written by a request that has made the proof. -/
theorem view_advance (E : PairingGroups) (scene : Scene) (t u : Int) (task : Task) :
    (scene.advance E task).1.view (proofName t u) = scene.view (proofName t u) ∨
      (scene.advance E task).1.view (proofName t u) = .null ∨
      ∃ d, task = .inquiry t u (.made d) ∧
        (scene.advance E task).1.view (proofName t u) = d := by
  obtain h | ⟨t', u', d, htask, h⟩ | ⟨r, -, h⟩ | ⟨r, -, h⟩ | ⟨r, d, -, h⟩ :=
    advance_cases E scene task
  · exact .inl (by rw [h])
  · rw [h, view_putRecord]
    split
    next heq =>
      obtain ⟨rfl, rfl⟩ := State.proofName_inj.mp heq
      exact .inr (.inr ⟨d, htask, rfl⟩)
    next => exact .inl rfl
  · rw [h, view_dropProofs_proofName]
    split
    · exact .inr (.inl rfl)
    · exact .inl rfl
  · exact .inl (by rw [h, view_setRound])
  · exact .inl (by rw [h, view_putRecord, if_neg (State.proofName_ne_summaryName t u r.number)])

/-- A registration comes to have dropped the proofs by dropping them. -/
theorem submitted_of_register {scene : Scene} {r : NumberedRound} {stage : Registration}
    (h : (scene.register E r stage).2 = .cleared) :
    stage = .submitted ∧ (scene.register E r stage).1 = scene.dropProofs r.number := by
  cases stage with
  | submitted =>
    rw [register] at h ⊢
    split at h
    · cases h
    next hshort => exact ⟨rfl, by rw [if_neg hshort]⟩
  | cleared => cases h
  | placed =>
    rw [register] at h
    split at h <;> cases h
  | ended => cases h

end Scene

/-! ### States that show a scene -/

namespace State

/-- Rounds under integers. -/
def Numbered (rounds : List (Datum × Round)) : Prop := ∀ row ∈ rounds, ∃ n, row.1 = .integer n

theorem Numbered.insertRound {rounds : List (Datum × Round)} (h : Numbered rounds) (t : Int)
    (r : Round) : Numbered (insertRound (.integer t) r rounds) := by
  induction rounds with
  | nil => exact fun row hrow => ⟨t, congrArg Prod.fst (List.mem_singleton.mp hrow)⟩
  | cons row rounds ih =>
    obtain ⟨hrow, hrounds⟩ := List.forall_mem_cons.mp h
    rw [State.insertRound]
    split
    · exact List.forall_mem_cons.mpr ⟨hrow, hrounds⟩
    · exact List.forall_mem_cons.mpr ⟨hrow, ih hrounds⟩

theorem findRound_insertRound {rounds : List (Datum × Round)} (h : Numbered rounds) (t t' : Int)
    (r : Round) : findRound (.integer t') (insertRound (.integer t) r rounds) =
      if t' = t then some r else findRound (.integer t') rounds := by
  have hsame : ∀ n m : Int, (Datum.integer n).same (.integer m) = true ↔ m = n := fun n m => by
    rw [Datum.same_integer, decide_eq_true_iff, eq_comm]
  induction rounds with
  | nil => simp only [State.insertRound, findRound, hsame]
  | cons row rounds ih =>
    obtain ⟨k, old⟩ := row
    obtain ⟨⟨n, rfl : k = .integer n⟩, hrounds⟩ := List.forall_mem_cons.mp h
    by_cases ht : t = n
    · subst ht
      simp only [State.insertRound, findRound, hsame, if_true]
      split <;> rfl
    · simp only [State.insertRound, findRound, hsame, if_neg ht, ih hrounds]
      by_cases ht' : t' = t
      · subst ht'
        simp only [if_neg ht, if_true]
      · simp only [if_neg ht']

/-- The rounds and the records of the state are those of the scene, and there is room for more
records. -/
structure Shows (s : State) (scene : Scene) (room : Nat) : Prop where
  numbered : Numbered s.rounds
  round : ∀ t, s.round? (.integer t) = scene.round t
  holds : s.Holds scene.view room

namespace Shows

variable {E : PairingGroups} {s : State} {scene : Scene} {room : Nat}

theorem of_start {dir : Directory} {path : Datum} (hstart : State.start dir path = .ok s)
    (hfresh : s.IsFresh room) : s.Shows .empty room := by
  obtain ⟨hrounds, hholds⟩ := holds_of_start hstart hfresh
  refine ⟨?_, fun t => ?_, hholds⟩
  · rw [hrounds]
    exact fun row hrow => absurd hrow List.not_mem_nil
  · rw [State.round?, hrounds]
    rfl

theorem mono (h : s.Shows scene room) {room' : Nat} (hle : room' ≤ room) :
    s.Shows scene room' :=
  ⟨h.numbered, h.round, h.holds.mono hle⟩

/-- States with the same rounds show the same rounds. -/
theorem of_rounds_eq (h : s.Shows scene room) {s' : State} {view : String → Datum} {room' : Nat}
    (hrounds : s'.rounds = s.rounds) (hholds : s'.Holds view room') :
    s'.Shows ⟨scene.round, view⟩ room' := by
  refine ⟨hrounds ▸ h.numbered, fun t => ?_, hholds⟩
  rw [← h.round t, State.round?, State.round?, hrounds]

theorem setRound (h : s.Shows scene room) (t : Int) (r : Round) :
    (s.setRound (.integer t) r).Shows (scene.setRound t r) room := by
  refine ⟨h.numbered.insertRound t r, fun t' => ?_, h.holds.setRound _ _⟩
  rw [State.round?, State.setRound, findRound_insertRound h.numbered, Scene.round_setRound,
    ← h.round t']
  rfl

theorem inquire (h : s.Shows scene (room + 1)) (t u : Int) (stage : Inquiry) :
    ∃ s' : State, stage.advance E s t u = (s', (scene.inquire E t u stage).2) ∧
      s'.Shows (scene.inquire E t u stage).1 room := by
  have hmono := h.mono (Nat.le_succ room)
  cases stage with
  | asked =>
    refine ⟨s, ?_, ?_⟩
    · rw [Inquiry.advance, h.round t, Scene.inquire]
      cases scene.round t <;> rfl
    · rw [Scene.inquire]
      cases scene.round t <;> exact hmono
  | found r =>
    obtain ⟨s', hrecord, hrounds, hholds⟩ := hmono.holds.record (proofName t u)
    have hshows : s'.Shows scene room := hmono.of_rounds_eq hrounds hholds
    rw [Inquiry.advance, proofKey_integer, hrecord, Scene.inquire]
    cases scene.view (proofName t u) <;> exact ⟨s', rfl, hshows⟩
  | missed r =>
    rw [Inquiry.advance, Scene.inquire]
    cases Service.proofDocument E r u <;> exact ⟨s, rfl, hmono⟩
  | made d =>
    obtain ⟨s', hput, hrounds, hholds⟩ := h.holds.putRecord (proofName t u) d
    rw [Inquiry.advance, proofKey_integer, hput]
    exact ⟨s', rfl, h.of_rounds_eq hrounds hholds⟩
  | answered result => exact ⟨s, rfl, hmono⟩

theorem register (h : s.Shows scene (room + 1)) (r : NumberedRound) (stage : Registration) :
    ∃ s' : State, stage.advance E s r = (s', (scene.register E r stage).2) ∧
      s'.Shows (scene.register E r stage).1 room := by
  have hmono := h.mono (Nat.le_succ room)
  cases stage with
  | submitted =>
    rw [Registration.advance, r.timestamp_eq, dropProofs_integer, Scene.register]
    cases Text.isTooLong r.number with
    | true => exact ⟨s, rfl, hmono⟩
    | false =>
      obtain ⟨s', hdrop, hrounds, hholds⟩ := hmono.holds.dropRecords (proofStart r.number)
      exact ⟨s', by simp only [hdrop, Bool.false_eq_true, if_false],
        hmono.of_rounds_eq hrounds hholds⟩
  | cleared =>
    rw [Registration.advance, r.timestamp_eq]
    exact ⟨_, rfl, hmono.setRound r.number r.round⟩
  | placed =>
    rw [Registration.advance, State.recordSummary, Scene.register]
    cases State.summary E r.round with
    | error failure => exact ⟨s, rfl, hmono⟩
    | ok d =>
      obtain ⟨s', hput, hrounds, hholds⟩ := h.holds.putRecord (summaryName r.number) d
      refine ⟨s', ?_, h.of_rounds_eq hrounds hholds⟩
      simp only [r.timestamp_eq, summaryKey_integer, hput]
      rfl
  | ended result => exact ⟨s, rfl, hmono⟩

/-- A step of a task on a state is its step on the scene. -/
theorem advance (h : s.Shows scene (room + 1)) (task : Task) :
    ∃ s' : State, task.advance E s = (s', (scene.advance E task).2) ∧
      s'.Shows (scene.advance E task).1 room := by
  cases task with
  | inquiry t u stage =>
    obtain ⟨s', hadvance, hshows⟩ := h.inquire (E := E) t u stage
    exact ⟨s', by rw [Task.advance, hadvance]; rfl, hshows⟩
  | registration r stage =>
    obtain ⟨s', hadvance, hshows⟩ := h.register (E := E) r stage
    exact ⟨s', by rw [Task.advance, hadvance]; rfl, hshows⟩

theorem step (h : s.Shows scene (room + 1)) (tasks : List Task) (i : Nat) :
    ∃ s' : State, Turns.step (Task.advance E) (s, tasks) i =
        (s', (Turns.step (Scene.advance E) (scene, tasks) i).2) ∧
      s'.Shows (Turns.step (Scene.advance E) (scene, tasks) i).1 room := by
  cases htask : tasks[i]? with
  | none =>
    rw [Turns.step_of_none htask, Turns.step_of_none htask]
    exact ⟨s, rfl, h.mono (Nat.le_succ room)⟩
  | some task =>
    obtain ⟨s', hadvance, hshows⟩ := h.advance (E := E) task
    rw [Turns.step_of_some htask, Turns.step_of_some htask, hadvance]
    exact ⟨s', rfl, hshows⟩

/-- Turns on a state are turns on the scene. -/
theorem run {turns : List Nat} (h : s.Shows scene (room + turns.length)) (tasks : List Task) :
    ∃ s' : State, Turns.run (Task.advance E) (s, tasks) turns =
        (s', (Turns.run (Scene.advance E) (scene, tasks) turns).2) ∧
      s'.Shows (Turns.run (Scene.advance E) (scene, tasks) turns).1 room := by
  induction turns generalizing s scene tasks with
  | nil => exact ⟨s, rfl, h⟩
  | cons i turns ih =>
    have hmore : s.Shows scene (room + turns.length + 1) := h
    obtain ⟨s₁, hstep, hshows⟩ := hmore.step (E := E) tasks i
    obtain ⟨s', hrun, hshows'⟩ := ih hshows (Turns.step (Scene.advance E) (scene, tasks) i).2
    refine ⟨s', ?_, hshows'⟩
    rw [Turns.run, List.foldl_cons, hstep]
    exact hrun

end Shows

end State

end LiabilityProof
