import LiabilityProof.Proofs.Epoch.InclusionProof
import LiabilityProof.Proofs.Server.Tasks

/-!
# Recorded proofs while tasks take turns

Whatever turns tasks take, the proof that is recorded for a user under a timestamp was given by
some round that was registered for this timestamp (`StemsFrom`). It need not be the round that is
there now. A request that has read a round records its proof in the end, and does not look whether
the round was replaced and its proofs dropped in the meantime (`Scene.run_overtaken`).

What goes wrong is that a request is at work while a registration for its timestamp stands between
the dropping of the proofs and the setting of the round. Turns that never let this happen keep the
records of a timestamp to the proofs of the round that is there (`Coherent.run`).
-/

namespace LiabilityProof

open State (summaryName proofStart proofName)
open scoped Residue

variable {E : PairingGroups} {t : Int}

/-! ### Where records come from -/

/-- The datum is the proof of a user by one of some rounds. -/
def IsProofBy (E : PairingGroups) (rounds : Round → Prop) (u : Int) (d : Datum) : Prop :=
  ∃ r, rounds r ∧ Service.proofDocument E r u = .ok d

/-- What a request has read and made comes from some rounds. -/
def Inquiry.StemsFrom (E : PairingGroups) (rounds : Round → Prop) (u : Int) : Inquiry → Prop
  | found r | missed r => rounds r
  | made d => IsProofBy E rounds u d
  | asked | answered _ => True

theorem Inquiry.stemsFrom_of_not_isPending {rounds : Round → Prop} {u : Int} {stage : Inquiry}
    (h : ¬stage.IsPending) : stage.StemsFrom E rounds u := by
  cases stage with
  | asked | answered => trivial
  | found | missed | made => exact absurd trivial h

/-- What there is of a timestamp, in the scene and in the hands of tasks, comes from some rounds. -/
structure StemsFrom (E : PairingGroups) (t : Int) (rounds : Round → Prop)
    (x : Scene × List Task) : Prop where
  round : ∀ {r}, x.1.round t = some r → rounds r
  record : ∀ u, x.1.view (proofName t u) ≠ .null →
    IsProofBy E rounds u (x.1.view (proofName t u))
  inquiry : ∀ {u stage}, .inquiry t u stage ∈ x.2 → stage.StemsFrom E rounds u

/-! ### What a step does -/

namespace Scene

variable {scene : Scene}

/-- A request keeps to rounds that the scene keeps to. -/
theorem stemsFrom_inquire {rounds : Round → Prop} {u : Int} {stage : Inquiry}
    (hround : ∀ {r}, scene.round t = some r → rounds r) (h : stage.StemsFrom E rounds u) :
    (scene.inquire E t u stage).2.StemsFrom E rounds u := by
  cases stage with
  | asked =>
    rw [inquire]
    cases hcase : scene.round t with
    | none => trivial
    | some r => exact hround hcase
  | found r =>
    rw [inquire]
    split
    · exact h
    · trivial
  | missed r =>
    rw [inquire]
    cases hcase : Service.proofDocument E r u with
    | error failure => trivial
    | ok d => exact ⟨r, h, hcase⟩
  | made d => trivial
  | answered result => trivial

end Scene

/-- A task in the list after a turn was there before, or it is the task whose turn it was. -/
theorem Turns.mem_step {x : Scene × List Task} {i : Nat} {task : Task}
    (h : task ∈ (step (Scene.advance E) x i).2) :
    task ∈ x.2 ∨ ∃ task', x.2[i]? = some task' ∧ task = (x.1.advance E task').2 := by
  cases htask : x.2[i]? with
  | none =>
    rw [step_of_none htask] at h
    exact .inl h
  | some task' =>
    rw [step_of_some htask] at h
    obtain hmem | rfl := List.mem_or_eq_of_mem_set h
    · exact .inl hmem
    · exact .inr ⟨task', rfl, rfl⟩

namespace StemsFrom

variable {rounds : Round → Prop} {x : Scene × List Task} {i : Nat}

theorem step (h : StemsFrom E t rounds x)
    (hplaced : ∀ r, x.2[i]? = some (.registration r .cleared) → r.number = t → rounds r.round) :
    StemsFrom E t rounds (Turns.step (Scene.advance E) x i) := by
  cases htask : x.2[i]? with
  | none => rwa [Turns.step_of_none htask]
  | some task =>
    rw [Turns.step_of_some htask]
    refine ⟨fun {r} hround => ?_, fun u hnull => ?_, fun {u stage} hmem => ?_⟩
    · obtain hsame | ⟨r', rfl, hnumber, hset⟩ := x.1.round_advance E t task
      · exact h.round (hsame ▸ hround)
      · obtain rfl := Option.some.inj (hset.symm.trans hround)
        exact hplaced r' htask hnumber
    · obtain hsame | hdropped | ⟨d, rfl, hwritten⟩ := x.1.view_advance E t u task
      · rw [hsame] at hnull ⊢
        exact h.record u hnull
      · exact absurd hdropped hnull
      · rw [hwritten]
        exact h.inquiry (List.mem_of_getElem? htask)
    · obtain hmem | heq := List.mem_or_eq_of_mem_set hmem
      · exact h.inquiry hmem
      · cases task with
        | inquiry t' u' stage' =>
          obtain ⟨rfl, rfl, rfl⟩ := Task.inquiry.inj heq
          exact Scene.stemsFrom_inquire h.round (h.inquiry (List.mem_of_getElem? htask))
        | registration r stage' => cases heq

end StemsFrom

/-! ### Rounds that are offered -/

/-- The rounds that tasks register for a timestamp. -/
def Offers (tasks : List Task) (t : Int) (round : Round) : Prop :=
  ∃ r stage, .registration r stage ∈ tasks ∧ r.number = t ∧ r.round = round

/-- A turn adds no round to what is offered. -/
theorem Offers.of_step {x : Scene × List Task} {i : Nat} {round : Round}
    (h : Offers (Turns.step (Scene.advance E) x i).2 t round) : Offers x.2 t round := by
  obtain ⟨r, stage, hmem, hnumber, hround⟩ := h
  obtain hmem | ⟨task, htask, heq⟩ := Turns.mem_step hmem
  · exact ⟨r, stage, hmem, hnumber, hround⟩
  · cases task with
    | inquiry t' u stage' => cases heq
    | registration r' stage' =>
      obtain ⟨rfl, -⟩ := Task.registration.inj heq
      exact ⟨r, stage', List.mem_of_getElem? htask, hnumber, hround⟩

theorem StemsFrom.run {rounds : Round → Prop} {turns : List Nat} {x : Scene × List Task}
    (h : StemsFrom E t rounds x) (hoffers : ∀ {r}, Offers x.2 t r → rounds r) :
    StemsFrom E t rounds (Turns.run (Scene.advance E) x turns) := by
  induction turns generalizing x with
  | nil => exact h
  | cons i turns ih =>
    have hstep : StemsFrom E t rounds (Turns.step (Scene.advance E) x i) :=
      h.step fun r hr hnumber => hoffers ⟨r, _, List.mem_of_getElem? hr, hnumber, rfl⟩
    exact ih hstep fun hr => hoffers hr.of_step

/-! ### Turns that keep tasks apart -/

/-- No request for a timestamp is at work while a registration for it stands between the dropping
of the proofs and the setting of the round. -/
def Apart (t : Int) (tasks : List Task) : Prop :=
  ∀ task ∈ tasks, task.IsClearing t → ∀ task' ∈ tasks, ¬task'.IsPending t

/-- The turns never let it happen. -/
def KeepApart {σ : Type} (advance : σ → Task → σ × Task) (t : Int) :
    σ × List Task → List Nat → Prop
  | _, [] => True
  | x, i :: turns => Apart t x.2 ∧ KeepApart advance t (Turns.step advance x i) turns

/-- The records of a timestamp are proofs by the round that is there, requests at work have read
this round, and there are no records while a registration is about to set another. -/
structure Coherent (E : PairingGroups) (t : Int) (x : Scene × List Task) : Prop where
  stems : StemsFrom E t (fun r => x.1.round t = some r) x
  cleared : ∀ r, .registration r .cleared ∈ x.2 → r.number = t →
    ∀ u, x.1.view (proofName t u) = .null

namespace Coherent

variable {x : Scene × List Task} {i : Nat} {task : Task}

/-- After a turn, all that there is of the timestamp stems from the round that is there then. -/
theorem stems_step (h : Coherent E t x) (hapart : Apart t x.2) (htask : x.2[i]? = some task) :
    StemsFrom E t (fun r => (Turns.step (Scene.advance E) x i).1.round t = some r)
      (Turns.step (Scene.advance E) x i) := by
  have hmem := List.mem_of_getElem? htask
  obtain hsame | ⟨r, rfl, rfl, hset⟩ := x.1.round_advance E t task
  · -- the round stays, and so does all that stems from it
    have hround : (Turns.step (Scene.advance E) x i).1.round t = x.1.round t := by
      rw [Turns.step_of_some htask]
      exact hsame
    rw [hround]
    refine h.stems.step fun r hr hnumber => ?_
    obtain rfl := Option.some.inj (htask.symm.trans hr)
    rw [← hsame, Scene.advance, Scene.register, Scene.round_setRound, if_pos hnumber.symm]
  · -- the round changes, and nothing is left of the one before
    rw [Turns.step_of_some htask]
    refine ⟨id, fun u hnull => ?_, fun {u stage} hinquiry => ?_⟩
    · exact absurd (h.cleared r hmem rfl u) hnull
    · obtain hinquiry | heq := List.mem_or_eq_of_mem_set hinquiry
      · have hpending := hapart _ hmem rfl _ hinquiry
        exact Inquiry.stemsFrom_of_not_isPending fun h => hpending ⟨rfl, h⟩
      · cases heq

/-- After a turn, there are no records where a registration has dropped them and has still to set
the round. -/
theorem cleared_step (h : Coherent E t x) (hapart : Apart t x.2) (htask : x.2[i]? = some task)
    {r : NumberedRound} (hr : .registration r .cleared ∈ (Turns.step (Scene.advance E) x i).2)
    (hnumber : r.number = t) (u : Int) :
    (Turns.step (Scene.advance E) x i).1.view (proofName t u) = .null := by
  have hmem := List.mem_of_getElem? htask
  rw [Turns.step_of_some htask] at hr ⊢
  obtain hcleared | heq := List.mem_or_eq_of_mem_set hr
  · -- it stood there before, and no request wrote a record in this turn
    obtain hsame | hdropped | ⟨d, rfl, -⟩ := x.1.view_advance E t u task
    · exact hsame.trans (h.cleared r hcleared hnumber u)
    · exact hdropped
    · exact absurd ⟨rfl, trivial⟩ (hapart _ hcleared hnumber _ hmem)
  · -- it came there in this turn
    cases task with
    | inquiry t' u' stage => cases heq
    | registration r' stage =>
      obtain ⟨rfl, hstage⟩ := Task.registration.inj heq
      obtain ⟨rfl, hdropped⟩ := Scene.submitted_of_register hstage.symm
      rw [Scene.advance, hdropped, Scene.view_dropProofs_proofName, if_pos hnumber]

/-- A turn keeps records coherent where requests and registrations are apart. -/
theorem step (h : Coherent E t x) (hapart : Apart t x.2) (i : Nat) :
    Coherent E t (Turns.step (Scene.advance E) x i) := by
  cases htask : x.2[i]? with
  | none => rwa [Turns.step_of_none htask]
  | some task =>
    exact ⟨h.stems_step hapart htask, fun r hr hnumber u =>
      h.cleared_step hapart htask hr hnumber u⟩

/-- Turns keep records coherent as long as they keep tasks apart. -/
theorem run {turns : List Nat} (h : Coherent E t x)
    (hapart : KeepApart (Scene.advance E) t x turns) :
    Coherent E t (Turns.run (Scene.advance E) x turns) := by
  induction turns generalizing x with
  | nil => exact h
  | cons i turns ih => exact ih (h.step hapart.1 i) hapart.2

end Coherent

/-! ### From the start -/

/-- New tasks on a scene without rounds and records have nothing that stems from anywhere. -/
theorem StemsFrom.of_new {tasks : List Task} (hnew : ∀ task ∈ tasks, task.IsNew)
    (rounds : Round → Prop) : StemsFrom E t rounds (.empty, tasks) where
  round h := nomatch h
  record u h := absurd rfl h
  inquiry {u stage} h := by
    obtain rfl : stage = .asked := hnew _ h
    trivial

theorem Coherent.of_new {tasks : List Task} (hnew : ∀ task ∈ tasks, task.IsNew) :
    Coherent E t (.empty, tasks) where
  stems := .of_new hnew _
  cleared _ _ _ _ := rfl

/-- Turns keep tasks apart on a state if they do on the scene that it shows. -/
theorem keepApart_iff_of_shows {s : State} {scene : Scene} {room : Nat} {tasks : List Task}
    {turns : List Nat} (hshows : s.Shows scene (room + turns.length)) :
    KeepApart (Task.advance E) t (s, tasks) turns ↔
      KeepApart (Scene.advance E) t (scene, tasks) turns := by
  induction turns generalizing s scene tasks with
  | nil => exact Iff.rfl
  | cons i turns ih =>
    have hmore : s.Shows scene (room + turns.length + 1) := hshows
    obtain ⟨s', hstep, hshows'⟩ := hmore.step (E := E) tasks i
    rw [KeepApart, KeepApart, hstep, ih hshows']

/-! ### A request between two registrations -/

/-- Two registrations, and a request for the timestamp of the first. -/
def requestBetween (A B : NumberedRound) (u : Int) : List Task :=
  [.registration A .submitted, .inquiry A.number u .asked, .registration B .submitted]

/-- One task after the other, and the request last. -/
def inOrder : List Nat := [2, 2, 2, 0, 0, 0, 1, 1, 1, 1]

/-- The second registration comes before the last step of the request. -/
def overtaking : List Nat := [0, 0, 0, 1, 1, 1, 2, 2, 2, 1]

/-- A request that is overtaken by the second registration before it records the proof leaves the
proof of the round that is gone. -/
theorem Scene.run_overtaken {A B : NumberedRound} {u : Int} {d : Datum}
    (hshort : Text.isTooLong A.number = false) (hnumber : B.number = A.number)
    (hproof : Service.proofDocument E A.round u = .ok d) :
    let last := Turns.run (Scene.advance E) (.empty, requestBetween A B u) overtaking
    last.1.round A.number = some B.round ∧ last.1.view (proofName A.number u) = d ∧
      ∀ task ∈ last.2, ∀ t, ¬task.IsPending t := by
  have hne : ∀ t', proofName A.number u ≠ summaryName t' :=
    State.proofName_ne_summaryName A.number u
  cases hA : State.summary E A.round <;> cases hB : State.summary E B.round <;>
    simp [Turns.run, Turns.step, overtaking, requestBetween, Scene.advance, Scene.register,
      Scene.inquire, Scene.empty, hshort, hnumber, hA, hB, hproof, hne, Task.IsPending,
      Inquiry.IsPending]

/-- In order, the same tasks are kept apart, and the proof of the round that is there is
recorded. -/
theorem Scene.run_in_order {A B : NumberedRound} {u : Int} {d : Datum}
    (hshort : Text.isTooLong A.number = false) (hnumber : B.number = A.number)
    (hproof : Service.proofDocument E A.round u = .ok d) :
    KeepApart (Scene.advance E) A.number (.empty, requestBetween A B u) inOrder ∧
      (Turns.run (Scene.advance E) (.empty, requestBetween A B u) inOrder).1.view
        (proofName A.number u) = d := by
  have hne : ∀ t', proofName A.number u ≠ summaryName t' :=
    State.proofName_ne_summaryName A.number u
  cases hA : State.summary E A.round <;> cases hB : State.summary E B.round <;>
    simp [KeepApart, Apart, Turns.run, Turns.step, inOrder, requestBetween, Scene.advance,
      Scene.register, Scene.inquire, Scene.empty, hshort, hnumber, hA, hB, hproof, hne,
      Task.IsClearing, Task.IsPending, Inquiry.IsPending]

/-- There are a round whose only user has a proof and a round without users, both under the
timestamp 1. -/
theorem exists_rounds_with_and_without_user : ∃ A B : NumberedRound, A.number = 1 ∧ B.number = 1 ∧
    (∃ d, Service.proofDocument .bn254Logarithms A.round 0 = .ok d ∧ d ≠ .null) ∧
    ∀ d, Service.proofDocument .bn254Logarithms B.round 0 ≠ .ok d := by
  obtain ⟨setup, hbind, hdomain, hsetup⟩ := TrustedSetup.exists_bind_eq_ok .bn254Logarithms
    (Scalar.encode 3) (by decide : 1 ≤ Scalar.maxDomainExponent) le_rfl
    (by decide : ((2 ^ 1 : Nat) : Int) - 1 ≤ 1) .null
  obtain ⟨_, -, hhonest⟩ := TrustedSetup.honest_of_bind hbind
  have hsize : setup.domain.size = 2 := by rw [hdomain]; rfl
  let columns := (Columns.rowValues "a" [5]).map Poly.constant
  have hfits : ∀ entries : List Entry, entries.length ≤ 2 →
      (∀ e ∈ entries, e.balances.length = 1) → Snapshot.mismatch? columns entries setup = none := by
    intro entries hlength hentries
    refine Snapshot.mismatch?_eq_none hsetup rfl (fun f hf => ?_) (hsize ▸ hlength) hentries
    obtain ⟨value, -, rfl⟩ := List.mem_map.mp hf
    rw [hsize]
    exact Poly.degree_ofCoeffs_lt (by simp) two_pos
  let A : Round := ⟨.integer 1, ⟨columns, [⟨.text "a", [5]⟩], setup, .inTurn,
    hfits _ (by decide) (by simp)⟩, .recording, []⟩
  let B : Round := ⟨.integer 1, ⟨columns, [], setup, .inTurn, hfits _ (by decide) (by simp)⟩,
    .recording, []⟩
  refine ⟨⟨A, 1, rfl⟩, ⟨B, 1, rfl⟩, rfl, rfl, ?_, fun d h => ?_⟩
  · have hagree : ∀ j, ¬A.snapshot.Differs 0 (Columns.rowValues "a" [5]) j := by
      rintro j ⟨f, value, hf, hvalue, hne⟩
      obtain rfl : Poly.constant value = f := by
        rw [List.getElem?_map, hvalue] at hf
        exact Option.some.inj hf
      rw [← Poly.eval_toPolynomial, Poly.toPolynomial_constant, Polynomial.eval_C] at hne
      exact hne rfl
    have hprove := Snapshot.prove_of_not_differs PairingGroups.bn254Logarithms_lawful
      (s := A.snapshot) hhonest (by simp) rfl hagree
    have hentry : A.snapshot.entries[0]? = some ⟨.text "a", [5]⟩ := rfl
    have hproof := (Snapshot.inclusionProof_ofNat hentry).trans hprove
    refine ⟨_, bind_eq_ok_iff.mpr ⟨_, hproof, rfl⟩, by simp⟩
  · obtain ⟨proof, hproof, -⟩ := bind_eq_ok_iff.mp h
    cases hproof

/-! ### Recorded proofs -/

/-- From the start on, whatever turns new tasks take, a proof that is recorded was given by a round
registered for its timestamp. It was given by the round that is there if the turns never let a
request for this timestamp be at work between the two steps of a registration that drop the proofs
and set the round. -/
theorem Task.recorded_proofs_of_turns (E : PairingGroups) {dir : Directory} {path : Datum}
    {s : State} (hstart : State.start dir path = .ok s) {tasks : List Task}
    (hnew : ∀ task ∈ tasks, task.IsNew) {turns : List Nat} (hfresh : s.IsFresh turns.length)
    (t u : Int) :
    let last := (Turns.run (Task.advance E) (s, tasks) turns).1
    ∃ d, (last.record (State.proofKey (.integer t) (.integer u))).2 = .ok d ∧
      (d ≠ .null → IsProofBy E (Offers tasks t) u d) ∧
      (KeepApart (Task.advance E) t (s, tasks) turns → d ≠ .null →
        IsProofBy E (fun r => last.round? (.integer t) = some r) u d) := by
  rw [← Nat.zero_add turns.length] at hfresh
  have hshows : s.Shows .empty (0 + turns.length) := .of_start hstart hfresh
  obtain ⟨last, hrun, hlast⟩ := hshows.run (E := E) tasks
  obtain ⟨last', hrecord, -, -⟩ := hlast.holds.record (proofName t u)
  simp only [hrun, State.proofKey_integer, hrecord, hlast.round t]
  refine ⟨_, rfl, fun hnull => ?_, fun hapart hnull => ?_⟩
  · have hstems : StemsFrom E t (Offers tasks t)
        (Turns.run (Scene.advance E) (.empty, tasks) turns) :=
      (StemsFrom.of_new hnew _).run id
    exact hstems.record u hnull
  · have hcoherent := (Coherent.of_new (E := E) (t := t) hnew).run
      ((keepApart_iff_of_shows hshows).mp hapart)
    exact hcoherent.stems.record u hnull

/-- A round without users is registered, then a round with one, and then the proof of this user is
asked for, on a server that keeps its records in memory. -/
theorem Task.recorded_proofs_of_turns_in_order : ∃ A B : NumberedRound,
    A.number = 1 ∧ B.number = 1 ∧
    let E := PairingGroups.bn254Logarithms
    let x : State × List Task := (.empty, requestBetween A B 0)
    let last := (Turns.run (Task.advance E) x inOrder).1
    State.start .empty .null = .ok x.1 ∧ (∀ task ∈ x.2, task.IsNew) ∧
    x.1.IsFresh inOrder.length ∧ KeepApart (Task.advance E) 1 x inOrder ∧
    ∃ d, (last.record (State.proofKey (.integer 1) (.integer 0))).2 = .ok d ∧ d ≠ .null ∧
      IsProofBy E (Offers x.2 1) 0 d ∧
      IsProofBy E (fun r => last.round? (.integer 1) = some r) 0 d := by
  obtain ⟨A, B, hA, hB, ⟨d, hproof, hnull⟩, -⟩ := exists_rounds_with_and_without_user
  obtain ⟨hscene, hview⟩ :=
    Scene.run_in_order (hA ▸ Text.isTooLong_one) (hB.trans hA.symm) hproof
  have hstart : State.start .empty .null = .ok .empty := rfl
  have hfresh : State.empty.IsFresh inOrder.length := rfl
  have hnew : ∀ task ∈ requestBetween A B 0, task.IsNew := by simp [requestBetween, Task.IsNew]
  have hshows : State.empty.Shows .empty (0 + inOrder.length) := .of_start hstart hfresh
  have hapart := (keepApart_iff_of_shows hshows).mpr hscene
  obtain ⟨last, hrun, hlast⟩ := hshows.run (E := .bn254Logarithms) (requestBetween A B 0)
  obtain ⟨last', hrecord, -, -⟩ := hlast.holds.record (proofName A.number 0)
  obtain ⟨d', hrecord', hoffered, hcurrent⟩ :=
    Task.recorded_proofs_of_turns .bn254Logarithms hstart hnew hfresh A.number 0
  obtain rfl : d = d' := by
    rw [hrun, State.proofKey_integer, hrecord, hview] at hrecord'
    exact Except.ok.inj hrecord'
  rw [hA] at hrecord' hoffered hcurrent hapart
  exact ⟨A, B, hA, hB, hstart, hnew, hfresh, hapart, d, hrecord', hnull, hoffered hnull,
    hcurrent hapart hnull⟩

/-- A request reads a round, and before it records the proof another round is registered in the
place of the first. When nobody is at work any more, the proof that is recorded and served is one
that the round does not give. -/
theorem exists_record_of_replaced_round : ∃ (A B : NumberedRound) (s : State) (tasks : List Task)
    (d : Datum), A.number = 1 ∧ B.number = 1 ∧
      Turns.run (Task.advance .bn254Logarithms) (.empty, requestBetween A B 0) overtaking =
        (s, tasks) ∧
      (∀ task ∈ tasks, ∀ t, ¬task.IsPending t) ∧
      s.round? (.integer 1) = some B.round ∧
      (s.record (State.proofKey (.integer 1) (.integer 0))).2 = .ok d ∧ d ≠ .null ∧
      Service.proofDocument .bn254Logarithms B.round 0 ≠ .ok d ∧
      (Service.proveUser .bn254Logarithms s 1 0).2 = .ok (.ok d) := by
  obtain ⟨A, B, hA, hB, ⟨d, hproof, hnull⟩, hnone⟩ := exists_rounds_with_and_without_user
  obtain ⟨hround, hview, hdone⟩ :=
    Scene.run_overtaken (hA ▸ Text.isTooLong_one) (hB.trans hA.symm) hproof
  have hstart : State.start .empty .null = .ok .empty := rfl
  have hshows : State.empty.Shows .empty (0 + overtaking.length) := .of_start hstart rfl
  obtain ⟨s, hrun, hlast⟩ := hshows.run (E := .bn254Logarithms) (requestBetween A B 0)
  obtain ⟨s', hrecord, -, -⟩ := hlast.holds.record (proofName A.number 0)
  rw [hA] at hround hrecord hview
  rw [hview] at hrecord
  have hround' : s.round? (.integer 1) = some B.round := (hlast.round 1).trans hround
  refine ⟨A, B, s, _, d, hA, hB, hrun, hdone, hround', congrArg Prod.snd hrecord, hnull, hnone d,
    ?_⟩
  rw [Service.proveUser]
  simp only [hround', State.proofKey_integer, hrecord]

end LiabilityProof
