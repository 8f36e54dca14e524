import Mathlib.Logic.Function.Basic
import LiabilityProof.Proofs.Storage.RecordFile
import LiabilityProof.Server.State

/-!
# What the records of a state hold

Wherever records are kept, all that a server sees of them is a datum under every key, where null
stands for no record. `State.Holds s view room` says that this is `view`, and that `room` more
records can be added. Then looking at a record, putting one and dropping those whose keys start
with a text succeed, leave the rounds as they are, and do to the view what they say.

The keys of summaries, proofs and dispatches never meet, and the proofs of a round are told apart
from those of other rounds by the mark that their keys start with, since it ends in a full stop
and numbers have none. So the mark of the round 1 is not the start of a key of the round 12.
-/

namespace LiabilityProof

open Document (startsWith)

/-! ### Records in memory -/

namespace Records

/-- Records in memory under texts. -/
def Keyed (rows : List (Datum × Datum)) : Prop := ∀ row ∈ rows, ∃ key, row.1 = .text key

theorem find_put (key other : String) (d : Datum) (rows : List (Datum × Datum)) :
    find (.text other) (put (.text key) d rows) =
      if other = key then d else find (.text other) rows := by
  have hsame : (Datum.text key).same (.text other) = decide (other = key) := by
    rw [Bool.eq_iff_iff, Datum.same_text_iff, decide_eq_true_iff, Datum.text.injEq, eq_comm]
  induction rows with
  | nil => simp only [put, find, hsame, decide_eq_true_iff]
  | cons row rows ih =>
    obtain ⟨k, old⟩ := row
    by_cases hk : k.same (.text key) = true
    · obtain rfl := Datum.same_text_iff.mp hk
      simp only [put, hk, if_true, find, hsame, decide_eq_true_iff]
      split <;> rfl
    · simp only [put, if_neg hk, find, ih]
      by_cases hkey : other = key
      · subst hkey
        simp only [if_neg hk, if_true]
      · simp only [if_neg hkey]

theorem Keyed.put {rows : List (Datum × Datum)} (h : Keyed rows) (key : String) (d : Datum) :
    Keyed (put (.text key) d rows) := by
  induction rows with
  | nil => exact fun row hrow => ⟨key, congrArg Prod.fst (List.mem_singleton.mp hrow)⟩
  | cons row rows ih =>
    obtain ⟨k, old⟩ := row
    obtain ⟨hrow, hrows⟩ := List.forall_mem_cons.mp h
    rw [Records.put]
    split
    · exact List.forall_mem_cons.mpr ⟨⟨key, rfl⟩, hrows⟩
    · exact List.forall_mem_cons.mpr ⟨hrow, ih hrows⟩

/-- Records can be dropped, and no other records change. -/
theorem Keyed.drop {rows : List (Datum × Datum)} (h : Keyed rows) (mark : String) :
    ∃ kept, drop (.text mark) rows = .ok kept ∧ Keyed kept ∧ ∀ key,
      find (.text key) kept = if startsWith mark key then .null else find (.text key) rows := by
  induction rows with
  | nil => exact ⟨[], rfl, h, fun key => by simp only [find, ite_self]⟩
  | cons row rows ih =>
    obtain ⟨k, d⟩ := row
    obtain ⟨⟨name, rfl : k = .text name⟩, hrows⟩ := List.forall_mem_cons.mp h
    obtain ⟨kept, hdrop, hkeyed, hfind⟩ := ih hrows
    have hsame : ∀ key, (Datum.text name).same (.text key) = true ↔ name = key := fun key => by
      rw [Datum.same_text_iff, Datum.text.injEq]
    refine ⟨if startsWith mark name then kept else (.text name, d) :: kept, ?_, ?_, fun key => ?_⟩
    · rw [Records.drop, hdrop]
      rfl
    · split
      · exact hkeyed
      · exact List.forall_mem_cons.mpr ⟨⟨name, rfl⟩, hkeyed⟩
    · by_cases hkey : name = key
      · subst hkey
        by_cases hmark : startsWith mark name = true
        · rw [if_pos hmark, if_pos hmark, hfind, if_pos hmark]
        · rw [if_neg hmark, if_neg hmark, find, find]
          simp only [(hsame name).mpr rfl, if_true]
      · have hne : ¬(Datum.text name).same (.text key) = true := mt (hsame key).mp hkey
        rw [find, if_neg hne, ← hfind key]
        split
        · rfl
        · rw [find, if_neg hne]

end Records

namespace State

/-! ### Records of a state -/

/-- The records of the state are those that the view shows, and there is room for more. -/
def Holds (s : State) (view : String → Datum) (room : Nat) : Prop :=
  match s.records with
  | .memory rows => Records.Keyed rows ∧ ∀ key, Records.find (.text key) rows = view key
  | .file f => ∃ table, f.Tabulates s.directory table room ∧
      ∀ key, firstData (Document.under key table) = view key

theorem firstData_of_firstHas {d : Datum} {rows : List Datum} (h : Document.FirstHas d rows) :
    firstData rows = d := by
  obtain ⟨fields, rest, rfl, hdata⟩ := h
  rw [firstData, hdata, Option.getD_some]

variable {s : State} {view : String → Datum} {room : Nat}

theorem Holds.mono (h : s.Holds view room) {room' : Nat} (hle : room' ≤ room) :
    s.Holds view room' := by
  obtain ⟨rounds, records, dir⟩ := s
  cases records with
  | memory rows => exact h
  | file f =>
    obtain ⟨table, htable, hview⟩ := h
    exact ⟨table, htable.mono hle, hview⟩

/-- Rounds are kept apart from records. -/
theorem Holds.setRound (h : s.Holds view room) (timestamp : Datum) (r : Round) :
    (s.setRound timestamp r).Holds view room := h

/-- Looking at a record gives what the view shows. -/
theorem Holds.record (h : s.Holds view room) (key : String) :
    ∃ s' : State, s.record (.text key) = (s', .ok (view key)) ∧ s'.rounds = s.rounds ∧
      s'.Holds view room := by
  obtain ⟨rounds, records, dir⟩ := s
  cases records with
  | memory rows =>
    exact ⟨⟨rounds, .memory rows, dir⟩, congrArg (Prod.mk _ <| Except.ok ·) (h.2 key), rfl, h⟩
  | file f =>
    obtain ⟨table, htable, hview⟩ := h
    refine ⟨⟨rounds, .file (f.remember (.text key) (Document.under key table)), dir⟩, ?_, rfl,
      table, htable.remember key, hview⟩
    simp only [State.record, htable.search_eq key]
    exact congrArg (Prod.mk _ <| Except.ok ·) (hview key)

theorem Holds.record_eq (h : s.Holds view room) (key : String) :
    (s.record (.text key)).2 = .ok (view key) := by
  obtain ⟨s', hrecord, -⟩ := h.record key
  rw [hrecord]

/-- A record can be put, and no other changes. -/
theorem Holds.putRecord (h : s.Holds view (room + 1)) (key : String) (d : Datum) :
    ∃ s' : State, s.putRecord (.text key) d = (s', .ok ()) ∧ s'.rounds = s.rounds ∧
      s'.Holds (Function.update view key d) room := by
  obtain ⟨rounds, records, dir⟩ := s
  cases records with
  | memory rows =>
    refine ⟨_, rfl, rfl, h.1.put key d, fun other => ?_⟩
    rw [Records.find_put, Function.update_apply, h.2]
  | file f =>
    obtain ⟨table, htable, hview⟩ := h
    obtain ⟨f', dir', table', hput, htable', hfirst, hothers⟩ := htable.put key d
    refine ⟨⟨rounds, .file f', dir'⟩, ?_, rfl, table', htable', fun other => ?_⟩
    · simp only [State.putRecord, hput]
    · by_cases hkey : other = key
      · rw [hkey, Function.update_self, firstData_of_firstHas hfirst]
      · rw [Function.update_of_ne hkey, hothers other hkey, hview]

/-- The records whose keys start with a text can be dropped, and no other changes. -/
theorem Holds.dropRecords (h : s.Holds view room) (mark : String) :
    ∃ s' : State, s.dropRecords (.text mark) = (s', .ok ()) ∧ s'.rounds = s.rounds ∧
      s'.Holds (fun key => if startsWith mark key then .null else view key) room := by
  obtain ⟨rounds, records, dir⟩ := s
  cases records with
  | memory rows =>
    obtain ⟨kept, hdrop, hkeyed, hfind⟩ := h.1.drop mark
    refine ⟨⟨rounds, .memory kept, dir⟩, ?_, rfl, hkeyed, fun key => ?_⟩
    · simp only [State.dropRecords, hdrop]
    · rw [hfind, h.2]
  | file f =>
    obtain ⟨table, htable, hview⟩ := h
    obtain ⟨f', dir', hremove, htable'⟩ := htable.remove mark
    refine ⟨⟨rounds, .file f', dir'⟩, ?_, rfl, _, htable', fun key => ?_⟩
    · simp only [State.dropRecords, hremove]
    · simp only [Document.under_unmarked, apply_ite firstData, hview]
      rfl

/-- There are no records yet. In a file there is room for more. -/
def IsFresh (s : State) (room : Nat) : Prop :=
  match s.records with
  | .memory rows => rows = []
  | .file f => f.document s.directory = .ok .null ∧ room < RecordFile.capacity

/-- At the start there are no rounds, and no records unless they are in the file. -/
theorem holds_of_start {dir : Directory} {path : Datum} (hstart : State.start dir path = .ok s)
    (hfresh : s.IsFresh room) : s.rounds = [] ∧ s.Holds (fun _ => .null) room := by
  unfold State.start at hstart
  split at hstart
  · obtain rfl := Except.ok.inj hstart
    exact ⟨rfl, by simp [Records.Keyed], fun key => rfl⟩
  · obtain ⟨text, -, hstart⟩ := bind_eq_ok_iff.mp hstart
    obtain ⟨name, -, hstart⟩ := bind_eq_ok_iff.mp hstart
    obtain rfl := Except.ok.inj hstart
    exact ⟨rfl, [], .ofName hfresh.1 hfresh.2, fun key => rfl⟩

/-- A server without files can keep its records in a new one. -/
theorem exists_start_of_isPlain {name : String} (hname : Destination.isPlain name = true)
    {room : Nat} (hroom : room < RecordFile.capacity) :
    ∃ s, State.start .empty (.text name) = .ok s ∧ s.IsFresh room := by
  have hplace : Directory.empty.place name = .ok name := by
    rw [Directory.place, Directory.follow, Destination.ofPath_of_isPlain _ hname]
    rfl
  refine ⟨⟨[], .file (.ofName name), Directory.empty.put name .empty⟩, ?_, ?_, hroom⟩
  · simp only [State.start, Directory.pathOf, bind, Except.bind, hplace]
    rfl
  · rw [RecordFile.document, RecordFile.ofName, Directory.get?_put, if_pos rfl]
    rfl

/-! ### Keys -/

/-- The key of the summary of a round whose timestamp is an integer. -/
def summaryName (timestamp : Int) : String := "round." ++ Text.ofInt timestamp

/-- What the keys of the proofs of such a round start with. -/
def proofStart (timestamp : Int) : String := "proof." ++ Text.ofInt timestamp ++ "."

/-- The key of a proof of such a round. -/
def proofName (timestamp user : Int) : String := proofStart timestamp ++ Text.ofInt user

/-- The key of the note that the commitment of such a round was accepted. -/
def dispatchName (timestamp : Int) : String := "dispatch." ++ Text.ofInt timestamp

theorem summaryKey_integer (t : Int) : summaryKey (.integer t) = .text (summaryName t) := rfl

theorem proofMark_integer (t : Int) : proofMark (.integer t) = proofStart t := rfl

theorem proofKey_integer (t u : Int) :
    proofKey (.integer t) (.integer u) = .text (proofName t u) := rfl

theorem dispatchKey_integer (t : Int) : dispatchKey (.integer t) = .text (dispatchName t) := rfl

/-- The proofs of an integer are dropped, unless it is too long to be shown. -/
theorem dropProofs_integer (s : State) (t : Int) :
    s.dropProofs (.integer t) =
      if Text.isTooLong t then (s, .error .numeralTooLong)
      else s.dropRecords (.text (proofStart t)) := by
  rw [dropProofs, Datum.obstacle?_integer]
  cases Text.isTooLong t <;> rfl

theorem toList_summaryName (t : Int) :
    (summaryName t).toList = "round.".toList ++ Text.integer t := by
  rw [summaryName, String.toList_append, Text.toList_ofInt]

theorem toList_dispatchName (t : Int) :
    (dispatchName t).toList = "dispatch.".toList ++ Text.integer t := by
  rw [dispatchName, String.toList_append, Text.toList_ofInt]

theorem toList_proofStart (t : Int) :
    (proofStart t).toList = "proof.".toList ++ (Text.integer t ++ ['.']) := by
  rw [proofStart, String.toList_append, String.toList_append, Text.toList_ofInt,
    List.append_assoc]
  rfl

theorem toList_proofName (t u : Int) :
    (proofName t u).toList = "proof.".toList ++ (Text.integer t ++ '.' :: Text.integer u) := by
  rw [proofName, String.toList_append, toList_proofStart, Text.toList_ofInt]
  simp only [List.append_assoc, List.singleton_append]

theorem summaryName_injective : Function.Injective summaryName := by
  intro t t' h
  have hlist := congrArg String.toList h
  rw [toList_summaryName, toList_summaryName, List.append_cancel_left_eq] at hlist
  exact Text.integer_injective hlist

theorem dispatchName_injective : Function.Injective dispatchName := by
  intro t t' h
  have hlist := congrArg String.toList h
  rw [toList_dispatchName, toList_dispatchName, List.append_cancel_left_eq] at hlist
  exact Text.integer_injective hlist

theorem ne_of_toList_cons {s s' : String} {c c' : Char} {cs cs' : List Char}
    (hs : s.toList = c :: cs) (hs' : s'.toList = c' :: cs') (hne : c ≠ c') : s ≠ s' := by
  rintro rfl
  exact hne (List.cons.inj (hs.symm.trans hs')).1

theorem proofName_ne_summaryName (t u t' : Int) : proofName t u ≠ summaryName t' :=
  ne_of_toList_cons (toList_proofName t u) (toList_summaryName t') (by decide)

theorem proofName_ne_dispatchName (t u t' : Int) : proofName t u ≠ dispatchName t' :=
  ne_of_toList_cons (toList_proofName t u) (toList_dispatchName t') (by decide)

theorem summaryName_ne_dispatchName (t t' : Int) : summaryName t ≠ dispatchName t' :=
  ne_of_toList_cons (toList_summaryName t) (toList_dispatchName t') (by decide)

/-- No number has a full stop. -/
theorem dot_notMem_integer (t : Int) : '.' ∉ Text.integer t :=
  Text.not_mem_integer (by decide) (by decide) t

theorem proofName_inj {t u t' u' : Int} : proofName t u = proofName t' u' ↔ t = t' ∧ u = u' := by
  refine ⟨fun h => ?_, fun h => h.1 ▸ h.2 ▸ rfl⟩
  have hlist := congrArg String.toList h
  rw [toList_proofName, toList_proofName, List.append_cancel_left_eq,
    List.append_cons_inj_of_notMem (dot_notMem_integer t) (dot_notMem_integer u)] at hlist
  exact ⟨Text.integer_injective hlist.1, Text.integer_injective hlist.2.2⟩

/-- The mark of a round is the start of the keys of its own proofs only. -/
theorem startsWith_proofName (t t' u : Int) :
    startsWith (proofStart t) (proofName t' u) = decide (t = t') := by
  rw [Bool.eq_iff_iff, decide_eq_true_iff, startsWith, List.isPrefixOf_iff_prefix,
    toList_proofStart, toList_proofName, List.prefix_append_right_inj]
  constructor
  · rintro ⟨rest, h⟩
    rw [List.append_assoc, List.singleton_append, eq_comm,
      List.append_cons_inj_of_notMem (dot_notMem_integer t') (dot_notMem_integer u)] at h
    exact Text.integer_injective h.1.symm
  · rintro rfl
    exact ⟨Text.integer u, by rw [List.append_assoc, List.singleton_append]⟩

theorem startsWith_summaryName (t t' : Int) :
    startsWith (proofStart t) (summaryName t') = false := by
  rw [startsWith, toList_proofStart, toList_summaryName]
  rfl

theorem startsWith_dispatchName (t t' : Int) :
    startsWith (proofStart t) (dispatchName t') = false := by
  rw [startsWith, toList_proofStart, toList_dispatchName]
  rfl

end State

end LiabilityProof
