import LiabilityProof.Epoch.LedgerFile
import LiabilityProof.Proofs.Ledger.Rows
import LiabilityProof.Proofs.Outcome
import LiabilityProof.Proofs.Text.Decimal

/-!
# Ledgers are read back

A ledger is written as a header of the currencies' names and a row for each user, in any of the ways
to write rows (`Ledger.Writes`). From every one of these texts the same ledger is read, in the
order of the rows (`Ledger.ofFile_of_writes`). A name may be any text: what is special in it is
quoted, and only the mark that was put in front of a currency is taken away again.

Blank rows do not count for the entries, so that these depend on the rows that are filled only
(`Ledger.entriesFrom_eq_ok_iff`).
-/

namespace LiabilityProof

namespace Csv

theorem isTooLong_eq_false_iff {row : List String} :
    isTooLong row = false ↔ ∀ field ∈ row, field.length ≤ maxField := by
  simp only [isTooLong, List.any_eq_false, decide_eq_true_eq, not_lt]

end Csv

namespace Ledger

variable {path : String} {width : Nat}

/-! ### Entries -/

/-- Whether a row under a header of some width is that of an entry. -/
structure IsRowOf (width : Nat) (row : List String) (entry : Entry) : Prop where
  /-- No field is too long. -/
  isTooLong : Csv.isTooLong row = false
  /-- Each currency has a field. -/
  length : row.length = width
  /-- The fields are those of the entry. -/
  entry : entryOfRow row = .ok entry

/-- There are entries exactly if every filled row is that of one. -/
theorem entriesFrom_eq_ok_iff {rows : List (List String)} {entries : List Entry} (row : Nat) :
    entriesFrom path width row rows = .ok entries ↔
      List.Forall₂ (IsRowOf width) (Csv.filled rows) entries := by
  induction rows generalizing row entries with
  | nil =>
    rw [entriesFrom, Except.ok.injEq]
    exact eq_comm.trans List.forall₂_nil_left_iff.symm
  | cons fields rows ih =>
    cases fields with
    | nil => exact ih (row + 1)
    | cons field fields =>
      have hfilled : Csv.filled ((field :: fields) :: rows) =
          (field :: fields) :: Csv.filled rows := rfl
      rw [hfilled, List.forall₂_cons_left_iff, entriesFrom]
      · constructor
        · intro h
          split at h
          next => exact absurd h (by simp)
          next hlong =>
            split at h
            next => exact absurd h (by simp)
            next hlength =>
              obtain ⟨entry, hentry, h⟩ := bind_eq_ok_iff.mp h
              obtain ⟨rest, hrest, h⟩ := bind_eq_ok_iff.mp h
              have hrow : IsRowOf width (field :: fields) entry :=
                ⟨Bool.eq_false_iff.mpr hlong, not_not.mp hlength, mapError_eq_ok_iff.mp hentry⟩
              exact ⟨entry, rest, hrow, (ih (row + 1)).mp hrest, (Except.ok.inj h).symm⟩
        · rintro ⟨entry, rest, hentry, hrest, rfl⟩
          rw [if_neg (by rw [hentry.isTooLong]; exact Bool.false_ne_true),
            if_neg (not_not.mpr hentry.length), hentry.entry, (ih (row + 1)).mpr hrest]
          rfl
      · exact List.cons_ne_nil field fields

theorem ofRows_of_forall₂ {header : List String} {rows : List (List String)} {entries : List Entry}
    (hlong : Csv.isTooLong header = false) (hlength : 2 ≤ header.length)
    (h : List.Forall₂ (IsRowOf header.length) (Csv.filled rows) entries) :
    ofRows path (header :: rows) = .ok ⟨entries, header.tail.map currencyName⟩ := by
  rw [ofRows, if_neg (by rw [hlong]; exact Bool.false_ne_true), if_neg (not_lt.mpr hlength),
    (entriesFrom_eq_ok_iff 2).mpr h]
  rfl

/-! ### What is written -/

/-- The header for some currencies. -/
def headerRow (currencies : List String) : List String :=
  "username" :: currencies.map ("balance_" ++ ·)

/-- The row of a user. -/
def userRow (user : String × List Nat) : List String := user.1 :: user.2.map Text.ofNat

/-- The entry of a user. -/
def userEntry (user : String × List Nat) : Entry := ⟨.text user.1, user.2⟩

/-- The texts that write a ledger: a header and the users, one to a line, with blank lines behind
the header. -/
inductive Writes (currencies : List String) (users : List (String × List Nat)) :
    List Char → Prop where
  /-- A header and the users behind it. -/
  | intro {header lineEnd body : List Char} (hheader : Csv.WritesRow (headerRow currencies) header)
    (hend : Csv.LineEnd lineEnd) (hbody : Csv.WritesRows (users.map userRow) body) :
    Writes currencies users (header ++ (lineEnd ++ body))

/-- Whether a ledger can be written so that it can be read: there is a currency, every user has a
balance of each, and no field is too long. -/
structure Fits (currencies : List String) (users : List (String × List Nat)) : Prop where
  /-- There is a currency. -/
  currencies_ne_nil : currencies ≠ []
  /-- Each user has a balance of each currency. -/
  length_balances : ∀ user ∈ users, user.2.length = currencies.length
  /-- The names of the currencies, with their mark, are not too long for a field. -/
  length_currency : ∀ name ∈ currencies, ("balance_" ++ name).length ≤ Csv.maxField
  /-- The names of the users are not too long for a field. -/
  length_username : ∀ user ∈ users, user.1.length ≤ Csv.maxField
  /-- The balances are not too long for a numeral. -/
  balance_lt : ∀ user ∈ users, ∀ balance ∈ user.2, balance < 10 ^ Text.maxDigits

/-! ### What is read -/

theorem currencyName_append (name : String) : currencyName ("balance_" ++ name) = name := by
  have hmark : "balance_".toList.isPrefixOf ("balance_".toList ++ name.toList) = true :=
    List.isPrefixOf_iff_prefix.mpr (List.prefix_append _ _)
  rw [currencyName, String.toList_append]
  simp only [hmark, if_true, List.drop_left, String.ofList_toList]

theorem tail_headerRow (currencies : List String) :
    (headerRow currencies).tail.map currencyName = currencies := by
  rw [headerRow, List.tail_cons, List.map_map]
  exact (List.map_congr_left fun name _ => currencyName_append name).trans (List.map_id _)

/-- A row of balances that are not too long is that of its user's entry. -/
theorem entryOfRow_userRow {user : String × List Nat}
    (h : ∀ balance ∈ user.2, balance < 10 ^ Text.maxDigits) :
    entryOfRow (userRow user) = .ok (userEntry user) := by
  have hread : (user.2.map Text.ofNat).mapM
      (fun s => (Text.readInteger 10 s).mapError Failure.numeral) =
      .ok (user.2.map Int.ofNat) := by
    refine mapM_map_eq_ok_map fun balance hbalance => ?_
    have htext : Text.ofNat balance = Text.ofInt (Int.ofNat balance) := rfl
    have hshort : Text.isTooLong (Int.ofNat balance) = false :=
      Text.isTooLong_eq_false_iff.mpr (h balance hbalance)
    rw [htext, Text.readInteger_ofInt hshort]
    rfl
  have hchecked : (user.2.map (Datum.integer ∘ Int.ofNat)).mapM
      (Entry.checkBalance (.text user.1)) = .ok user.2 :=
    mapM_map_eq_ok fun _ _ => rfl
  rw [userRow, entryOfRow, hread]
  change (((user.2.map Int.ofNat).map Datum.integer).mapM (Entry.checkBalance (.text user.1)) >>=
    fun checked => pure (Entry.mk (.text user.1) checked)) = _
  rw [List.map_map, hchecked]
  rfl

theorem length_ofNat_le {n : Nat} (h : n < 10 ^ Text.maxDigits) :
    (Text.ofNat n).length ≤ Csv.maxField := by
  rw [Text.ofNat, String.length_ofList]
  exact (Text.length_decimal_le (by decide) h).trans (by decide)

variable {currencies : List String} {users : List (String × List Nat)}

theorem Fits.isTooLong_headerRow (h : Fits currencies users) :
    Csv.isTooLong (headerRow currencies) = false := by
  rw [Csv.isTooLong_eq_false_iff, headerRow, List.forall_mem_cons, List.forall_mem_map]
  exact ⟨by decide, h.length_currency⟩

theorem Fits.length_headerRow (h : Fits currencies users) :
    2 ≤ (headerRow currencies).length := by
  have hpos := List.length_pos_iff.mpr h.currencies_ne_nil
  rw [headerRow, List.length_cons, List.length_map]
  omega

theorem Fits.length_userRow (h : Fits currencies users) {user : String × List Nat}
    (huser : user ∈ users) : (userRow user).length = (headerRow currencies).length := by
  rw [userRow, headerRow, List.length_cons, List.length_cons, List.length_map, List.length_map,
    h.length_balances user huser]

theorem Fits.isRowOf (h : Fits currencies users) {user : String × List Nat}
    (huser : user ∈ users) :
    IsRowOf (headerRow currencies).length (userRow user) (userEntry user) where
  isTooLong := by
    rw [Csv.isTooLong_eq_false_iff, userRow, List.forall_mem_cons, List.forall_mem_map]
    exact ⟨h.length_username user huser, fun balance hbalance =>
      length_ofNat_le (h.balance_lt user huser balance hbalance)⟩
  length := h.length_userRow huser
  entry := entryOfRow_userRow (h.balance_lt user huser)

theorem read_of_writes (h : Fits currencies users) {text : List Char}
    (htext : Writes currencies users text) :
    read path (String.ofList text) = .ok ⟨users.map userEntry, currencies⟩ := by
  obtain ⟨hheader, hend, hbody⟩ := htext
  have hlength : ∀ row ∈ headerRow currencies :: users.map userRow, 2 ≤ row.length := by
    rw [List.forall_mem_cons, List.forall_mem_map]
    exact ⟨h.length_headerRow, fun user huser => h.length_userRow huser ▸ h.length_headerRow⟩
  obtain ⟨rows, hrows, hfilled⟩ := Csv.rows_of_writesRow hheader hend hbody hlength
  have hentries : List.Forall₂ (IsRowOf (headerRow currencies).length) (Csv.filled rows)
      (users.map userEntry) := by
    rw [hfilled, List.forall₂_map_left_iff, List.forall₂_map_right_iff, List.forall₂_same]
    exact fun user huser => h.isRowOf huser
  rw [read, String.toList_ofList, hrows,
    ofRows_of_forall₂ h.isTooLong_headerRow h.length_headerRow hentries, tail_headerRow]

/-- A ledger is read back from the file that holds one of the texts that write it. -/
theorem ofFile_of_writes (h : Fits currencies users) {text : List Char}
    (htext : Writes currencies users text) {dir : Directory} {file : File}
    (hfile : dir.find path = .ok file) (hbytes : file.toBytes = (String.ofList text).toUTF8) :
    ofFile dir path = .ok ⟨users.map fun user => ⟨.text user.1, user.2⟩, currencies⟩ := by
  have hutf8 : String.fromUTF8? (String.ofList text).toUTF8 = some (String.ofList text) :=
    dif_pos (String.ofList text).isValidUTF8
  change (dir.find path >>= fun file => readBytes path file.toBytes) = _
  rw [hfile]
  change readBytes path file.toBytes = _
  rw [hbytes, readBytes, hutf8]
  exact read_of_writes h htext

/-- Names with commas, quotes and line ends in them, an empty name, lines that end in all ways, and
a blank line whose line feed belongs to the line before. -/
theorem ofFile_of_writes_mixed :
    let users : List (String × List Nat) := [("a,\r\n\"", [5]), ("", [10])]
    let text :=
      "username,\"balance_B\"\"T\r\"\r\n" ++ "\"a,\r\n\"\"\",5\r\n\r" ++ ",\"10\"\n"
    Fits ["B\"T\r"] users ∧ Writes ["B\"T\r"] users text.toList ∧
      ofFile ⟨[("ledger.csv", .bytes text.toUTF8)]⟩ "ledger.csv" =
        .ok ⟨[⟨.text "a,\r\n\"", [5]⟩, ⟨.text "", [10]⟩], ["B\"T\r"]⟩ := by
  intro users text
  have hbalances : ∀ user ∈ users, ∀ balance ∈ user.2, balance < 10 ^ 2 := by decide
  have hfit : Fits ["B\"T\r"] users :=
    ⟨by decide, by decide, by decide, by decide, fun user huser balance hbalance =>
      (hbalances user huser balance hbalance).trans_le
        (Nat.pow_le_pow_right (by decide) (by decide))⟩
  have hheader : Csv.WritesRow (headerRow ["B\"T\r"])
      "username,\"balance_B\"\"T\r\"".toList :=
    .cons (.bare (by simp [Csv.IsBare])) (.last .quoted)
  have hfirst : Csv.WritesRow ["a,\r\n\"", "5"] "\"a,\r\n\"\"\",5".toList :=
    .cons .quoted (.last (.bare (by simp [Csv.IsBare])))
  have hsecond : Csv.WritesRow ["", "10"] ",\"10\"".toList :=
    .cons (.bare (by simp [Csv.IsBare])) (.last .quoted)
  have hrows : users.map userRow = [["a,\r\n\"", "5"], ["", "10"]] := by decide +kernel
  have hbody := Csv.WritesRows.blank .lineFeed
    (.row hfirst .both (.blank .carriageReturn (.row hsecond .lineFeed .nil)))
  rw [← hrows] at hbody
  have htext : Writes ["B\"T\r"] users text.toList :=
    (congrArg (Writes _ users) (by decide)).mp (Writes.intro hheader .carriageReturn hbody)
  exact ⟨hfit, htext, ofFile_of_writes hfit htext rfl
    (congrArg String.toUTF8 String.ofList_toList.symm)⟩

end Ledger

end LiabilityProof
