import LiabilityProof.Ledger.Entry

/-!
# Ledgers as comma-separated text

A ledger file has a header, whose first field names the users' column and whose other fields
name the currencies, and a row for each user. `Csv.rows` cuts a text into rows of fields: a
field is bare, or stands between double quotes with its inner quotes doubled, and a row ends at
a line feed, a carriage return, or the two together. Quotes are lenient: inside a bare field
they stand for themselves, text after a closing quote continues the field, and a quote left open
runs to the end of the text.

`Ledger.read` makes entries of the rows, one after the other. Blank lines hold no entry, but they
count when a message names a row. A row with a field that is too long is refused as such.

A file is read block by block, and bytes that are no text are noticed with their block: by then
the rows that end before it have been judged (`Ledger.readBytes`).
-/

namespace LiabilityProof

namespace Csv

/-- Where the reader stands inside a row. -/
inductive Place where
  /-- Nothing of the row was read. -/
  | rowStart
  /-- Behind a comma. -/
  | fieldStart
  /-- Inside a bare field. -/
  | bare
  /-- Between quotes. -/
  | inQuotes
  /-- Behind a quote that stands between quotes. -/
  | afterQuote
deriving DecidableEq

/-- The row so far: the field in progress and the fields before it, both in reverse. -/
structure Partial where
  /-- Where the reader stands. -/
  place : Place
  /-- The characters of the field in progress, in reverse. -/
  field : List Char
  /-- The fields before it, in reverse. -/
  fields : List String

/-- Nothing read yet. -/
def Partial.empty : Partial := ⟨.rowStart, [], []⟩

/-- The row with the field in progress finished. -/
def Partial.close (p : Partial) : Partial :=
  ⟨.fieldStart, [], String.ofList p.field.reverse :: p.fields⟩

/-- The fields of the row when it ends here. A row of which nothing was read has none. -/
def Partial.finish (p : Partial) : List String :=
  if p.place = .rowStart then [] else p.close.fields.reverse

/-- The row after a character that does not end it. -/
def Partial.push (p : Partial) (c : Char) : Partial :=
  match p.place with
  | .rowStart | .fieldStart =>
    if c = '"' then { p with place := .inQuotes }
    else if c = ',' then p.close
    else { p with place := .bare, field := c :: p.field }
  | .bare =>
    if c = ',' then p.close else { p with field := c :: p.field }
  | .inQuotes =>
    if c = '"' then { p with place := .afterQuote } else { p with field := c :: p.field }
  | .afterQuote =>
    if c = '"' then { p with place := .inQuotes, field := c :: p.field }
    else if c = ',' then p.close
    else { p with place := .bare, field := c :: p.field }

/-- The rows of a text, the row in progress given. -/
def rowsFrom (p : Partial) : List Char → List (List String)
  | [] => if p.place = .rowStart then [] else [p.finish]
  | '\r' :: '\n' :: rest =>
    if p.place = .inQuotes then rowsFrom ((p.push '\r').push '\n') rest
    else p.finish :: rowsFrom .empty rest
  | c :: rest =>
    if p.place ≠ .inQuotes ∧ (c = '\n' ∨ c = '\r') then p.finish :: rowsFrom .empty rest
    else rowsFrom (p.push c) rest

/-- The largest number of characters of a field. -/
def maxField : Nat := 131072

/-- Whether a field of a row is too long. -/
def isTooLong (row : List String) : Bool := row.any fun field => decide (maxField < field.length)

/-- The rows of a text. -/
def rows (text : List Char) : List (List String) := rowsFrom .empty text

end Csv

/-- A ledger: its entries, and the names of the currencies. -/
structure Ledger where
  /-- The entries, one for each user. -/
  entries : List Entry
  /-- The currencies, in the order of the balances. -/
  currencies : List String

namespace Ledger

/-- The name of a currency from its header field. -/
def currencyName (field : String) : String :=
  let mark := "balance_".toList
  let cs := field.toList
  String.ofList (if mark.isPrefixOf cs then cs.drop mark.length else cs)

/-- The entry of a row. -/
def entryOfRow : List String → Except Failure Entry
  | [] => .error .pastTheEnd
  | name :: balances => do
    let values ← balances.mapM fun s => (Text.readInteger 10 s).mapError Failure.numeral
    Entry.ofData (.text name) (.array (values.map .integer))

/-- The entries of the rows below a header of `width` fields; `row` numbers the first of them. -/
def entriesFrom (path : String) (width : Nat) : Nat → List (List String) →
    Except Failure (List Entry)
  | _, [] => .ok []
  | row, [] :: rest => entriesFrom path width (row + 1) rest
  | row, fields :: rest =>
    if Csv.isTooLong fields then .error .fieldTooLong
    else if fields.length ≠ width then .error (.rowWidth path row fields.length width)
    else do
      let entry ← (entryOfRow fields).mapError (.badRow path row)
      let entries ← entriesFrom path width (row + 1) rest
      pure (entry :: entries)

/-- The ledger of the rows of a text. -/
def ofRows (path : String) : List (List String) → Except Failure Ledger
  | header :: rest =>
    if Csv.isTooLong header then .error .fieldTooLong
    else if header.length < 2 then .error (.badHeader path)
    else do
      let entries ← entriesFrom path header.length 2 rest
      pure ⟨entries, header.tail.map currencyName⟩
  | [] => .error (.badHeader path)

/-- The ledger that a text writes. -/
def read (path text : String) : Except Failure Ledger :=
  ofRows path (Csv.rows text.toList)

/-- Runs of continuation bytes, of which one completes each character that was cut off. -/
def continuations : List (List UInt8) :=
  [0x80, 0x90, 0xa0].flatMap fun first => (List.range 3).map fun n =>
    first :: List.replicate n 0x80

/-- Bytes without the last one, if that is the second byte of a surrogate. No character starts
with those two bytes, but it takes a third to tell that they are not cut off. -/
def dropHalfSurrogate (bytes : ByteArray) : ByteArray :=
  match bytes.data.toList.reverse with
  | last :: 0xed :: before =>
    if 0xa0 ≤ last ∧ last ≤ 0xbf then ⟨(0xed :: before).reverse.toArray⟩ else bytes
  | _ => bytes

/-- The text that bytes are the beginning of, with one more character, which is the one that they
break off in if they do. -/
def begun? (bytes : ByteArray) : Option String :=
  match String.fromUTF8? bytes with
  | some text => some (text.push ' ')
  | none =>
    continuations.findSome? fun more =>
      String.fromUTF8? (dropHalfSurrogate bytes ++ ⟨more.toArray⟩)

/-- The rows before the one that the last character of a text stands in. A carriage return just
before that character has not ended its row: a line feed might follow. -/
def wholeRows (text : String) : List (List String) :=
  let unbroken := match text.toList.reverse with
    | last :: '\r' :: before => last :: before
    | cs => cs
  (Csv.rows unbroken.reverse).dropLast

/-- The number of bytes of a block. -/
def blockSize : Nat := 8192

/-- The beginning of a text in the first blocks of bytes that are no text: in as many of them as
can be the beginning of one, and in all blocks if the last one breaks off. -/
def legible (bytes : ByteArray) : Option String :=
  let blocks := bytes.size / blockSize + 1
  let beginnings := (List.range (blocks + 1)).map fun n => begun? (bytes.extract 0 (n * blockSize))
  ((beginnings.takeWhile Option.isSome).getLast?).getD none

/-- The ledger that the bytes of a file write. Bytes that are no text are no ledger, but a fault
in the rows of the blocks before is found first. -/
def readBytes (path : String) (bytes : ByteArray) : Except Failure Ledger :=
  match String.fromUTF8? bytes with
  | some text => read path text
  | none =>
    match (legible bytes).map wholeRows with
    | some (row :: rows) => do
      let _ ← ofRows path (row :: rows)
      .error .notUtf8
    | _ => .error .notUtf8

end Ledger

end LiabilityProof
