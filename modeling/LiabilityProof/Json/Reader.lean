import LiabilityProof.Datum.Obstacle
import LiabilityProof.Json.Fault

/-!
# Reading documents

A reader of JSON documents by recursive descent. It also accepts `NaN`, `Infinity` and
`-Infinity`, keeps the last of several values under one name in the place of the first, and
tells integers from floating-point numbers by the presence of a fraction or an exponent.

Every function takes the characters that are left and returns those it leaves; a problem is
reported with the number of characters left where it was noticed, from which `read` computes
its place. The recursion is bounded by `fuel`; `read` supplies twice the length of the document
and two more, and every two steps consume a character.

`Limits` bound what a document may ask for: the digits of an integer, and how deep arrays and
objects stand inside each other.
-/

namespace LiabilityProof

namespace Json

/-- What a document may ask for. -/
structure Limits where
  /-- The largest number of digits of an integer. -/
  digits : Option Nat
  /-- The largest number of arrays and objects inside each other. -/
  depth : Option Nat

/-- No bounds. -/
def Limits.unbounded : Limits := ⟨none, none⟩

/-- The bounds for documents from outside. -/
def Limits.standard : Limits := ⟨some Text.maxDigits, some Datum.maxDepth⟩

/-- A problem, with the number of characters left at its place, or a limit that was passed. -/
inductive Stop where
  | problem (p : Problem) (left : Nat)
  | tooManyDigits (count : Nat)
  | tooDeep

/-- Whether a character may stand between the parts of a document. -/
def isSpace (c : Char) : Bool := c = ' ' || c = '\t' || c = '\n' || c = '\r'

/-- The characters after any leading spaces. -/
def skip (cs : List Char) : List Char := cs.dropWhile isSpace

/-! ### Numbers -/

/-- The fraction behind an integer part: its digits, and what follows. -/
def splitFraction : List Char → Option (List Char × List Char)
  | '.' :: c :: rest =>
    if Text.isAsciiDigit c then
      some ((c :: rest).takeWhile Text.isAsciiDigit, (c :: rest).dropWhile Text.isAsciiDigit)
    else none
  | _ => none

/-- The exponent behind a number: its value, and what follows. -/
def splitExponent : List Char → Option (Int × List Char)
  | e :: rest =>
    if e = 'e' ∨ e = 'E' then
      let (negative, digits) := match rest with
        | '-' :: r => (true, r)
        | '+' :: r => (false, r)
        | r => (false, r)
      let run := digits.takeWhile Text.isAsciiDigit
      if run.isEmpty then none
      else
        let n : Int := Text.ofDigits 10 (run.filterMap (Text.digitValue? 10))
        some (if negative then -n else n, digits.dropWhile Text.isAsciiDigit)
    else none
  | [] => none

/-- The integer part of a number: one zero, or digits that do not start with one. -/
def splitInteger : List Char → Option (List Char × List Char)
  | '0' :: rest => some (['0'], rest)
  | cs =>
    let run := cs.takeWhile Text.isAsciiDigit
    if run.isEmpty then none else some (run, cs.dropWhile Text.isAsciiDigit)

/-- A number; `none` if there is none. Integers with too many digits are refused. -/
def number (limits : Limits) (cs : List Char) :
    Option (Except Stop (Datum × List Char)) :=
  let (negative, unsigned) := match cs with
    | '-' :: rest => (true, rest)
    | _ => (false, cs)
  match splitInteger unsigned with
  | none => none
  | some (whole, rest) =>
    let (fraction, rest', isInteger) := match splitFraction rest with
      | some (digits, r) => (digits, r, false)
      | none => ([], rest, true)
    let (exponent, rest'', isInteger) := match splitExponent rest' with
      | some (e, r) => (e, r, false)
      | none => (0, rest', isInteger)
    let n := Text.ofDigits 10 ((whole ++ fraction).filterMap (Text.digitValue? 10))
    if isInteger then
      if limits.digits.any (· < whole.length) then some (.error (.tooManyDigits whole.length))
      else some (.ok (.integer (if negative then -(n : Int) else n), rest''))
    else
      some (.ok (.double (Double.ofDecimal negative n (exponent - fraction.length)), rest''))

/-! ### Texts -/

/-- One step inside a text: its end, or a character. -/
inductive TextStep where
  | close (rest : List Char)
  | next (c : Char) (rest : List Char)

/-- The value of four hexadecimal digits. -/
def fourDigits (a b c d : Char) : Option Nat :=
  ([a, b, c, d].mapM (Text.digitValue? 16)).map (Text.ofDigits 16)

/-- The character behind the mark `\u`, of which `cs` starts at the letter. Two escapes that
write the halves of a pair make one character. -/
def unicodeEscape : List Char → Except Stop TextStep
  | u :: a :: b :: c :: d :: e :: rest =>
    match fourDigits a b c d with
    | none => .error (.problem .badUnicodeEscape (u :: a :: b :: c :: d :: e :: rest).length)
    | some n =>
      if 0xD800 ≤ n ∧ n < 0xDC00 then
        match e :: rest with
        | '\\' :: 'u' :: a' :: b' :: c' :: d' :: e' :: rest' =>
          match fourDigits a' b' c' d' with
          | none => .error (.problem .badUnicodeEscape (rest'.length + 6))
          | some n' =>
            if 0xDC00 ≤ n' ∧ n' < 0xE000 then
              .ok (.next (Char.ofNat (0x10000 + (n - 0xD800) * 0x400 + (n' - 0xDC00)))
                (e' :: rest'))
            else .ok (.next (Char.ofNat n) (e :: rest))
        | _ => .ok (.next (Char.ofNat n) (e :: rest))
      else .ok (.next (Char.ofNat n) (e :: rest))
  | cs => .error (.problem .badUnicodeEscape cs.length)

/-- One step inside a text whose opening quote had `opening` characters from it on. -/
def textStep (opening : Nat) : List Char → Except Stop TextStep
  | [] => .error (.problem .unterminatedText opening)
  | '"' :: rest => .ok (.close rest)
  | '\\' :: [] => .error (.problem .unterminatedText opening)
  | '\\' :: 'u' :: rest => unicodeEscape ('u' :: rest)
  | '\\' :: c :: rest =>
    match c with
    | '"' => .ok (.next '"' rest)
    | '\\' => .ok (.next '\\' rest)
    | '/' => .ok (.next '/' rest)
    | 'b' => .ok (.next '\x08' rest)
    | 'f' => .ok (.next '\x0c' rest)
    | 'n' => .ok (.next '\n' rest)
    | 'r' => .ok (.next '\r' rest)
    | 't' => .ok (.next '\t' rest)
    | _ => .error (.problem .badEscape (rest.length + 2))
  | c :: rest =>
    if c.toNat < 0x20 then .error (.problem .controlCharacter (rest.length + 1))
    else .ok (.next c rest)

/-- The rest of a text, its characters so far given in reverse. -/
def textBody (opening : Nat) : Nat → List Char → List Char → Except Stop (String × List Char)
  | 0, _, _ => .error (.problem .unterminatedText opening)
  | fuel + 1, acc, cs =>
    match textStep opening cs with
    | .error stop => .error stop
    | .ok (.close rest) => .ok (String.ofList acc.reverse, rest)
    | .ok (.next c rest) => textBody opening fuel (c :: acc) rest

/-- A text, of which `cs` starts behind the opening quote. -/
def textAfterQuote (cs : List Char) : Except Stop (String × List Char) :=
  textBody (cs.length + 1) (cs.length + 1) [] cs

/-! ### Values -/

/-- The values that are words. -/
def word : List Char → Option (Datum × List Char)
  | 'n' :: 'u' :: 'l' :: 'l' :: rest => some (.null, rest)
  | 't' :: 'r' :: 'u' :: 'e' :: rest => some (.bool true, rest)
  | 'f' :: 'a' :: 'l' :: 's' :: 'e' :: rest => some (.bool false, rest)
  | 'N' :: 'a' :: 'N' :: rest => some (.double .nan, rest)
  | 'I' :: 'n' :: 'f' :: 'i' :: 'n' :: 'i' :: 't' :: 'y' :: rest =>
    some (.double (.infinite false), rest)
  | '-' :: 'I' :: 'n' :: 'f' :: 'i' :: 'n' :: 'i' :: 't' :: 'y' :: rest =>
    some (.double (.infinite true), rest)
  | _ => none

mutual

/-- A value inside `depth` others. -/
def value (limits : Limits) : Nat → Nat → List Char → Except Stop (Datum × List Char)
  | 0, _, cs => .error (.problem .expectingValue cs.length)
  | fuel + 1, depth, cs =>
    match cs with
    | '"' :: rest => (textAfterQuote rest).map fun (s, rest') => (.text s, rest')
    | '[' :: rest =>
      if limits.depth.any (· ≤ depth) then .error .tooDeep
      else
        match skip rest with
        | ']' :: rest' => .ok (.array [], rest')
        | rest' => elements limits fuel (depth + 1) [] rest'
    | '\x7b' :: rest =>
      if limits.depth.any (· ≤ depth) then .error .tooDeep
      else
        match skip rest with
        | '\x7d' :: rest' => .ok (.object [], rest')
        | rest' => members limits fuel (depth + 1) [] rest'
    | _ =>
      match word cs with
      | some found => .ok found
      | none => (number limits cs).getD (.error (.problem .expectingValue cs.length))

/-- The elements of an array up to its end, those so far given in reverse. -/
def elements (limits : Limits) :
    Nat → Nat → List Datum → List Char → Except Stop (Datum × List Char)
  | 0, _, _, cs => .error (.problem .expectingValue cs.length)
  | fuel + 1, depth, acc, cs =>
    match value limits fuel depth cs with
    | .error stop => .error stop
    | .ok (d, rest) =>
      match skip rest with
      | ']' :: rest' => .ok (.array (d :: acc).reverse, rest')
      | ',' :: rest' => elements limits fuel depth (d :: acc) (skip rest')
      | rest' => .error (.problem .expectingComma rest'.length)

/-- The members of an object up to its end, after those so far. -/
def members (limits : Limits) :
    Nat → Nat → List (String × Datum) → List Char → Except Stop (Datum × List Char)
  | 0, _, _, cs => .error (.problem .expectingName cs.length)
  | fuel + 1, depth, acc, cs =>
    match cs with
    | '"' :: rest =>
      match textAfterQuote rest with
      | .error stop => .error stop
      | .ok (name, rest') =>
        match skip rest' with
        | ':' :: rest'' =>
          match value limits fuel depth (skip rest'') with
          | .error stop => .error stop
          | .ok (d, left) =>
            match skip left with
            | '\x7d' :: left' => .ok (.object (Table.insert name d acc), left')
            | ',' :: left' => members limits fuel depth (Table.insert name d acc) (skip left')
            | left' => .error (.problem .expectingComma left'.length)
        | rest'' => .error (.problem .expectingColon rest''.length)
    | _ => .error (.problem .expectingName cs.length)

end

/-- The fault of a document that was stopped. -/
def Stop.fault (document : List Char) : Stop → Fault
  | problem p left => .malformed (SyntaxFault.at document p (document.length - left))
  | tooManyDigits count => .tooManyDigits count
  | tooDeep => .tooDeep

/-- The value of a document. -/
def read (limits : Limits) (document : List Char) : Except Fault Datum :=
  if document.head? = some '\ufeff' then
    .error (.malformed (SyntaxFault.at document .byteOrderMark 0))
  else
    match value limits (2 * document.length + 2) 0 (skip document) with
    | .error stop => .error (stop.fault document)
    | .ok (d, rest) =>
      match skip rest with
      | [] => .ok d
      | left => .error ((Stop.problem .extraData left.length).fault document)

end Json

end LiabilityProof
