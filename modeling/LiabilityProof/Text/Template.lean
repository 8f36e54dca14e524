import LiabilityProof.Number.Places
import LiabilityProof.Text.Hex

/-!
# Templates

A template is a text with a place for a number, which starts with a percent sign and ends with a
letter that says how the number is written there: in base ten (`d`, `i`, `u`, and `s`, `r`, `a` as
a text), eight (`o`) or sixteen (`x`), with decimals (`e`, `f`, `g`), or as the character of that
code (`c`). In between stand flags, the least width, and behind a point a precision. Two percent
signs in a row stand for one.

`Template.fill` reads a template character by character and gives the filled text, or the first
thing that is wrong. A number fills one place, and only one: a template with none or with two does
not fit.
-/

namespace LiabilityProof

/-- What is wrong with a template, or with the number for it. -/
inductive TemplateFault where
  /-- The text ends inside a place. -/
  | incomplete
  /-- No number is written as the letter says. -/
  | unknownLetter (letter : Char) (position : Nat)
  /-- The width is too large. -/
  | widthTooLarge
  /-- The precision is too large. -/
  | precisionTooLarge
  /-- There is not one place for the number. -/
  | mismatch
  /-- The number is too large for its place. -/
  | numberTooLarge
  /-- The filled text is too long to be held. -/
  | tooMuch
deriving DecidableEq

/-- The words for a fault; there are none for a number that does not fit. -/
def TemplateFault.message : TemplateFault → String
  | incomplete => "incomplete format"
  | unknownLetter letter position =>
    let shown := if 31 ≤ letter.toNat ∧ letter.toNat ≤ 126 then letter else '?'
    "unsupported format character '" ++ String.singleton shown ++ "' (" ++
      Text.hexNumeral letter.toNat ++ ") at index " ++ Text.ofNat position
  | widthTooLarge => "width too big"
  | precisionTooLarge => "precision too big"
  | mismatch | numberTooLarge | tooMuch => ""

namespace Template

/-- A place for a number, as far as it is read. -/
structure Place where
  /-- The number stands at the left end of the width. -/
  isLeft : Bool := false
  /-- A plus stands before the number. -/
  hasPlus : Bool := false
  /-- A blank stands before the number. -/
  hasBlank : Bool := false
  /-- The mark of the base, or a point that could be left out, is written. -/
  isMarked : Bool := false
  /-- The width is filled with zeros. -/
  hasZeros : Bool := false
  /-- The least width. -/
  width : Nat := 0
  /-- The precision. -/
  precision : Option Nat := none

/-- What the next character of a template can be. -/
inductive Stage where
  | outside
  | opened
  | flags
  | width
  | widthTaken
  | precision
  | precisionDigits
  | precisionTaken
  | letter

/-- A template that is being filled. -/
structure Filling where
  /-- The text so far, last character first. -/
  output : List Char
  /-- What was written is too long to be kept. -/
  isVast : Bool
  /-- The number has been written, or taken for a width. -/
  isUsed : Bool
  /-- How many characters have been read. -/
  position : Nat
  /-- The place that is being read. -/
  place : Place
  /-- What comes next. -/
  stage : Stage

/-- The largest width that can be asked for. -/
def maxWidth : Nat := Nat.pow 2 63 - 1

/-- The largest precision that can be asked for. -/
def maxPrecision : Nat := Nat.pow 2 31 - 1

/-- The width from which on a text cannot be held. -/
def memory : Nat := Nat.pow 2 35

/-- The length from which on a filled text is not kept. -/
def vastness : Nat := Nat.pow 2 20

/-- A decimal number with one more digit, if it does not exceed the largest. -/
def appendDigit? (largest n : Nat) (c : Char) : Option Nat :=
  let d := c.toNat - 48
  if (largest - d) / 10 < n then none else some (n * 10 + d)

/-! ### Numbers in places -/

/-- What stands before the digits of a number. -/
def sign (p : Place) : List Char :=
  if p.hasPlus then ['+'] else if p.hasBlank then [' '] else []

/-- A text within the width. -/
def padded (p : Place) (body : List Char) : List Char :=
  let blanks := List.replicate (p.width - body.length) ' '
  if p.isLeft then body ++ blanks else blanks ++ body

/-- A number within the width, zeros between what stands before the digits and the digits. -/
def zeroPadded (p : Place) (before digits : List Char) : List Char :=
  if p.hasZeros && !p.isLeft then
    before ++ List.replicate (p.width - before.length - digits.length) '0' ++ digits
  else padded p (before ++ digits)

/-- The digits of a number in base ten, eight or sixteen, as many as the precision at least. -/
def whole (p : Place) (mark : List Char) (digits : List Char) : List Char :=
  let digits := List.replicate (p.precision.getD 0 - digits.length) '0' ++ digits
  zeroPadded p (sign p ++ (if p.isMarked then mark else [])) digits

/-- How a letter writes a number with decimals. -/
def withDecimals (p : Place) (letter : Char) (n : Nat) : List Char :=
  let decimals := p.precision.getD 6
  zeroPadded p (sign p) <|
    if letter = 'f' ∨ letter = 'F' then Places.fixed p.isMarked decimals n
    else if letter = 'e' ∨ letter = 'E' then Places.scientific p.isMarked letter decimals n
    else Places.general p.isMarked (if letter = 'g' then 'e' else 'E') decimals n

/-- The kinds of letters. -/
inductive Kind where
  | text
  | whole
  | decimals
  | character
deriving DecidableEq

/-- The kind of a letter. -/
def kind? (letter : Char) : Option Kind :=
  if "sra".toList.contains letter then some .text
  else if "diuoxX".toList.contains letter then some .whole
  else if "eEfFgG".toList.contains letter then some .decimals
  else if letter = 'c' then some .character
  else none

/-- How a letter of a kind writes a number in a place. -/
def written (p : Place) (letter : Char) (n : Nat) : Kind → Except TemplateFault (List Char)
  | .text =>
    let digits := Text.decimal n
    .ok (padded p (digits.take (p.precision.getD digits.length)))
  | .whole =>
    if maxPrecision - 3 < p.precision.getD 0 then .error .numberTooLarge
    else if letter = 'o' then .ok (whole p "0o".toList (Nat.toDigits 8 n))
    else if letter = 'x' then .ok (whole p "0x".toList (Nat.toDigits 16 n))
    else if letter = 'X' then .ok (whole p "0X".toList ((Nat.toDigits 16 n).map Char.toUpper))
    else .ok (whole p [] (Text.decimal n))
  | .decimals =>
    match Places.rounded n with
    | some n => .ok (withDecimals p letter n)
    | none => .error .numberTooLarge
  | .character =>
    if n < 0x110000 then .ok (padded p [Char.ofNat n]) else .error .numberTooLarge

/-- Whether what is written in a place is too long to be kept. -/
def isVast (p : Place) (kind : Kind) : Bool :=
  decide (vastness < p.width) ||
    ((kind = .whole || kind = .decimals) && decide (vastness < p.precision.getD 0))

/-! ### Reading -/

/-- The filling with a character of the text outside. -/
def emit (f : Filling) (c : Char) : Filling :=
  { f with output := c :: f.output, stage := .outside }

/-- The filling after the letter of a place. -/
def atLetter (n : Nat) (f : Filling) (c : Char) : Except TemplateFault Filling :=
  if f.isUsed then .error .mismatch
  else
    match kind? c with
    | none => .error (.unknownLetter c f.position)
    | some kind =>
      if memory ≤ f.place.width then .error .tooMuch
      else if isVast f.place kind then
        .ok { f with isUsed := true, isVast := true, stage := .outside }
      else
        (written f.place c n kind).map fun text =>
          { f with output := text.reverse ++ f.output, isUsed := true, stage := .outside }

/-- The filling after a character where a letter that says nothing may stand before the letter. -/
def atSize (n : Nat) (f : Filling) (c : Char) : Except TemplateFault Filling :=
  if c = 'h' ∨ c = 'l' ∨ c = 'L' then .ok { f with stage := .letter } else atLetter n f c

/-- The filling after a character where a point may stand. -/
def atPoint (n : Nat) (f : Filling) (c : Char) : Except TemplateFault Filling :=
  if c = '.' then
    .ok { f with place := { f.place with precision := some 0 }, stage := .precision }
  else atSize n f c

/-- The number taken for a width or a precision, which does not exceed the largest. -/
def taken (largest n : Nat) (f : Filling) : Except TemplateFault Filling :=
  if f.isUsed then .error .mismatch
  else if largest < n then .error .numberTooLarge
  else .ok { f with isUsed := true }

/-- The filling after a character where a width may start. -/
def atWidth (n : Nat) (f : Filling) (c : Char) : Except TemplateFault Filling :=
  if c = '*' then
    (taken maxWidth n f).map fun f =>
      { f with place := { f.place with width := n }, stage := .widthTaken }
  else if Text.isAsciiDigit c then
    .ok { f with place := { f.place with width := c.toNat - 48 }, stage := .width }
  else atPoint n f c

/-- The filling after a character where a flag may stand. -/
def atFlag (n : Nat) (f : Filling) (c : Char) : Except TemplateFault Filling :=
  let p := f.place
  if c = '-' then .ok { f with place := { p with isLeft := true }, stage := .flags }
  else if c = '+' then .ok { f with place := { p with hasPlus := true }, stage := .flags }
  else if c = ' ' then .ok { f with place := { p with hasBlank := true }, stage := .flags }
  else if c = '#' then .ok { f with place := { p with isMarked := true }, stage := .flags }
  else if c = '0' then .ok { f with place := { p with hasZeros := true }, stage := .flags }
  else atWidth n f c

/-- The filling after a character where a precision may start. -/
def atPrecision (n : Nat) (f : Filling) (c : Char) : Except TemplateFault Filling :=
  if c = '*' then
    (taken maxPrecision n f).map fun f =>
      { f with place := { f.place with precision := some n }, stage := .precisionTaken }
  else if Text.isAsciiDigit c then
    .ok { f with
      place := { f.place with precision := some (c.toNat - 48) }, stage := .precisionDigits }
  else atSize n f c

/-- The filling after one more character of the template. -/
def step (n : Nat) (f : Filling) (c : Char) : Except TemplateFault Filling :=
  let next : Except TemplateFault Filling :=
    match f.stage with
    | .outside =>
      .ok (if c = '%' then { f with place := {}, stage := .opened } else emit f c)
    | .opened =>
      if c = '%' then .ok (emit f c)
      else if c = '(' then .error .mismatch
      else atFlag n f c
    | .flags => atFlag n f c
    | .width =>
      if Text.isAsciiDigit c then
        match appendDigit? maxWidth f.place.width c with
        | some width => .ok { f with place := { f.place with width } }
        | none => .error .widthTooLarge
      else atPoint n f c
    | .widthTaken => atPoint n f c
    | .precision => atPrecision n f c
    | .precisionDigits =>
      if Text.isAsciiDigit c then
        match appendDigit? maxPrecision (f.place.precision.getD 0) c with
        | some precision => .ok { f with place := { f.place with precision := some precision } }
        | none => .error .precisionTooLarge
      else atSize n f c
    | .precisionTaken => atSize n f c
    | .letter => atLetter n f c
  next.map fun f => { f with position := f.position + 1 }

/-- The template with a number in its place; `none` if the text is too long to be kept. -/
def fill (n : Nat) (template : List Char) : Except TemplateFault (Option (List Char)) := do
  let f ← template.foldlM (step n) ⟨[], false, false, 0, {}, .outside⟩
  match f.stage with
  | .outside =>
    if f.isUsed then pure (if f.isVast then none else some f.output.reverse)
    else .error .mismatch
  | _ => .error .incomplete

end Template

end LiabilityProof
