/-!
# Names in ASCII

A part of a host's name that has characters beyond ASCII is sent as its ASCII characters followed
by numbers that say which other characters stand where. The characters are put in in the order of
their code points, those of one code point from left to right. Each number counts on from the place
of the last: all the pairs of a code point and a place that lie between.

A number is written in digits of base 36 whose last digit is told by its size: below a threshold
that depends on the place of the digit and on how large the numbers have been (`bias`).
-/

namespace LiabilityProof

namespace Punycode

/-- The digit of a value below 36: letters first. -/
def digit (d : Nat) : Char := if d < 26 then Char.ofNat (97 + d) else Char.ofNat (22 + d)

/-- The threshold of the digit at a place, counted in steps of 36. -/
def threshold (place bias : Nat) : Nat := max 1 (min 26 (place - bias))

theorem threshold_pos (place bias : Nat) : 1 ≤ threshold place bias := Nat.le_max_left ..

/-- The digits of a number from a place on. -/
def digits (bias place n : Nat) : List Char :=
  let t := threshold place bias
  if n < t then [digit n]
  else digit (t + (n - t) % (36 - t)) :: digits bias (place + 36) ((n - t) / (36 - t))
termination_by n
decreasing_by
  have := threshold_pos place bias
  have : (n - threshold place bias) / (36 - threshold place bias) ≤ n - threshold place bias :=
    Nat.div_le_self _ _
  omega

/-- What is left of a number after divisions by 35, and 36 for each of them. -/
def scaled (n : Nat) (steps : Nat) : Nat × Nat :=
  if 455 < n then scaled (n / 35) (steps + 36) else (n, steps)
termination_by n

/-- The bias after a number, the first or a later one, when `count` characters stand. -/
def nextBias (isFirst : Bool) (n count : Nat) : Nat :=
  let n := if isFirst then n / 700 else n / 2
  let (n, steps) := scaled (n + n / count) 0
  steps + 36 * n / (n + 38)

/-- The writing of the numbers. -/
structure Writing where
  /-- The digits so far, last one first. -/
  output : List Char
  /-- The number so far. -/
  number : Nat
  /-- The bias. -/
  bias : Nat
  /-- How many characters stand. -/
  count : Nat

/-- The writing past a character of the text, in the round of a code point. -/
def pass (ascii code : Nat) (w : Writing) (c : Char) : Writing :=
  if c.toNat < code then { w with number := w.number + 1 }
  else if c.toNat = code then
    { output := (digits w.bias 36 w.number).reverse ++ w.output
      number := 0
      bias := nextBias (w.count = ascii) w.number (w.count + 1)
      count := w.count + 1 }
  else w

/-- The writing of the rounds of code points, the first of which comes after `last`. -/
def rounds (cs : List Char) (ascii : Nat) : Nat → List Nat → Writing → Writing
  | _, [], w => w
  | last, code :: codes, w =>
    let w := { w with number := w.number + (code - last) * (w.count + 1) }
    let w := cs.foldl (pass ascii code) w
    rounds cs ascii (code + 1) codes { w with number := w.number + 1 }

/-- Numbers in ascending order, each once, with one more. -/
def insertOnce (n : Nat) : List Nat → List Nat
  | [] => [n]
  | m :: rest =>
    if n < m then n :: m :: rest
    else if n = m then m :: rest
    else m :: insertOnce n rest

/-- The written form of a text. -/
def encode (cs : List Char) : List Char :=
  let ascii := cs.filter fun c => decide (c.toNat < 128)
  let others := cs.filter fun c => decide (128 ≤ c.toNat)
  let codes := others.foldr (fun c ns => insertOnce c.toNat ns) []
  let w := rounds cs ascii.length 128 codes ⟨[], 0, 72, ascii.length⟩
  (if ascii.isEmpty then [] else ascii ++ ['-']) ++ w.output.reverse

end Punycode

end LiabilityProof
