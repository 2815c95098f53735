/-!
# FiatRamp.Url.Punycode

Punycode: a label of a domain name in ASCII.

The ASCII characters of a label come first.  The others follow in the order of
their code points, each as the number of steps from the one before, where a
step goes to the next position or, behind the last one, to the next code point.
The numbers have digits in base 36, least first, and end where a digit is below
its threshold; thresholds adapt to the size of the numbers.
-/

namespace FiatRamp.Punycode

/-- Numbers above 32 bits are refused. -/
def bound : Nat := Nat.pow 2 32

/-- The first code point that is not ASCII. -/
def firstCodePoint : Nat := 0x80

/-- The bias before the first number. -/
def initialBias : Nat := 72

/-- A digit: `a` to `z`, then `0` to `9`. -/
def digit (d : Nat) : Char := if d < 26 then Char.ofNat (97 + d) else Char.ofNat (22 + d)

/-- The value of a digit of either case. -/
def digitValue? (c : Char) : Option Nat :=
  if 'a' ≤ c ∧ c ≤ 'z' then some (c.toNat - 97)
  else if 'A' ≤ c ∧ c ≤ 'Z' then some (c.toNat - 65)
  else if '0' ≤ c ∧ c ≤ '9' then some (c.toNat - 22)
  else none

/-- The threshold of the digit at position `k`, counted in steps of 36. -/
def threshold (k bias : Nat) : Nat :=
  if k ≤ bias then 1 else if bias + 26 ≤ k then 26 else k - bias

/-- How often a number can be divided by 35 before it is small, and what is
left; each division counts 36. -/
def adaptLoop (delta k : Nat) : Nat × Nat :=
  if 455 < delta then adaptLoop (delta / 35) (k + 36) else (delta, k)
termination_by delta
decreasing_by omega

/-- The bias after a number. -/
def adapt (delta count : Nat) (isFirst : Bool) : Nat :=
  let delta := if isFirst then delta / 700 else delta / 2
  let (delta, k) := adaptLoop (delta + delta / count) 0
  k + 36 * delta / (delta + 38)

/-! ## Encoding -/

/-- The digits of a number; `fuel` bounds how many there are. -/
def encodeNumber (bias k n : Nat) : (fuel : Nat) → List Char
  | 0 => []
  | fuel + 1 =>
    let t := threshold k bias
    if n < t then [digit n]
    else digit (t + (n - t) % (36 - t)) :: encodeNumber bias (k + 36) ((n - t) / (36 - t)) fuel

/-- What is known while the characters of one code point are written. -/
structure State where
  /-- The digits so far. -/
  written : List Char
  /-- The steps since the last character that was written. -/
  delta : Nat
  bias : Nat
  /-- How many characters are written. -/
  handled : Nat

/-- Passes over a character while those of the code point `m` are written. -/
def visit (basic m : Nat) (s : State) (c : Char) : State :=
  if c.toNat < m then { s with delta := s.delta + 1 }
  else if c.toNat = m then
    { written := s.written ++ encodeNumber s.bias 36 s.delta (s.delta + 1)
      delta := 0
      bias := adapt s.delta (s.handled + 1) (s.handled = basic)
      handled := s.handled + 1 }
  else s

/-- Writes the characters of every code point in a sorted list; `n` is the first
code point not yet passed. -/
def encodeRest (label : List Char) (basic : Nat) : (points : List Nat) → (n : Nat) → State → State
  | [], _, s => s
  | m :: points, n, s =>
    let s := label.foldl (visit basic m) { s with delta := s.delta + (m - n) * (s.handled + 1) }
    encodeRest label basic points (m + 1) { s with delta := s.delta + 1 }

/-- A label in ASCII. -/
def encode (label : List Char) : List Char :=
  let basic := label.filter (·.toNat < firstCodePoint)
  let points := ((label.map Char.toNat).filter (firstCodePoint ≤ ·)).eraseDups.mergeSort
  let s := encodeRest label basic.length points firstCodePoint ⟨[], 0, initialBias, basic.length⟩
  (if basic.isEmpty then [] else basic ++ ['-']) ++ s.written

/-! ## Decoding -/

/-- Reads a number and gives what follows it. -/
def decodeNumber? (bias k weight n : Nat) : List Char → Option (Nat × List Char)
  | [] => none
  | c :: rest => do
    let d ← digitValue? c
    let n := n + d * weight
    if bound ≤ n then none
    else
      let t := threshold k bias
      if d < t then some (n, rest)
      else if bound ≤ weight * (36 - t) then none
      else decodeNumber? bias (k + 36) (weight * (36 - t)) n rest

/-- A code point that is a character. -/
def charOf? (n : Nat) : Option Char :=
  if h : n.isValidChar then some (Char.ofNatAux n h) else none

/-- Puts the characters that the digits stand for into a label.  `point` is the
code point and `i` the position that is next; `fuel` bounds the numbers. -/
def decodeRest? (point i bias : Nat) (label : List Char) :
    (fuel : Nat) → List Char → Option (List Char)
  | _, [] => some label
  | 0, _ => none
  | fuel + 1, cs => do
    let (n, rest) ← decodeNumber? bias 36 1 i cs
    let count := label.length + 1
    let point := point + n / count
    if bound ≤ point then none
    else
      let c ← charOf? point
      let place := n % count
      decodeRest? point (place + 1) (adapt (n - i) count (i = 0))
        (label.take place ++ c :: label.drop place) fuel rest

/-- Splits a text at its last hyphen; without one, everything comes after it. -/
def splitAtLastHyphen (cs : List Char) : List Char × List Char :=
  let after := (cs.reverse.takeWhile (· ≠ '-')).reverse
  let before := (cs.reverse.dropWhile (· ≠ '-')).reverse
  (before.dropLast, after)

/-- The label that a text in ASCII stands for. -/
def decode? (cs : List Char) : Option (List Char) :=
  let (basic, rest) := splitAtLastHyphen cs
  if basic.all (·.toNat < firstCodePoint) then
    decodeRest? firstCodePoint 0 initialBias basic rest.length rest
  else none

end FiatRamp.Punycode
