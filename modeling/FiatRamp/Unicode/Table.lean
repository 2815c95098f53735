/-!
# FiatRamp.Unicode.Table

Tables of code points.

A table is written as lines of hexadecimal numbers with blanks between them.  Its
entries come in ascending order, and each gives the gap in front of it: how many
code points there are between it and the entry before.
-/

namespace FiatRamp.Unicode

/-- The value of a hexadecimal digit in small letters. -/
def hexDigit (c : Char) : Nat := if c.isDigit then c.toNat - 48 else c.toNat - 87

/-- Adds the digits of some numbers to the one read so far. -/
def hexNumbersFrom (n : Nat) : List Char → List Nat
  | [] => [n]
  | c :: cs => if c = ' ' then n :: hexNumbersFrom 0 cs else hexNumbersFrom (16 * n + hexDigit c) cs

/-- The numbers of some lines. -/
def hexNumbers (lines : List String) : List Nat :=
  lines.flatMap fun line => hexNumbersFrom 0 line.toList

/-- Reads ranges, each as a gap and a length. -/
def ranges (next : Nat) : List Nat → List (Nat × Nat)
  | gap :: length :: rest =>
    (next + gap, next + gap + length - 1) :: ranges (next + gap + length) rest
  | _ => []

/-- A number lies in one of some ascending ranges. -/
def isWithin : List (Nat × Nat) → Nat → Bool
  | [], _ => false
  | (low, high) :: rest, n => if n ≤ high then low ≤ n else isWithin rest n

/-- Reads ranges with values, each as a gap, a length and a value. -/
def valuedRanges (next : Nat) : List Nat → List (Nat × Nat × Nat)
  | gap :: length :: value :: rest =>
    (next + gap, next + gap + length - 1, value) :: valuedRanges (next + gap + length) rest
  | _ => []

/-- The value of a number that lies in one of some ascending ranges. -/
def valueWithin? : List (Nat × Nat × Nat) → Nat → Option Nat
  | [], _ => none
  | (low, high, value) :: rest, n =>
    if n ≤ high then if low ≤ n then some value else none else valueWithin? rest n

end FiatRamp.Unicode
