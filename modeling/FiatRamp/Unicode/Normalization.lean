import FiatRamp.Unicode.CombiningClass
import FiatRamp.Unicode.Composition

/-!
# FiatRamp.Unicode.Normalization

Normalization Form C: of all ways to write a text with letters and marks, the
one that is composed as far as possible.

A text is taken apart (`decompose`), the marks behind each letter are put in
order (`reorder`), and what can be composed is composed (`compose`).
-/

namespace FiatRamp.Unicode

/-! ## Taking apart -/

/-- The parts of a code point whose composition goes at most `depth` levels
down. -/
def partsWithin (depth n : Nat) : List Nat :=
  match depth, parts? n with
  | depth + 1, some (first, second) => partsWithin depth first ++ [second]
  | _, _ => [n]

/-- How many marks a character may have in it, and more. -/
def compositionDepth : Nat := 8

/-- A text without composed characters. -/
def decompose (cs : List Char) : List Char :=
  cs.flatMap fun c => (partsWithin compositionDepth c.toNat).map Char.ofNat

/-! ## Putting in order -/

/-- Puts a mark behind those of a lower class. -/
def insertMark (c : Char) : List Char → List Char
  | [] => [c]
  | d :: rest =>
    if 0 < combiningClass d ∧ combiningClass d < combiningClass c then d :: insertMark c rest
    else c :: d :: rest

/-- Puts the marks behind each letter in the order of their classes. -/
def reorder (cs : List Char) : List Char := cs.foldr insertMark []

/-! ## Composing -/

/-- Composes the rest of a text.  `letter` is the letter before it and `marks`
are those behind that letter that were not composed with it, the last one first.
A mark meets the letter unless one of its own or a higher class stands between. -/
def composeFrom (letter : Char) (marks : List Char) : List Char → List Char
  | [] => letter :: marks.reverse
  | c :: rest =>
    let meets := match marks with
      | [] => true
      | d :: _ => combiningClass d < combiningClass c
    match if meets then whole? letter.toNat c.toNat else none with
    | some whole => composeFrom (Char.ofNat whole) marks rest
    | none =>
      if combiningClass c = 0 then letter :: marks.reverse ++ composeFrom c [] rest
      else composeFrom letter (c :: marks) rest

/-- Composes a text.  Marks before the first letter stay as they are. -/
def compose : List Char → List Char
  | [] => []
  | c :: rest => if combiningClass c = 0 then composeFrom c [] rest else c :: compose rest

/-- A text in Normalization Form C. -/
def normalize (cs : List Char) : List Char := compose (reorder (decompose cs))

end FiatRamp.Unicode
