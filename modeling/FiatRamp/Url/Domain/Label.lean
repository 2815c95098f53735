import FiatRamp.Unicode.CombiningClass
import FiatRamp.Unicode.Direction
import FiatRamp.Unicode.Joining
import FiatRamp.Unicode.Mark
import FiatRamp.Unicode.Normalization
import FiatRamp.Url.Domain.Mapping

/-!
# FiatRamp.Url.Domain.Label

Which labels a domain name may have beyond ASCII.

A label holds kept characters only, in composed form, and does not start with a
mark (`Label.isValid`).  Joiners stand only where they change how a word looks.
In a name in which anything is written from right to left, every label keeps to
one direction (`Label.keepsDirection`).
-/

namespace FiatRamp.Label

open Unicode

/-- The mark in front of a label that stands for one beyond ASCII. -/
def mark : List Char := ['x', 'n', '-', '-']

/-! ## Joiners -/

/-- It keeps letters from joining. -/
def nonJoiner : Char := '\u200C'

/-- It makes letters join. -/
def joiner : Char := '\u200D'

/-- The letters next to a place, on one side of it, join across it: behind
transparent characters comes one that joins in that direction. -/
def joinsAcross (direction : Joining) (cs : List Char) : Bool :=
  match (cs.dropWhile (joining · == .transparent)).head? with
  | some c => joining c == direction || joining c == .both
  | none => false

/-- The joiners among the characters of a label are where they may be; `before`
holds the characters before them, the last one first. -/
def joinersFit (before : List Char) : List Char → Bool
  | [] => true
  | c :: rest =>
    let afterVirama := before.head?.any (combiningClass · == viramaClass)
    (if c = nonJoiner then
      afterVirama || (joinsAcross .left before && joinsAcross .right rest)
    else c != joiner || afterVirama) && joinersFit (c :: before) rest

/-! ## Directions -/

/-- A character that is written from right to left. -/
def isRightToLeft (c : Char) : Bool :=
  direction c == .rightToLeft || direction c == .arabicNumber

/-- The last character that is no mark. -/
def lastBase? (label : List Char) : Option Char :=
  (label.reverse.dropWhile (direction · == .mark)).head?

/-- A label that is written from right to left throughout. -/
def keepsRight (label : List Char) : Bool :=
  label.all (direction · != .leftToRight) &&
  (lastBase? label).any (fun c => isRightToLeft c || direction c == .number) &&
  !(label.any (direction · == .number) && label.any (direction · == .arabicNumber))

/-- A label that is written from left to right throughout. -/
def keepsLeft (label : List Char) : Bool :=
  label.all (!isRightToLeft ·) &&
  (lastBase? label).any fun c => direction c == .leftToRight || direction c == .number

/-- A label that keeps to the direction of its first character. -/
def keepsDirection : List Char → Bool
  | [] => true
  | c :: rest =>
    match direction c with
    | .rightToLeft => keepsRight (c :: rest)
    | .leftToRight => keepsLeft (c :: rest)
    | _ => false

/-! ## Labels -/

/-- The most characters a label beyond ASCII may have. -/
def maxLength : Nat := 1000

/-- A label beyond ASCII that a name may have. -/
def isValid (label : List Char) : Bool :=
  label.any (0x80 ≤ ·.toNat) && label.length ≤ maxLength &&
  label.all (fun c => Domain.mapChar c == some [c]) && normalize label == label &&
  !mark.isPrefixOf label && !label.head?.any isMark && joinersFit [] label

end FiatRamp.Label
