import FiatRamp.Unicode.Table

/-!
# FiatRamp.Unicode.Direction

The property `Bidi_Class`, as far as domain names need it: in which direction a
character is written, and what it does where both directions meet.
-/

namespace FiatRamp.Unicode

/-- How a character is written. -/
inductive Direction where
  | leftToRight
  | rightToLeft
  | arabicNumber
  | number
  /-- Signs and separators, which are written like what is around them. -/
  | neutral
  /-- Marks, which are written like what is before them. -/
  | mark
  deriving DecidableEq

/-- The code points that are not written from left to right, with the numbers of
their directions. -/
def directions : List (Nat × Nat × Nat) := valuedRanges 0x80 <| hexNumbers
  ["21 7 4 1 1 4 1 2 4 1 1 4 1 2 4 4 2 4 3 1 4 3 1 4 17 1 4 1f 1 4 1c1 2 4 7 e 4 2 6 4 6 2 4 5 9",
   "4 1 11 4 0 40 5 2 1 5 3 9 5 1 20 5 5 1 4 80 1 4 8c 7 5 100 1 4 2 3 4 1 2d 5 0 1 1 0 1 5 0 1",
   "1 0 2 5 0 1 1 0 2 5 0 1 1 0 1 5 8 1b 1 4 6 1 11 2 4 0 1 1 0 2 4 0 1 1 0 1 4 0 1 1 0 2 4 0 b",
   "5 0 1 1 1 2e 1 0 15 5 0 a 2 0 1 4 0 2 2 0 3 1 0 1 5 0 4 1 4 5d 1 0 7 5 1 1 4 0 6 5 0 2 1 0 2",
   "5 0 1 4 0 4 5 0 2 1 0 a 3 0 14 1 2 1 1 0 1 5 0 1e 1 0 1b 5 2 59 1 0 b 5 0 1 1 e 2b 1 0 9 5 0",
   "2 1 0 4 4 0 1 1 2 1 5 0 18 1 0 4 5 0 1 1 0 9 5 0 1 1 0 3 5 0 1 1 0 5 5 2 f 1 1 19 1 0 3 5 2",
   "1 1 1 b 1 5 20 1 7 1 1 0 8 5 0 2a 1 0 18 5 1 20 5 37 1 5 1 1 5 4 8 5 4 1 5 3 7 5 a 2 5 1d 1",
   "5 3a 1 5 4 4 5 8 1 5 14 2 5 e 2 4 7 1 4 2 1 5 2 2 5 39 1 5 4 2 5 4 2 5 2 3 5 3 1 5 1e 2 5 3",
   "1 5 b 2 5 39 1 5 4 5 5 1 2 5 4 1 5 14 2 5 d 1 4 8 6 5 1 1 5 3a 1 5 2 1 5 1 4 5 8 1 5 7 2 5 b",
   "2 5 1e 1 5 3d 1 5 c 1 5 25 8 4 5 1 5 3 1 5 37 1 5 1 3 5 5 3 5 1 4 5 7 2 5 b 2 5 14 7 4 2 1 5",
   "3a 1 5 f 2 5 14 2 5 1c 2 5 39 2 5 4 4 5 8 1 5 14 2 5 1d 1 5 48 1 5 7 3 5 1 1 5 5a 1 5 2 7 5",
   "4 1 4 7 8 5 62 1 5 2 9 5 b 6 5 4a 2 5 1b 1 5 1 1 5 1 1 5 0 4 4 33 2 5 1 1 5 5 5 5 1 1 5 1 3",
   "5 1 2 5 5 6 5 1 4 5 1 4 5 1 4 5 1 4 5 1 4 5 1 c 5 1 3 5 9 1 5 66 4 5 1 6 5 1 2 5 2 2 5 19 2",
   "5 4 3 5 10 4 5 d 1 5 2 2 5 6 1 5 f 1 5 2bf 3 5 30 a 4 66 1 4 29a 2 4 75 3 5 1d 2 5 1e 2 5 1e",
   "2 5 43 7 5 8 1 5 2 b 5 7 1 4 1 1 5 12 a 4 6 b 4 7a 2 5 22 1 5 76 3 5 4 2 5 9 1 5 6 3 5 4 1 4",
   "3 2 4 98 22 4 17 2 5 2 1 5 3a 1 5 1 7 5 1 1 5 1 1 5 2 8 5 6 a 5 2 1 5 30 1f 5 31 4 5 30 1 5",
   "1 5 5 1 1 5 5 1 5 28 9 5 c 2 5 20 4 5 2 2 5 1 3 5 38 1 5 1 2 5 3 1 5 1 3 5 3a 8 5 2 2 5 98 3",
   "5 1 d 5 1 7 5 4 1 5 6 1 5 3 2 5 c6 40 5 20c 2 4 2 1 4 1 5 4 1 c 4 3 1 4 8 3 4 2 1 4 2 4 4 1",
   "1 4 1 8 4 3 d 4 1 7 4 41 8 4 1 18 4 f 21 5 13 1 4 3 1 4 b 1 4 2 2 4 5 2 4 3 1 4 1 1 4 1 1 4",
   "1 1 4 4 1 4 b 1 4 6 4 4 5 4 4 3c 2 4 4 9c 4 2 1 4 2 f8 4 2 b 4 45 1a 4 1 91 4 19 b 4 a0 1c1",
   "4 1 153 4 100 10c 4 1 67 4 3 65 4 1 97 4 2 20 4 1 69 4 e5 6 4 4 3 5 7 7 4 7f 1 5 60 20 5 0",
   "5e 4 22 1a 4 1 4 4 1 53 4 10e 1 4 1 2 4 3 19 4 9 4 5 2 1 4 6 1 4 5 3 4 59 2 5 5 1 4 5a 1 4",
   "c4 24 4 1bdc 40 4 5690 37 4 146 3 4 5f 4 5 0 1 4 0 a 5 0 2 4 1e 2 5 50 2 5 e 22 4 66 1 4 79",
   "1 5 3 1 5 4 1 5 19 2 5 1 4 4 0 1 5 b 2 4 3a 4 4 4c 2 5 1a 12 5 d 1 5 26 8 5 19 b 5 2e 3 5 30",
   "1 5 2 4 5 2 2 5 27 1 5 43 6 5 2 2 5 2 2 5 c 1 5 8 1 5 2f 1 5 33 1 5 1 3 5 2 2 5 5 2 5 1 1 5",
   "2a 2 5 8 1 5 73 2 4 79 1 5 2 1 5 4 1 5 4f30 1 5 93 21 1 16b 12 4 40 2 1 36 7 1 0 1 4 2d 3 4",
   "20 10 5 15 2 4 2c 1 1 28d 1 4 3e 4d 4 3 d 4 3 1 4 5c 1 5 e2 1 5 0 1b 3 7a 5 5 485 6 1 2 1 1",
   "1 2c 1 1 2 1 3 1 1 2 17 1 1 48 1 8 9 1 30 13 1 1 2 1 5 21 1 3 1 4 0 1a 1 5 1b 1 26 38 1 4 14",
   "1 2 2f 1 0 3 5 1 2 5 5 4 5 0 4 1 1 3 1 1 1d 1 2 3 5 4 1 5 0 9 1 7 9 1 7 40 1 20 25 1 0 2 5 4",
   "c 1 9 36 1 3 7 4 0 16 1 2 1b 1 5 1a 1 7 4 1 c 7 1 50 49 1 77 33 1 7 2a 1 0 4 5 8 a 2 6 10 1",
   "19 1d 1 8 2 1 d0 1f 2 1 2a 1 1 2 5 0 1 1 2 2 1 10 6 1 8 9 1 21 2e 1 8 16 1 0 b 5 0 9 1 16 12",
   "1 0 4 5 0 4 1 26 1c 1 14 17 1 a 1 5 36 f 5 b 14 4 a 1 5 2 2 5 a 3 5 31 4 5 2 2 5 7 1 5 3d 3",
   "5 24 5 5 1 8 5 3e 1 5 c 2 5 34 9 5 a 4 5 2 1 5 5f 3 5 2 1 5 1 2 5 6 1 5 a0 1 5 3 8 5 15 2 5",
   "39 2 5 3 1 5 25 7 5 3 5 5 c3 8 5 2 3 5 1 1 5 17 1 5 54 6 5 1 1 5 4 2 5 1 2 5 ee 4 5 6 2 5 1",
   "2 5 1b 2 5 55 8 5 2 1 5 1 2 5 1f d 4 3e 1 5 1 1 5 2 6 5 1 1 5 65 3 5 2 4 5 1 5 5 103 9 5 1 2",
   "5 100 2 5 1 1 5 4 1 5 90 4 5 2 2 5 4 1 5 20 6 5 2 2 5 28 6 5 2 4 5 8 1 5 9 6 5 2 3 5 2e d 5",
   "1 2 5 196 7 5 1 6 5 54 16 5 2 7 5 1 2 5 1 2 5 7a 6 5 3 1 5 1 2 5 1 7 5 1 1 5 48 2 5 3 1 5 1",
   "1 5 15b 2 5 e0 1d 4 4afe 5 5 3b 7 5 418 1 5 3f 4 5 4f 1 4 1 1 5 4cb8 2 5 1261 2e 5 2 17 5",
   "220 3 5 11 8 5 2 7 5 1e 4 5 3b 2 4 15 42 4 0 3 5 0 1 4 ba 57 4 6a9 37 5 4 32 5 8 1 5 e 1 5",
   "16 5 5 1 f 5 550 7 5 1 11 5 2 7 5 1 2 5 1 5 5 105 7 5 177 1 5 3d 4 5 f 1 4 500 c5 1 2 9 1 0",
   "7 5 4b 22 1 0 7 5 0 1 1 4 a 1 4 2 1 311 44 1 4c 3d 1 1b2 2 4 10e 2c 4 4 64 4 c f 4 2 f 4 1 f",
   "4 1 25 4 15 5 4 1f 1 4 3d 3 4 3d 1 4 b2 6 4 9a 3d8 4 5 10 4 3 d 4 3 74 4 c 59 4 7 c 4 4 1 4",
   "f c 4 4 38 4 8 a 4 6 28 4 8 1e 4 2 2 4 4e 154 4 c e 4 2 5 4 3 5 4 3 7 4 9 1d 4 3 b 4 5 6 4 a",
   "a 4 6 8 4 8 7 4 9 93 4 1 37 4"]

/-- The direction of a number in the table. -/
def Direction.ofNumber : Nat → Direction
  | 1 => .rightToLeft
  | 2 => .arabicNumber
  | 3 => .number
  | 4 => .neutral
  | 5 => .mark
  | _ => .leftToRight

/-- How a character is written. -/
def direction (c : Char) : Direction :=
  if c.isDigit then .number
  else if c.isAlpha then .leftToRight
  else if c.toNat < 0x80 then .neutral
  else .ofNumber ((valueWithin? directions c.toNat).getD 0)

end FiatRamp.Unicode
