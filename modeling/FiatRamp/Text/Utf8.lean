/-!
# FiatRamp.Text.Utf8

The bytes of characters in UTF-8, and back.

Bytes are natural numbers below 256.  Decoding is strict: every character has
one form, the shortest, and surrogates have none.
-/

namespace FiatRamp.Utf8

/-- The bytes of a character. -/
def encodeChar (c : Char) : List Nat :=
  let n := c.toNat
  if n < 0x80 then [n]
  else if n < 0x800 then [0xC0 + n / 0x40, 0x80 + n % 0x40]
  else if n < 0x10000 then [0xE0 + n / 0x1000, 0x80 + n / 0x40 % 0x40, 0x80 + n % 0x40]
  else
    [0xF0 + n / 0x40000, 0x80 + n / 0x1000 % 0x40, 0x80 + n / 0x40 % 0x40, 0x80 + n % 0x40]

/-- The bytes of a text. -/
def encode (cs : List Char) : List Nat := cs.flatMap encodeChar

/-- A byte that continues a character. -/
def isContinuation (b : Nat) : Bool := 0x80 ≤ b && b < 0xC0

/-- The character of a code point between two bounds, surrogates excepted. -/
def charBetween? (low high n : Nat) : Option Char :=
  if low ≤ n ∧ n < high ∧ ¬(0xD800 ≤ n ∧ n < 0xE000) then some (Char.ofNat n) else none

/-- The text of some bytes, if they are well formed. -/
def decode? : List Nat → Option (List Char)
  | [] => some []
  | a :: rest =>
    if a < 0x80 then (decode? rest).map (Char.ofNat a :: ·)
    else if a < 0xC2 then none
    else match rest with
      | [] => none
      | b :: rest =>
        if !isContinuation b then none
        else if a < 0xE0 then do
          let c ← charBetween? 0x80 0x800 ((a - 0xC0) * 0x40 + (b - 0x80))
          (decode? rest).map (c :: ·)
        else match rest with
          | [] => none
          | c :: rest =>
            if !isContinuation c then none
            else if a < 0xF0 then do
              let ch ← charBetween? 0x800 0x10000
                (((a - 0xE0) * 0x40 + (b - 0x80)) * 0x40 + (c - 0x80))
              (decode? rest).map (ch :: ·)
            else match rest with
              | [] => none
              | d :: rest =>
                if !isContinuation d || 0xF5 ≤ a then none
                else do
                  let ch ← charBetween? 0x10000 0x110000
                    ((((a - 0xF0) * 0x40 + (b - 0x80)) * 0x40 + (c - 0x80)) * 0x40 + (d - 0x80))
                  (decode? rest).map (ch :: ·)

end FiatRamp.Utf8
