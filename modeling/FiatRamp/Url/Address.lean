import FiatRamp.Url.Percent

/-!
# FiatRamp.Url.Address

Internet addresses as hosts.

An IPv4 address has up to four parts, the last of which fills all the bytes
that are left; each part is decimal, octal behind `0` or hexadecimal behind
`0x`.  An IPv6 address has eight groups, some of which `::` may stand for, and
may end in an IPv4 address in its strict form.
-/

namespace FiatRamp.Address

/-- Splits a text at every occurrence of a character. -/
def splitAt (mark : Char) : List Char → List (List Char)
  | [] => [[]]
  | c :: rest =>
    if c = mark then [] :: splitAt mark rest
    else match splitAt mark rest with
      | [] => [[c]]
      | first :: others => (c :: first) :: others

/-- The value of digits in a base. -/
def digitsValue? (base : Nat) (cs : List Char) : Option Nat :=
  cs.foldlM (fun n c => do
    let digit ← Percent.hexValue? c
    if digit < base then some (n * base + digit) else none) 0

/-! ## IPv4 -/

/-- The value of a part of an IPv4 address. -/
def ipv4Part? : List Char → Option Nat
  | [] => none
  | '0' :: 'x' :: rest | '0' :: 'X' :: rest => digitsValue? 16 rest
  | '0' :: c :: rest => digitsValue? 8 (c :: rest)
  | cs => digitsValue? 10 cs

/-- Drops one empty part at the end of a name. -/
def dropEmptyEnd (parts : List (List Char)) : List (List Char) :=
  if parts.getLast? = some [] then parts.dropLast else parts

/-- The last part of a name is a number, so the name is meant as an address. -/
def endsInNumber (name : List Char) : Bool :=
  let parts := splitAt '.' name
  match (if parts.length = 1 then parts else dropEmptyEnd parts).getLast? with
  | some last => (!last.isEmpty && last.all Char.isDigit) || (ipv4Part? last).isSome
  | none => false

/-- The address that a name stands for. -/
def ipv4? (name : List Char) : Option Nat := do
  let parts := dropEmptyEnd (splitAt '.' name)
  if 4 < parts.length then none
  else
    let numbers ← parts.mapM ipv4Part?
    let last ← numbers.getLast?
    let others := numbers.dropLast
    if others.any (255 < ·) ∨ Nat.pow 256 (4 - others.length) ≤ last then none
    else
      let high := others.foldl (fun n part => n * 256 + part) 0
      return high * Nat.pow 256 (4 - others.length) + last

/-! ## IPv6 -/

/-- A decimal part of an IPv4 address inside an IPv6 address. -/
def strictPart? (cs : List Char) : Option Nat :=
  if cs.all Char.isDigit ∧ cs ≠ [] ∧ (cs.length = 1 ∨ cs.head? ≠ some '0') then
    let n := Nat.ofDigitChars 10 cs 0
    if n ≤ 255 then some n else none
  else none

/-- An IPv4 address inside an IPv6 address, as two groups. -/
def embedded? (cs : List Char) : Option (List Nat) :=
  match splitAt '.' cs with
  | [a, b, c, d] => do
    let a ← strictPart? a
    let b ← strictPart? b
    let c ← strictPart? c
    let d ← strictPart? d
    return [a * 256 + b, c * 256 + d]
  | _ => none

/-- A group of an IPv6 address. -/
def group? (cs : List Char) : Option Nat :=
  if cs ≠ [] ∧ cs.length ≤ 4 then digitsValue? 16 cs else none

/-- Groups with colons in between.  The last may be an IPv4 address if the text
ends the whole address. -/
def groups? (isEnd : Bool) : List (List Char) → Option (List Nat)
  | [] => some []
  | [last] =>
    if isEnd && last.contains '.' then embedded? last else (group? last).map ([·])
  | first :: rest => do
    let group ← group? first
    (groups? isEnd rest).map (group :: ·)

/-- Groups with colons in between, possibly none. -/
def groupList? (isEnd : Bool) (cs : List Char) : Option (List Nat) :=
  if cs.isEmpty then some [] else groups? isEnd (splitAt ':' cs)

/-- Splits a text at the first `::`. -/
def splitAtGap : List Char → Option (List Char × List Char)
  | ':' :: ':' :: rest => some ([], rest)
  | c :: rest => (splitAtGap rest).map fun (before, after) => (c :: before, after)
  | [] => none

/-- The address between the brackets of a host. -/
def ipv6? (cs : List Char) : Option (List Nat) :=
  match splitAtGap cs with
  | some (before, after) => do
    let left ← groupList? false before
    let right ← groupList? true after
    let count := left.length + right.length
    if count ≤ 7 then some (left ++ List.replicate (8 - count) 0 ++ right) else none
  | none => do
    let groups ← groupList? true cs
    if groups.length = 8 then some groups else none

end FiatRamp.Address
