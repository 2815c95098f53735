import FiatRamp.Toml.Word

/-!
# FiatRamp.Toml.Quoted

Texts in quotes.

Between double quotes a backslash escapes; between single quotes every
character stands for itself.  Three quotes of a kind open a text of several
lines: the line break right behind them does not count, and up to two quotes
right before the closing three belong to the text.
-/

namespace FiatRamp.Toml

/-- A character that may stand for itself in a line: a tab, and all that is no
control character. -/
def isPlain (c : Char) : Bool := c == '\t' || (' ' ≤ c && c.toNat ≠ 0x7F)

/-- The character a letter stands for behind a backslash. -/
def shortEscape? : Char → Option Char
  | 'b' => some '\x08'
  | 't' => some '\t'
  | 'n' => some '\n'
  | 'f' => some '\x0c'
  | 'r' => some '\r'
  | '"' => some '"'
  | '\\' => some '\\'
  | _ => none

/-- The character whose number in hexadecimal is given. -/
def hexChar? (digits : List Char) : Option Char :=
  let n := ofDigits 16 digits
  if h : n.isValidChar then
    if digits.all isHexDigit then some ⟨n.toUInt32, by
      simpa [UInt32.isValidChar, Nat.toUInt32, UInt32.toNat_ofNat_of_lt' (n := n) (by
        rcases h with h | ⟨_, h⟩ <;> simp [UInt32.size] <;> omega)] using h⟩
    else none
  else none

/-- Puts a character in front of a text that was read. -/
def consRead (c : Char) : Option (List Char × List Char) → Option (List Char × List Char)
  | some (text, rest) => some (c :: text, rest)
  | none => none

/-! ## One line -/

/-- Reads a text behind a double quote, with what follows it. -/
def readBasic : List Char → Option (List Char × List Char)
  | [] => none
  | '"' :: rest => some ([], rest)
  | '\\' :: 'u' :: a :: b :: c :: d :: rest =>
    match hexChar? [a, b, c, d] with
    | some escaped => consRead escaped (readBasic rest)
    | none => none
  | '\\' :: 'U' :: a :: b :: c :: d :: e :: f :: g :: h :: rest =>
    match hexChar? [a, b, c, d, e, f, g, h] with
    | some escaped => consRead escaped (readBasic rest)
    | none => none
  | '\\' :: c :: rest =>
    match shortEscape? c with
    | some escaped => consRead escaped (readBasic rest)
    | none => none
  | c :: rest => if isPlain c && c != '\\' then consRead c (readBasic rest) else none

/-- Reads a text behind a single quote, with what follows it. -/
def readLiteral : List Char → Option (List Char × List Char)
  | [] => none
  | '\x27' :: rest => some ([], rest)
  | c :: rest => if isPlain c then consRead c (readLiteral rest) else none

/-! ## Several lines -/

/-- What comes behind the closing quotes of several lines: first of all the
quotes that still belong to the text. -/
def closeQuotes (quote : Char) : List Char → List Char × List Char
  | c :: d :: rest =>
    if c = quote then
      if d = quote then ([quote, quote], rest) else ([quote], d :: rest)
    else ([], c :: d :: rest)
  | [c] => if c = quote then ([quote], []) else ([], [c])
  | [] => ([], [])

/-- What a backslash at the end of a line does to the characters behind it. -/
inductive Joint where
  /-- Nothing: there was none. -/
  | none
  /-- The line has to end. -/
  | lineEnd
  /-- The line has ended, and the blanks that begin the next lines are skipped. -/
  | indent

/-- Reads a text behind three double quotes. -/
def readBasicLines : Joint → List Char → Option (List Char × List Char)
  | _, [] => none
  | .lineEnd, '\n' :: rest | .lineEnd, '\r' :: '\n' :: rest => readBasicLines .indent rest
  | .lineEnd, c :: rest => if c = ' ' ∨ c = '\t' then readBasicLines .lineEnd rest else none
  | .indent, ' ' :: rest | .indent, '\t' :: rest | .indent, '\n' :: rest
  | .indent, '\r' :: '\n' :: rest => readBasicLines .indent rest
  | _, '"' :: '"' :: '"' :: rest => some (closeQuotes '"' rest)
  | _, '\n' :: rest | _, '\r' :: '\n' :: rest => consRead '\n' (readBasicLines .none rest)
  | _, '\\' :: 'u' :: a :: b :: c :: d :: rest =>
    match hexChar? [a, b, c, d] with
    | some escaped => consRead escaped (readBasicLines .none rest)
    | none => none
  | _, '\\' :: 'U' :: a :: b :: c :: d :: e :: f :: g :: h :: rest =>
    match hexChar? [a, b, c, d, e, f, g, h] with
    | some escaped => consRead escaped (readBasicLines .none rest)
    | none => none
  | _, '\\' :: '\n' :: rest | _, '\\' :: '\r' :: '\n' :: rest => readBasicLines .indent rest
  | _, '\\' :: c :: rest =>
    if c = ' ' ∨ c = '\t' then readBasicLines .lineEnd rest
    else match shortEscape? c with
      | some escaped => consRead escaped (readBasicLines .none rest)
      | none => none
  | _, c :: rest => if isPlain c && c != '\\' then consRead c (readBasicLines .none rest) else none

/-- Reads a text behind three single quotes. -/
def readLiteralLines : List Char → Option (List Char × List Char)
  | [] => none
  | '\x27' :: '\x27' :: '\x27' :: rest => some (closeQuotes '\x27' rest)
  | '\n' :: rest | '\r' :: '\n' :: rest => consRead '\n' (readLiteralLines rest)
  | c :: rest => if isPlain c then consRead c (readLiteralLines rest) else none

/-- What follows a line break, if there is one. -/
def dropBreak : List Char → List Char
  | '\n' :: rest | '\r' :: '\n' :: rest => rest
  | cs => cs

/-! ## Any text -/

/-- Reads a text in quotes of any kind. -/
def readQuoted : List Char → Option (String × List Char)
  | '"' :: '"' :: '"' :: rest => ofRead (readBasicLines .none (dropBreak rest))
  | '\x27' :: '\x27' :: '\x27' :: rest => ofRead (readLiteralLines (dropBreak rest))
  | '"' :: rest => ofRead (readBasic rest)
  | '\x27' :: rest => ofRead (readLiteral rest)
  | _ => none
where
  /-- The text of the characters read. -/
  ofRead (read : Option (List Char × List Char)) : Option (String × List Char) :=
    read.map fun (text, rest) => (String.ofList text, rest)

end FiatRamp.Toml
