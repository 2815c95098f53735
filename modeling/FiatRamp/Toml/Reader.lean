import FiatRamp.Toml.Quoted
import FiatRamp.Toml.Table

/-!
# FiatRamp.Toml.Reader

Reading the lines of a TOML file.

A line is a header, an entry, a comment or empty.  Lists may go over several
lines, tables inside a line may not.  Brackets may be nested at most 79 deep,
and a path has at most 79 names.
-/

namespace FiatRamp.Toml

/-! ## Blanks and comments -/

/-- A blank inside a line. -/
def isBlankChar (c : Char) : Bool := c == ' ' || c == '\t'

def dropBlanks (cs : List Char) : List Char := cs.dropWhile isBlankChar

/-- What follows the end of a line, which is also the end of the text. -/
def afterLine? (cs : List Char) : Option (List Char) :=
  let cs := match dropBlanks cs with
    | '#' :: comment => comment.dropWhile isPlain
    | cs => cs
  match cs with
  | [] => some []
  | '\n' :: rest | '\r' :: '\n' :: rest => some rest
  | _ => none

/-- Drops blanks, line breaks and comments. -/
def dropGaps : (inComment : Bool) → List Char → List Char
  | _, '\n' :: rest | _, '\r' :: '\n' :: rest => dropGaps false rest
  | true, c :: rest => if isPlain c then dropGaps true rest else c :: rest
  | false, '#' :: rest => dropGaps true rest
  | false, c :: rest => if isBlankChar c then dropGaps false rest else c :: rest
  | _, [] => []

/-! ## Names -/

/-- A character of a name without quotes. -/
def isNameChar (c : Char) : Bool := c.isAlphanum || c == '-' || c == '_'

/-- Reads a name, in quotes or without. -/
def readName : List Char → Option (String × List Char)
  | '"' :: rest => (readBasic rest).map fun (text, rest) => (String.ofList text, rest)
  | '\x27' :: rest => (readLiteral rest).map fun (text, rest) => (String.ofList text, rest)
  | cs =>
    let name := cs.takeWhile isNameChar
    if name.isEmpty then none else some (String.ofList name, cs.dropWhile isNameChar)

/-- How many names a path has at most. -/
def pathBound : Nat := 79

/-- Reads a path of at most `bound` names with points between them, and the
blanks behind it. -/
def readPathWithin : (bound : Nat) → List Char → Option (Path × List Char)
  | 0, _ => none
  | bound + 1, cs => do
    let (name, rest) ← readName (dropBlanks cs)
    match dropBlanks rest with
    | '.' :: rest =>
      let (path, rest) ← readPathWithin bound rest
      return (name :: path, rest)
    | rest => return ([name], rest)

/-- Reads a path. -/
def readPath (cs : List Char) : Option (Path × List Char) := readPathWithin pathBound cs

/-! ## Values -/

/-- How many brackets may be open at once. -/
def depthBound : Nat := 79

mutual

/-- Reads a value. -/
def readValue (depth : Nat) : (fuel : Nat) → List Char → Option (Value × List Char)
  | 0, _ => none
  | fuel + 1, '[' :: rest => if depth = 0 then none else readItems (depth - 1) [] fuel rest
  | fuel + 1, '\x7b' :: rest =>
    if depth = 0 then none
    else match dropBlanks rest with
      | '\x7d' :: rest => some (.table [], rest)
      | rest => readFields (depth - 1) [] fuel rest
  | _ + 1, '"' :: rest => (readQuoted ('"' :: rest)).map fun (text, rest) => (.text text, rest)
  | _ + 1, '\x27' :: rest =>
    (readQuoted ('\x27' :: rest)).map fun (text, rest) => (.text text, rest)
  | _ + 1, cs => readWord cs

/-- Reads the items of a list up to its end; `acc` holds those read, last one
first.  A comma may stand behind the last item. -/
def readItems (depth : Nat) (acc : List Value) : (fuel : Nat) → List Char →
    Option (Value × List Char)
  | 0, _ => none
  | fuel + 1, cs =>
    match dropGaps false cs with
    | ']' :: rest => some (.list acc.reverse, rest)
    | cs =>
      match readValue depth fuel cs with
      | none => none
      | some (value, rest) =>
        match dropGaps false rest with
        | ',' :: rest => readItems depth (value :: acc) fuel rest
        | ']' :: rest => some (.list (value :: acc).reverse, rest)
        | _ => none

/-- Reads the entries of a table in braces up to its end. -/
def readFields (depth : Nat) (acc : List (Path × Value)) : (fuel : Nat) → List Char →
    Option (Value × List Char)
  | 0, _ => none
  | fuel + 1, cs =>
    match readPath cs with
    | some (path, '=' :: rest) =>
      match readValue depth fuel (dropBlanks rest) with
      | none => none
      | some (value, rest) =>
        let acc := (path, value) :: acc
        match dropBlanks rest with
        | ',' :: rest => readFields depth acc fuel rest
        | '\x7d' :: rest => (Value.ofEntries? acc.reverse).map (·, rest)
        | _ => none
    | _ => none

end

/-! ## Lines -/

/-- Reads a line that is neither empty nor a comment, up to where it should
end. -/
def readLine : List Char → Option (Line × List Char)
  | '[' :: '[' :: rest =>
    match readPath rest with
    | some (path, ']' :: ']' :: rest) => some (.item path, rest)
    | _ => none
  | '[' :: rest =>
    match readPath rest with
    | some (path, ']' :: rest) => some (.header path, rest)
    | _ => none
  | cs =>
    match readPath cs with
    | some (path, '=' :: rest) =>
      (readValue depthBound (2 * rest.length + 1) (dropBlanks rest)).map fun (value, rest) =>
        (.entry path value, rest)
    | _ => none

/-- Reads all lines; `fuel` bounds their number. -/
def readLines : (fuel : Nat) → List Char → Option (List Line)
  | 0, _ => none
  | fuel + 1, cs =>
    match dropBlanks cs with
    | [] => some []
    | '\n' :: rest | '\r' :: '\n' :: rest => readLines fuel rest
    | '#' :: rest => do readLines fuel (← afterLine? ('#' :: rest))
    | cs => do
      let (line, rest) ← readLine cs
      let lines ← readLines fuel (← afterLine? rest)
      return line :: lines

/-- The mark some files begin with. -/
def byteOrderMark : Char := '\uFEFF'

/-- What a file says. -/
def Value.ofText? (s : String) : Option Value := do
  let cs := s.toList
  let cs := if cs.head? = some byteOrderMark then cs.tail else cs
  Value.ofLines? (← readLines (cs.length + 1) cs)

end FiatRamp.Toml
