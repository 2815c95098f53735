import FiatRamp.Json.Basic

/-!
# FiatRamp.Json.Writer

Writing JSON text, on one line (`Json.toText`) or indented by two blanks
(`Json.toPrettyText`).
-/

namespace FiatRamp.Json

/-- Four hexadecimal digits of a character below 65536. -/
def hexQuad (c : Char) : String :=
  let digits := Nat.toDigits 16 c.toNat
  String.ofList (List.replicate (4 - digits.length) '0' ++ digits)

/-- A character inside quotes. -/
def escape (c : Char) : String :=
  if c = '"' then "\\\""
  else if c = '\\' then "\\\\"
  else if c = '\n' then "\\n"
  else if c = '\r' then "\\r"
  else if c = '\t' then "\\t"
  else if c = '\x08' then "\\b"
  else if c = '\x0c' then "\\f"
  else if c.toNat < 0x20 then "\\u" ++ hexQuad c
  else c.toString

/-- A text in quotes. -/
def quote (s : String) : String := "\"" ++ String.join (s.toList.map escape) ++ "\""

mutual

/-- A value on one line. -/
def toText : Json → String
  | .null => "null"
  | .bool true => "true"
  | .bool false => "false"
  | .integer n => toString n
  | .real r => String.ofList r.toChars
  | .text s => quote s
  | .list items => "[" ++ ",".intercalate (itemTexts items) ++ "]"
  | .record fields => "\x7b" ++ ",".intercalate (fieldTexts fields) ++ "\x7d"

/-- The items of a list. -/
def itemTexts : List Json → List String
  | [] => []
  | item :: items => item.toText :: itemTexts items

/-- The fields of a record. -/
def fieldTexts : List (String × Json) → List String
  | [] => []
  | (name, value) :: fields => (quote name ++ ":" ++ value.toText) :: fieldTexts fields

end

/-- A line break and the blanks of a level of nesting. -/
def breakLine (level : Nat) : String := "\n" ++ String.ofList (List.replicate (2 * level) ' ')

mutual

/-- A value over several lines, at a level of nesting. -/
def prettyAt (level : Nat) : Json → String
  | .list [] => "[]"
  | .list items =>
    "[" ++ breakLine (level + 1) ++
      ("," ++ breakLine (level + 1)).intercalate (prettyItems (level + 1) items) ++
      breakLine level ++ "]"
  | .record [] => "\x7b\x7d"
  | .record fields =>
    "\x7b" ++ breakLine (level + 1) ++
      ("," ++ breakLine (level + 1)).intercalate (prettyFields (level + 1) fields) ++
      breakLine level ++ "\x7d"
  | value => value.toText

/-- The items of a list over several lines. -/
def prettyItems (level : Nat) : List Json → List String
  | [] => []
  | item :: items => item.prettyAt level :: prettyItems level items

/-- The fields of a record over several lines. -/
def prettyFields (level : Nat) : List (String × Json) → List String
  | [] => []
  | (name, value) :: fields =>
    (quote name ++ ": " ++ value.prettyAt level) :: prettyFields level fields

end

mutual

/-- A value with the fields of every record in the order of their names. -/
def sortFields : Json → Json
  | .list items => .list (sortItems items)
  | .record fields =>
    .record ((sortValues fields).mergeSort fun a b => a.1 < b.1 || a.1 == b.1)
  | value => value

/-- The items of a list, each sorted. -/
def sortItems : List Json → List Json
  | [] => []
  | item :: items => item.sortFields :: sortItems items

/-- The values of a record, each sorted. -/
def sortValues : List (String × Json) → List (String × Json)
  | [] => []
  | (name, value) :: fields => (name, value.sortFields) :: sortValues fields

end

/-- A value over several lines. -/
def toPrettyText (value : Json) : String := value.prettyAt 0

end FiatRamp.Json
