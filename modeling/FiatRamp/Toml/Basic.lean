import FiatRamp.Json.Basic

/-!
# FiatRamp.Toml.Basic

The values of TOML, the format of configuration files, and the lines of a file.

TOML has no null.  Settings are decoded from the JSON value that a TOML value
stands for (`Toml.Value.toJson`), which therefore is null nowhere.
-/

namespace FiatRamp.Toml

/-- A value. -/
inductive Value where
  | bool (b : Bool)
  | integer (n : Int)
  /-- A number with a point or an exponent, as it is written. -/
  | float (written : String)
  /-- A date, a time, or both, as it is written. -/
  | date (written : String)
  | text (s : String)
  | list (items : List Value)
  /-- Named values.  No name occurs twice. -/
  | table (fields : List (String × Value))
  deriving Inhabited

/-- The name under which a date stands in a record. -/
def dateField : String := "datetime"

/-- The number that stands for every written number with a point or an
exponent.  No setting has one. -/
def someReal : Real := ⟨false, 5, -1⟩

mutual

/-- The JSON value a value stands for.  A date is a record of its own form. -/
def Value.toJson : Value → Json
  | .bool b => .bool b
  | .integer n => .integer n
  | .float _ => .real someReal
  | .date written => .record [(dateField, .text written)]
  | .text s => .text s
  | .list items => .list (listToJson items)
  | .table fields => .record (fieldsToJson fields)

/-- The JSON values of a list. -/
def listToJson : List Value → List Json
  | [] => []
  | item :: items => item.toJson :: listToJson items

/-- The JSON values of named values. -/
def fieldsToJson : List (String × Value) → List (String × Json)
  | [] => []
  | (name, value) :: fields => (name, value.toJson) :: fieldsToJson fields

end

/-- No value stands for null. -/
theorem Value.toJson_ne_null (v : Value) : v.toJson ≠ .null := by
  cases v <;> simp [Value.toJson]

/-! ## Lines -/

/-- The names that lead from a table to a value inside it, the outermost first. -/
abbrev Path := List String

/-- What a line of a file says. -/
inductive Line where
  /-- `[path]`: the lines below fill this table. -/
  | header (path : Path)
  /-- `[[path]]`: the lines below fill a new table at the end of this list. -/
  | item (path : Path)
  /-- `path = value`. -/
  | entry (path : Path) (value : Value)
  deriving Inhabited

end FiatRamp.Toml
