import FiatRamp.Json.Basic

/-!
# FiatRamp.Json.Decode

Decoding values into data.

A record is decoded field by field.  It is written with the names of its
fields, or as the list of their values in order; names that are not asked for
do not count.  A choice among words is written as the word.  Where a record is
one of several variants, one field, the tag, names the variant.
-/

namespace FiatRamp.Json

/-- What data formats do differently. -/
structure Dialect where
  /-- The list form of a record may be longer than the record. -/
  allowsSurplus : Bool
  /-- What may stand under a word that is written as the only name of a record. -/
  isUnit : Json → Bool

namespace Dialect

/-- JSON as such. -/
def json : Dialect where
  allowsSurplus := false
  isUnit
    | .null => true
    | _ => false

/-- JSON inside a record with a tag. -/
def tagged : Dialect where
  allowsSurplus := false
  isUnit
    | .null | .record [] => true
    | _ => false

/-- Configuration files. -/
def file : Dialect where
  allowsSurplus := true
  isUnit
    | .record [] | .list [] => true
    | _ => false

end Dialect

/-! ## Single values -/

def asText? : Json → Option String
  | .text s => some s
  | _ => none

def asBool? : Json → Option Bool
  | .bool b => some b
  | _ => none

/-- A whole number of 32 bits without a sign. -/
def asUInt32? : Json → Option UInt32
  | .integer n => if 0 ≤ n ∧ n < Nat.pow 2 32 then some (UInt32.ofNat n.toNat) else none
  | _ => none

/-- A whole number of 64 bits without a sign. -/
def asUInt64? : Json → Option UInt64
  | .integer n => if 0 ≤ n ∧ n < Nat.pow 2 64 then some (UInt64.ofNat n.toNat) else none
  | _ => none

/-- A whole number of 64 bits with a sign. -/
def asInt64? : Json → Option Int64
  | .integer n => if -Nat.pow 2 63 ≤ n ∧ n < Nat.pow 2 63 then some (Int64.ofInt n) else none
  | _ => none

/-- A value that may be absent. -/
def asOption? (decode : Json → Option α) : Json → Option (Option α)
  | .null => some none
  | value => (decode value).map some

/-- The values of a list. -/
def asList? (decode : Json → Option α) : Json → Option (List α)
  | .list items => items.mapM decode
  | _ => none

/-- A word among those of the values in `all`. -/
def asWord? (dialect : Dialect) (all : List α) (word : α → String) : Json → Option α
  | .text s => all.find? (word · == s)
  | .record [(s, payload)] => if dialect.isUnit payload then all.find? (word · == s) else none
  | _ => none

/-! ## Records -/

/-- The fields of a record that are still to be decoded. -/
inductive Fields where
  | named (fields : List (String × Json))
  | inOrder (items : List Json)

/-- Decodes some fields of a record, in their order. -/
abbrev FieldReader (α : Type) := StateT Fields Option α

/-- A field that has to be there. -/
def required (name : String) (decode : Json → Option α) : FieldReader α
  | .named fields => do return (← decode (← fields.lookup name), .named fields)
  | .inOrder (item :: items) => do return (← decode item, .inOrder items)
  | .inOrder [] => none

/-- A field that is `none` where it is missing or null. -/
def optional (name : String) (decode : Json → Option α) : FieldReader (Option α)
  | .named fields =>
    match fields.lookup name with
    | some value => do return (← asOption? decode value, .named fields)
    | none => some (none, .named fields)
  | .inOrder (item :: items) => do return (← asOption? decode item, .inOrder items)
  | .inOrder [] => none

/-- A field that has a value where it is missing. -/
def defaulted (name : String) (fallback : α) (decode : Json → Option α) : FieldReader α
  | .named fields =>
    match fields.lookup name with
    | some value => do return (← decode value, .named fields)
    | none => some (fallback, .named fields)
  | .inOrder (item :: items) => do return (← decode item, .inOrder items)
  | .inOrder [] => some (fallback, .inOrder [])

/-- A record in either form. -/
def asRecord? (dialect : Dialect) (read : FieldReader α) : Json → Option α
  | .record fields => (read (.named fields)).map (·.1)
  | .list items => do
    match ← read (.inOrder items) with
    | (value, .inOrder (_ :: _)) => if dialect.allowsSurplus then some value else none
    | (value, _) => some value
  | _ => none

/-- A record without fields. -/
def asEmpty? (value : α) : Json → Option α
  | .record _ | .list [] => some value
  | _ => none

/-- A record whose field `tag` names its variant.  `variant` decodes the rest of
a record under each name. -/
def asTagged? (tag : String) (variant : String → Json → Option α) : Json → Option α
  | .record fields =>
    match fields.lookup tag with
    | some (.text name) => variant name (.record (fields.filter (·.1 != tag)))
    | _ => none
  | .list (.text name :: items) => variant name (.list items)
  | _ => none

/-! ## Encoding -/

/-- A value that may be absent, null where it is. -/
def ofOption (encode : α → Json) : Option α → Json
  | some a => encode a
  | none => .null

def ofUInt32 (n : UInt32) : Json := .integer n.toNat

def ofUInt64 (n : UInt64) : Json := .integer n.toNat

end FiatRamp.Json
