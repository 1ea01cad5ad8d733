import SchemaDdl.Json.Basic

/-!
# Decoding records

The forms in which models are written as JSON.  A record is an object, or an
array of its fields in their order; a case of an enumeration is its name, or an
object of that one name; a tagged record carries the name of its kind in one of
its fields.
-/

namespace SchemaDdl.Json

/-! ## Plain values -/

/-- The truth value of a JSON value. -/
def bool? : Json → Option Bool
  | .bool value => some value
  | _ => none

/-- The text of a JSON string. -/
def text? : Json → Option String
  | .string value => value
  | _ => none

/-- The integer of a JSON number, if it lies between two bounds. -/
def intBetween? (low high : Int) : Json → Option Int
  | .number (.integer value) => if low ≤ value ∧ value ≤ high then some value else none
  | _ => none

/-- An unsigned number of 8 bits. -/
def uint8? (json : Json) : Option UInt8 :=
  (json.intBetween? 0 (UInt8.size - 1)).map fun value => UInt8.ofNat value.toNat

/-- An unsigned number of 32 bits. -/
def uint32? (json : Json) : Option UInt32 :=
  (json.intBetween? 0 (UInt32.size - 1)).map fun value => UInt32.ofNat value.toNat

/-- A signed number of 64 bits. -/
def int64? (json : Json) : Option Int64 :=
  (json.intBetween? Int64.minValue.toInt Int64.maxValue.toInt).map Int64.ofInt

/-- A list of values of one form. -/
def list? (item? : Json → Option α) : Json → Option (List α)
  | .array items => items.mapM item?
  | _ => none

/-- A value of some form, or null. -/
def nullable? (value? : Json → Option α) : Json → Option (Option α)
  | .null => some none
  | json => (value? json).map some

/-! ## Records -/

/-- The fields of a record by name.  A field that the record does not have is not
among them. -/
abbrev Fields := List (String × Json)

/-- The fields of a record that are written in a JSON value.  An object may hold
other fields, any number of times, but none of the record's twice; an array may
leave out fields at the end. -/
def fields? (names : List String) : Json → Option Fields
  | .object fields => do
    let named ← fields.mapM fun (name, value) => name.map (·, value)
    let known := named.filter fun (name, _) => names.contains name
    if (known.map Prod.fst).Nodup then some known else none
  | .array items => if items.length ≤ names.length then some (names.zip items) else none
  | _ => none

namespace Fields

/-- The value of a field that must be there. -/
def required (fields : Fields) (name : String) (value? : Json → Option α) : Option α :=
  (fields.lookup name).bind value?

/-- The value of a field that may be left out. -/
def withDefault (fields : Fields) (name : String) (value? : Json → Option α) (fallback : α) :
    Option α :=
  match fields.lookup name with
  | some json => value? json
  | none => some fallback

/-- The value of a field that may be left out or null. -/
def optional (fields : Fields) (name : String) (value? : Json → Option α) :
    Option (Option α) :=
  fields.withDefault name (nullable? value?) none

end Fields

/-! ## Cases -/

/-- The name of a case that carries nothing.  Written as an object, the one field
holds a value that stands for nothing. -/
def caseName? (isNothing : Json → Bool) : Json → Option String
  | .string name => name
  | .object [(name, value)] => if isNothing value then name else none
  | _ => none

/-- Only null stands for nothing. -/
def isNull : Json → Bool
  | .null => true
  | _ => false

/-- Null and, inside a tagged record, the empty object stand for nothing. -/
def isNullOrEmpty : Json → Bool
  | .null | .object [] => true
  | _ => false

/-- The name and the content of a case that carries something. -/
def caseContent? : Json → Option (String × Json)
  | .object [(name, value)] => name.map (·, value)
  | _ => none

/-! ## Tagged records -/

mutual

/-- Whether everything in a value denotes something, and arrays and objects are
nested at most `depth` deep. -/
def isComplete : Nat → Json → Bool
  | _, .null | _, .bool _ => true
  | _, .number value => value != .outOfRange
  | _, .string value => value.isSome
  | 0, .array _ | 0, .object _ => false
  | depth + 1, .array items => areComplete depth items
  | depth + 1, .object fields => fieldsComplete depth fields

/-- Whether all values of a list are complete. -/
def areComplete : Nat → List Json → Bool
  | _, [] => true
  | depth, item :: rest => isComplete depth item && areComplete depth rest

/-- Whether all fields of an object are complete. -/
def fieldsComplete : Nat → List (Option String × Json) → Bool
  | _, [] => true
  | depth, (name, value) :: rest =>
    name.isSome && isComplete depth value && fieldsComplete depth rest

end

/-- How deep arrays and objects of a text may be nested where they are read
before it is known what they are. -/
def depthLimit : Nat := 127

/-- The tag of a tagged record and the record without it.  All of the record is
read before its tag is known, so everything in it must denote something;
`depth` says how deep its fields may be nested. -/
def tagged? (tag : String) (depth : Nat) : Json → Option (String × Json)
  | .object fields =>
    match fields.partition (·.1 = some tag) with
    | ([(_, .string (some kind))], rest) =>
      if fieldsComplete depth rest then some (kind, .object rest) else none
    | _ => none
  | .array (.string (some kind) :: rest) =>
    if areComplete depth rest then some (kind, .array rest) else none
  | _ => none

end SchemaDdl.Json
