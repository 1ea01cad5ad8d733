import SchemaDdl.Binary64.Basic
import SchemaDdl.Column.Basic
import SchemaDdl.Json.Record

/-!
# Columns as JSON
-/

namespace SchemaDdl

namespace ColumnType

/-- The name of a type in a description. -/
def label : ColumnType → String
  | char _ => "char"
  | string _ => "string"
  | text => "text"
  | mediumText => "medium_text"
  | longText => "long_text"
  | integer => "integer"
  | bigInteger => "big_integer"
  | mediumInteger => "medium_integer"
  | tinyInteger => "tiny_integer"
  | smallInteger => "small_integer"
  | float => "float"
  | double => "double"
  | decimal .. => "decimal"
  | numeric => "numeric"
  | boolean => "boolean"
  | enumeration _ => "enum"
  | json => "json"
  | jsonb => "jsonb"
  | date => "date"
  | dateTime => "date_time"
  | time => "time"
  | timeTz => "time_tz"
  | timestamp => "timestamp"
  | timestampTz => "timestamp_tz"
  | binary => "binary"
  | uuid => "uuid"
  | ipAddress => "ip_address"
  | macAddress => "mac_address"

/-- The types that carry nothing beside their name. -/
def bareTypes : List ColumnType :=
  [text, mediumText, longText, integer, bigInteger, mediumInteger, tinyInteger, smallInteger,
    float, double, numeric, boolean, json, jsonb, date, dateTime, time, timeTz, timestamp,
    timestampTz, binary, uuid, ipAddress, macAddress]

/-- The type that carries nothing and has a given name. -/
def ofLabel? (label : String) : Option ColumnType := bareTypes.find? (·.label = label)

/-- The type as JSON: its name, with what it carries if it carries anything. -/
def toJson (type : ColumnType) : Json :=
  match type with
  | char length | string length => .record [(type.label, .int length.toNat)]
  | decimal total places =>
    .record [(type.label,
      .record [("total", .int total.toNat), ("places", .int places.toNat)])]
  | enumeration allowed => .record [(type.label, .array (allowed.map Json.text))]
  | _ => .text type.label

/-- The type that carries the content of a case. -/
def ofContent? (kind : String) (content : Json) : Option ColumnType :=
  match kind with
  | "char" => content.uint32?.map char
  | "string" => content.uint32?.map string
  | "decimal" => do
    let fields ← content.fields? ["total", "places"]
    return decimal (← fields.required "total" Json.uint8?) (← fields.required "places" Json.uint8?)
  | "enum" => (content.list? Json.text?).map enumeration
  | _ => none

def ofJson? (value : Json) : Option ColumnType :=
  ((value.caseName? Json.isNull).bind ofLabel?).or
    (value.caseContent?.bind fun (kind, content) => ofContent? kind content)

end ColumnType

def Binary64.ofJson? : Json → Option Binary64
  | .number (.integer value) => ofInt? value
  | .number (.real value) => some value
  | _ => none

namespace DefaultValue

/-- The default as JSON.  An infinity or not-a-number becomes null. -/
def toJson : DefaultValue → Json
  | bool value => .record [("bool", .bool value)]
  | integer value => .record [("integer", .int value.toInt)]
  | real value =>
    .record [("float", if value.isFinite then .number (.real value) else .null)]
  | string value => .record [("string", .text value)]
  | expression sql => .record [("expression", .text sql)]

def ofJson? (value : Json) : Option DefaultValue := do
  match ← value.caseContent? with
  | ("bool", content) => content.bool?.map bool
  | ("integer", content) => content.int64?.map integer
  | ("float", content) => (Binary64.ofJson? content).map real
  | ("string", content) => content.text?.map string
  | ("expression", content) => content.text?.map expression
  | _ => none

end DefaultValue

/-- An optional value as JSON, null if it is absent. -/
def Json.ofOption (toJson : α → Json) : Option α → Json
  | some value => toJson value
  | none => .null

namespace Column

def fieldNames : List String :=
  ["name", "type", "nullable", "default", "auto_increment", "charset", "collation",
    "use_current"]

def toJson (column : Column) : Json :=
  .record [
    ("name", .text column.name),
    ("type", column.type.toJson),
    ("nullable", .bool column.nullable),
    ("default", .ofOption DefaultValue.toJson column.defaultValue),
    ("auto_increment", .bool column.autoIncrement),
    ("charset", .ofOption .text column.charset),
    ("collation", .ofOption .text column.collation),
    ("use_current", .bool column.useCurrent)]

def ofJson? (json : Json) : Option Column := do
  let fields ← json.fields? fieldNames
  return {
    name := ← fields.required "name" Json.text?
    type := ← fields.required "type" ColumnType.ofJson?
    nullable := ← fields.withDefault "nullable" Json.bool? false
    defaultValue := ← fields.optional "default" DefaultValue.ofJson?
    autoIncrement := ← fields.withDefault "auto_increment" Json.bool? false
    charset := ← fields.optional "charset" Json.text?
    collation := ← fields.optional "collation" Json.text?
    useCurrent := ← fields.withDefault "use_current" Json.bool? false }

end Column

end SchemaDdl
