import SchemaDdl.Binary64.Basic

/-!
# Columns

A column as a schema describes it, apart from any dialect.
-/

namespace SchemaDdl

inductive ColumnType
  | char (length : UInt32)
  | string (length : UInt32)
  | text
  | mediumText
  | longText
  | integer
  | bigInteger
  | mediumInteger
  | tinyInteger
  | smallInteger
  | float
  | double
  /-- A decimal number with `places` of its `total` digits after the point. -/
  | decimal (total places : UInt8)
  | numeric
  | boolean
  /-- A string out of a list of allowed values. -/
  | enumeration (allowed : List String)
  | json
  | jsonb
  | date
  | dateTime
  | time
  | timeTz
  | timestamp
  | timestampTz
  | binary
  | uuid
  | ipAddress
  | macAddress
deriving DecidableEq, Repr

/-- The integer types, the only ones that can number rows by themselves. -/
def ColumnType.isInteger : ColumnType → Bool
  | integer | bigInteger | mediumInteger | tinyInteger | smallInteger => true
  | _ => false

/-- The value a column takes when a row gives none. -/
inductive DefaultValue
  | bool (value : Bool)
  | integer (value : Int64)
  | real (value : Binary64)
  | string (value : String)
  /-- An SQL expression, passed through as it stands. -/
  | expression (sql : String)
deriving DecidableEq, Repr

/-- Only an infinity or not-a-number fails to be finite. -/
def DefaultValue.isFinite : DefaultValue → Bool
  | real value => value.isFinite
  | _ => true

structure Column where
  name : String
  type : ColumnType
  nullable : Bool := false
  defaultValue : Option DefaultValue := none
  autoIncrement : Bool := false
  charset : Option String := none
  collation : Option String := none
  /-- On timestamps only: the default is the current time. -/
  useCurrent : Bool := false
deriving DecidableEq, Repr

namespace Column

/-- The length of strings for which none is chosen. -/
def standardLength : UInt32 := 255

/-- An integer key that numbers the rows. -/
def increments (name : String) : Column := { name, type := .integer, autoIncrement := true }

/-- A big integer key that numbers the rows. -/
def bigIncrements (name : String) : Column :=
  { name, type := .bigInteger, autoIncrement := true }

/-- A string of the standard length. -/
def string (name : String) : Column := { name, type := .string standardLength }

/-- A decimal number with `places` of its `total` digits after the point. -/
def decimal (name : String) (total places : UInt8) : Column :=
  { name, type := .decimal total places }

/-- A string out of a list of allowed values. -/
def enumeration (name : String) (allowed : List String) : Column :=
  { name, type := .enumeration allowed }

/-- Whether the column numbers the rows: it asks to, and its type can. -/
def isSerial (column : Column) : Bool := column.autoIncrement && column.type.isInteger

end Column

end SchemaDdl
