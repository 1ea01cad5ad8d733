import SchemaDdl.Column.Basic
import SchemaDdl.Error
import SchemaDdl.Settings
import SchemaDdl.Sql.Text

/-!
# Column definitions

The clause that defines a column: its name, the type of the dialect and the
modifiers in their fixed order.
-/

namespace SchemaDdl

/-- The literal of a default; a truth value is kept as one character. -/
def DefaultValue.sql : DefaultValue → Sql
  | bool value => [.literal (if value then "1" else "0")]
  | integer value => [.integer value.toInt]
  | real value => [.real value]
  | string value => [.literal value]
  | expression sql => [.verbatim sql]

namespace Column

def sized (type : String) (length : Nat) : Sql :=
  [.plain type, .plain "(", .integer length, .plain ")"]

/-- A type with a number of digits and of places after the point. -/
def scaled (type : String) (total places : Nat) : Sql :=
  [.plain type, .plain "(", .integer total, .plain ", ", .integer places, .plain ")"]

/-- A type of the dialect that carries a check: the column's own name against
the list of allowed values. -/
def checked (name : String) (allowed : List String) : Sql :=
  sized "VARCHAR" 255 ++
    [.plain " CHECK (", .name (.ofString name), .plain " IN ("] ++
    Sql.separated ", " (allowed.map fun value => [.literal value]) ++
    [.plain "))"]

/-- The type of the dialect for a column.  Truth values, documents and
identifiers have no type of their own and are kept as text. -/
def typeSql (column : Column) : Except SchemaError Sql :=
  match column.type with
  | .char length => .ok (sized "CHAR" length.toNat)
  | .string length => .ok (sized "VARCHAR" length.toNat)
  | .text | .mediumText | .longText => .ok [.plain "BLOB SUB_TYPE TEXT"]
  | .integer | .mediumInteger => .ok [.plain "INTEGER"]
  | .bigInteger => .ok [.plain "BIGINT"]
  | .tinyInteger | .smallInteger => .ok [.plain "SMALLINT"]
  | .float => .ok [.plain "FLOAT"]
  | .double => .ok [.plain "DOUBLE PRECISION"]
  | .decimal total places => .ok (scaled "DECIMAL" total.toNat places.toNat)
  | .numeric => .ok (scaled "NUMERIC" 15 2)
  | .boolean => .ok (sized "CHAR" 1)
  | .enumeration [] => .error (.emptyEnumeration column.name)
  | .enumeration allowed => .ok (checked column.name allowed)
  | .json => .ok (sized "VARCHAR" 8191)
  | .jsonb => .ok (sized "VARCHAR" 8191 ++ [.plain " CHARACTER SET OCTETS"])
  | .date => .ok [.plain "DATE"]
  | .dateTime => .ok [.plain "TIMESTAMP"]
  | .time | .timeTz => .ok [.plain "TIME"]
  | .timestamp | .timestampTz =>
    .ok (.plain "TIMESTAMP" ::
      if column.useCurrent then [.plain " DEFAULT CURRENT_TIMESTAMP"] else [])
  | .binary => .ok [.plain "BLOB SUB_TYPE BINARY"]
  | .uuid => .ok (sized "CHAR" 36)
  | .ipAddress => .ok (sized "VARCHAR" 45)
  | .macAddress => .ok (sized "VARCHAR" 17)

/-- A clause that may follow the type. -/
inductive Modifier
  | charset
  | collate
  /-- The key clause of a serial column. -/
  | increment
  | nullable
  | default
deriving DecidableEq, Repr

namespace Modifier

/-- The modifiers in the order in which they are written. -/
def inOrder : List Modifier := [charset, collate, increment, nullable, default]

def text : Modifier → String
  | charset => "Charset"
  | collate => "Collate"
  | increment => "Increment"
  | nullable => "Nullable"
  | default => "Default"

/-- The clause of a modifier, if the column has one. -/
def sql? (mode : IdentityMode) (column : Column) : Modifier → Option Sql
  | charset => column.charset.map fun charset => [.plain " CHARACTER SET ", .verbatim charset]
  | collate => column.collation.map fun collation => [.plain " COLLATE ", .verbatim collation]
  | increment =>
    if column.isSerial then
      match mode with
      | .native => some [.plain " GENERATED BY DEFAULT AS IDENTITY PRIMARY KEY"]
      | .emulated => some [.plain " PRIMARY KEY"]
    else none
  | nullable => if column.nullable then none else some [.plain " NOT NULL"]
  | default => column.defaultValue.map fun value => .plain " DEFAULT " :: value.sql

end Modifier

def modifiers (mode : IdentityMode) (column : Column) : Sql :=
  (Modifier.inOrder.filterMap (Modifier.sql? mode column)).flatten

/-- The definition of a column.  A default without a literal is reported before
anything that is wrong with the type. -/
def definition (mode : IdentityMode) (column : Column) : Except SchemaError Sql :=
  if column.defaultValue.all DefaultValue.isFinite then do
    let type ← column.typeSql
    return [.name (.ofString column.name), .plain " "] ++ type ++ column.modifiers mode
  else .error (.nonFiniteDefault column.name)

end Column

end SchemaDdl
