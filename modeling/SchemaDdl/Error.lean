/-!
# Compilation errors

A model that lacks something its statement needs compiles to no SQL at all.
Tables are named without their prefix.
-/

namespace SchemaDdl

inductive CommandKind
  | create
  | drop
  | add
  | primary
  | unique
  | index
  | foreign
  | dropForeign
  | createGenerator
  | dropGenerator
  | generatorTrigger
deriving DecidableEq, Repr

/-- The name of a kind of command in messages. -/
def CommandKind.text : CommandKind → String
  | create => "create"
  | drop => "drop"
  | add => "add"
  | primary => "primary"
  | unique => "unique"
  | index => "index"
  | foreign => "foreign"
  | dropForeign => "dropForeign"
  | createGenerator => "createSequenceForTable"
  | dropGenerator => "dropSequenceForTable"
  | generatorTrigger => "triggerForAutoincrement"

/-- Why a model compiles to no statement. -/
inductive SchemaError
  /-- A foreign key names no table that it references. -/
  | missingReferencedTable (table constraint : String)
  /-- A foreign key names no columns that it references. -/
  | missingReferencedColumns (table constraint : String)
  /-- A command that works on columns was given none. -/
  | emptyColumns (command : CommandKind) (table : String)
  /-- A constraint or an index is named by the empty text. -/
  | emptyName (command : CommandKind) (table : String)
  /-- A trigger has no column to fill. -/
  | missingTriggerColumn (table : String)
  /-- An enumeration allows no value. -/
  | emptyEnumeration (column : String)
  /-- A default is an infinity or not a number, which has no literal. -/
  | nonFiniteDefault (column : String)
  /-- A sequence is named by the empty text. -/
  | emptySequenceName
deriving DecidableEq, Repr

def SchemaError.message : SchemaError → String
  | missingReferencedTable table constraint =>
    "Foreign key '" ++ constraint ++ "' on table '" ++ table ++ "' has no referenced table"
  | missingReferencedColumns table constraint =>
    "Foreign key '" ++ constraint ++ "' on table '" ++ table ++ "' has no referenced columns"
  | emptyColumns command table =>
    command.text ++ " command on table '" ++ table ++ "' has no columns"
  | emptyName command table =>
    command.text ++ " command on table '" ++ table ++ "' has an empty name"
  | missingTriggerColumn table =>
    "Auto-increment trigger for table '" ++ table ++ "' has no target column"
  | emptyEnumeration column => "Enum column '" ++ column ++ "' has no allowed values"
  | nonFiniteDefault column => "Column '" ++ column ++ "' has a non-finite float default"
  | emptySequenceName => "Sequence name cannot be empty"

end SchemaDdl
