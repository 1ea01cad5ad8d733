import SchemaDdl.Catalog
import SchemaDdl.Column.Definition
import SchemaDdl.Table.Basic

/-!
# Compiling table plans

Each command of a plan compiles to exactly one statement of the Firebird dialect.
A plan compiles to the statements of all its commands, implied ones included, or
to the first error among them.
-/

namespace SchemaDdl

/-- The action as it stands in a constraint. -/
def ReferentialAction.text : ReferentialAction → String
  | noAction => "NO ACTION"
  | cascade => "CASCADE"
  | setNull => "SET NULL"
  | setDefault => "SET DEFAULT"

def dropTrigger (trigger : String) : Sql :=
  [.plain "DROP TRIGGER ", .name (.ofString trigger)]

/-- The statement that drops a sequence, under the name it was created with. -/
def dropSequence (sequence : Name) : Sql := [.plain "DROP SEQUENCE ", .name sequence]

namespace TablePlan

/-- Refuses a command on no columns. -/
def requireColumns (plan : TablePlan) (command : CommandKind) (columns : List α) :
    Except SchemaError Unit :=
  if columns.isEmpty then .error (.emptyColumns command plan.table) else .ok ()

/-- Refuses an object without a name. -/
def requireName (plan : TablePlan) (command : CommandKind) (name : String) :
    Except SchemaError Unit :=
  if name.isEmpty then .error (.emptyName command plan.table) else .ok ()

variable (settings : Settings) (plan : TablePlan)

def tableName : Name := settings.qualified plan.table

/-- The name of an index: the one given, else a generated one. -/
def chosenName (kind : CommandKind) (given : Option String) (columns : List String) : String :=
  given.getD (settings.indexName plan.table kind.text columns)

def definitions : Except SchemaError (List Sql) :=
  plan.columns.mapM (Column.definition (plan.mode settings))

def createTable : Except SchemaError Sql := do
  plan.requireColumns .create plan.columns
  let definitions ← plan.definitions settings
  let opening := if plan.temporary then "CREATE GLOBAL TEMPORARY TABLE " else "CREATE TABLE "
  let closing :=
    if plan.temporary then
      [.plain (if plan.preserve then " ON COMMIT PRESERVE ROWS" else " ON COMMIT DELETE ROWS")]
    else []
  return [.plain opening, .name (plan.tableName settings), .plain " ("] ++
    Sql.separated ", " definitions ++ [.plain ")"] ++ closing

def dropTable : Sql := [.plain "DROP TABLE ", .name (plan.tableName settings)]

/-- The opening of every statement that alters the table. -/
def alterTable : Sql := [.plain "ALTER TABLE ", .name (plan.tableName settings)]

/-- Adds every column of the plan by one statement. -/
def addColumns : Except SchemaError Sql := do
  plan.requireColumns .add plan.columns
  let definitions ← plan.definitions settings
  return plan.alterTable settings ++ [.plain " "] ++
    Sql.separated ", " (definitions.map (.plain "ADD " :: ·))

def addPrimaryKey (columns : List String) : Except SchemaError Sql := do
  plan.requireColumns .primary columns
  return plan.alterTable settings ++ [.plain " ADD PRIMARY KEY ("] ++
    Sql.columnNames columns ++ [.plain ")"]

def addUnique (given : Option String) (columns : List String) : Except SchemaError Sql := do
  let name := plan.chosenName settings .unique given columns
  plan.requireName .unique name
  plan.requireColumns .unique columns
  return plan.alterTable settings ++
    [.plain " ADD CONSTRAINT ", .name (.ofString name), .plain " UNIQUE ("] ++
    Sql.columnNames columns ++ [.plain ")"]

/-- Creates an index, which is an object of its own and not part of the table. -/
def createIndex (given : Option String) (columns : List String) : Except SchemaError Sql := do
  let name := plan.chosenName settings .index given columns
  plan.requireName .index name
  plan.requireColumns .index columns
  return [.plain "CREATE INDEX ", .name (.ofString name), .plain " ON ",
      .name (plan.tableName settings), .plain " ("] ++
    Sql.columnNames columns ++ [.plain ")"]

/-- The table a foreign key references; the empty name counts as none. -/
def referencedTable (key : ForeignKey) (name : String) : Except SchemaError String :=
  match key.on with
  | some table =>
    if table.isEmpty then .error (.missingReferencedTable plan.table name) else .ok table
  | none => .error (.missingReferencedTable plan.table name)

def addForeignKey (key : ForeignKey) : Except SchemaError Sql := do
  let name := plan.chosenName settings .foreign key.name key.columns
  plan.requireName .foreign name
  plan.requireColumns .foreign key.columns
  let table ← plan.referencedTable key name
  if key.references.isEmpty then .error (.missingReferencedColumns plan.table name)
  let action (event : String) : Option ReferentialAction → Sql
    | some action => [.plain event, .plain action.text]
    | none => []
  return plan.alterTable settings ++
    [.plain " ADD CONSTRAINT ", .name (.ofString name), .plain " FOREIGN KEY ("] ++
    Sql.columnNames key.columns ++
    [.plain ") REFERENCES ", .name (settings.qualified table), .plain " ("] ++
    Sql.columnNames key.references ++ [.plain ")"] ++
    action " ON DELETE " key.onDelete ++ action " ON UPDATE " key.onUpdate

def dropForeignKey (name : String) : Except SchemaError Sql := do
  plan.requireName .dropForeign name
  return plan.alterTable settings ++ [.plain " DROP CONSTRAINT ", .name (.ofString name)]

def generator : Name := .ofString (settings.generatorName plan.table)

def trigger : Name := .ofString (settings.triggerName plan.table)

def createGenerator : Sql := [.plain "CREATE SEQUENCE ", .name (plan.generator settings)]

/-- Creates the trigger that fills a column from the generator, where a row
leaves it empty. -/
def createTrigger (column : String) : Except SchemaError Sql :=
  if column.isEmpty then .error (.missingTriggerColumn plan.table)
  else .ok [
    .plain "CREATE OR ALTER TRIGGER ", .name (plan.trigger settings),
    .plain " FOR ", .name (plan.tableName settings),
    .plain "\nACTIVE BEFORE INSERT\nAS\nBEGIN\n  IF (NEW.", .name (.ofString column),
    .plain " IS NULL) THEN\n    NEW.", .name (.ofString column),
    .plain " = GEN_ID(", .name (plan.generator settings), .plain ", 1);\nEND"]

/-- Drops the trigger, which needs the generator, and then the generator. -/
def dropGenerator : Statement :=
  let trigger := settings.triggerName plan.table
  let generator := settings.generatorName plan.table
  GuardedDrop.block [
    ⟨.trigger, trigger, dropTrigger trigger⟩,
    ⟨.generator, generator, dropSequence (.ofString generator)⟩]

def compile : TableCommand → Except SchemaError Statement
  | .create => .single <$> plan.createTable settings
  | .drop => .ok (.single (plan.dropTable settings))
  | .add => .single <$> plan.addColumns settings
  | .primary columns => .single <$> plan.addPrimaryKey settings columns
  | .unique name columns => .single <$> plan.addUnique settings name columns
  | .index name columns => .single <$> plan.createIndex settings name columns
  | .foreign key => .single <$> plan.addForeignKey settings key
  | .dropForeign name => .single <$> plan.dropForeignKey settings name
  | .createGenerator => .ok (.single (plan.createGenerator settings))
  | .dropGenerator => .ok (plan.dropGenerator settings)
  | .generatorTrigger column => .single <$> plan.createTrigger settings column

def statements : Except SchemaError (List Statement) :=
  (plan.allCommands (plan.mode settings)).mapM (plan.compile settings)

end TablePlan

end SchemaDdl
