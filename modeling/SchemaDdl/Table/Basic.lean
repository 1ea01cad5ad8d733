import SchemaDdl.Column.Basic
import SchemaDdl.Error
import SchemaDdl.Settings

/-!
# Table plans

A plan describes one change to one table: the columns it creates or adds and
the commands to run, in order.  Besides the commands given, some follow from the
columns and the identity mode: columns that no command creates or adds are added, and in
emulated mode creating a table with a serial column also creates its generator and
trigger, and dropping a table also drops them, unless the plan says so itself.
-/

namespace SchemaDdl

/-- What happens to referencing rows when the referenced one goes or changes. -/
inductive ReferentialAction
  | noAction
  | cascade
  | setNull
  | setDefault
deriving DecidableEq, Repr

/-- A foreign key.  The referenced table and columns may be missing from a
description; such a key does not compile. -/
structure ForeignKey where
  /-- The name of the constraint; one is generated if there is none. -/
  name : Option String := none
  columns : List String
  on : Option String := none
  references : List String := []
  onDelete : Option ReferentialAction := none
  onUpdate : Option ReferentialAction := none
deriving DecidableEq, Repr

inductive TableCommand
  /-- Create the table with all columns of the plan. -/
  | create
  | drop
  /-- Add all columns of the plan to the table. -/
  | add
  | primary (columns : List String)
  | unique (name : Option String) (columns : List String)
  | index (name : Option String) (columns : List String)
  | foreign (key : ForeignKey)
  | dropForeign (name : String)
  /-- Create the generator of an emulated serial column. -/
  | createGenerator
  /-- Drop the generator and the trigger of the table, as far as they exist. -/
  | dropGenerator
  /-- Create the trigger that fills a column from the generator. -/
  | generatorTrigger (column : String)
deriving DecidableEq, Repr

def TableCommand.kind : TableCommand → CommandKind
  | create => .create
  | drop => .drop
  | add => .add
  | primary _ => .primary
  | unique .. => .unique
  | index .. => .index
  | foreign _ => .foreign
  | dropForeign _ => .dropForeign
  | createGenerator => .createGenerator
  | dropGenerator => .dropGenerator
  | generatorTrigger _ => .generatorTrigger

/-- A change to a table. -/
structure TablePlan where
  /-- The name of the table, without prefix. -/
  table : String
  /-- Whether the table is a global temporary one. -/
  temporary : Bool := false
  /-- On temporary tables: whether rows outlive a commit. -/
  preserve : Bool := false
  /-- The identity mode, if the plan chooses one itself. -/
  identity : Option IdentityMode := none
  columns : List Column := []
  commands : List TableCommand := []
deriving DecidableEq, Repr

namespace TablePlan

def withColumn (plan : TablePlan) (column : Column) : TablePlan :=
  { plan with columns := plan.columns ++ [column] }

def withCommand (plan : TablePlan) (command : TableCommand) : TablePlan :=
  { plan with commands := plan.commands ++ [command] }

/-- The identity mode in effect: the plan's own, else that of the settings. -/
def mode (settings : Settings) (plan : TablePlan) : IdentityMode :=
  plan.identity.getD settings.identity

def isCreating (plan : TablePlan) : Bool := plan.commands.contains .create

/-- The first column that numbers the rows. -/
def serialColumn? (plan : TablePlan) : Option Column := plan.columns.find? Column.isSerial

end TablePlan

/-! ## Implied commands -/

/-- The commands with `extra` put directly after the first `target`. -/
def insertAfter (target : TableCommand) (extra : List TableCommand) :
    List TableCommand → List TableCommand
  | [] => []
  | command :: rest =>
    if command = target then command :: extra ++ rest
    else command :: insertAfter target extra rest

namespace TablePlan

/-- The commands of the plan, after an `add` if its columns call for one. -/
def withImpliedAdd (plan : TablePlan) : List TableCommand :=
  if plan.columns.isEmpty || plan.isCreating || plan.commands.contains .add then plan.commands
  else .add :: plan.commands

/-- The commands with those that set up the generator of a created table. -/
def withImpliedGenerator (plan : TablePlan) (commands : List TableCommand) :
    List TableCommand :=
  match plan.serialColumn? with
  | none => commands
  | some column =>
    if commands.contains .createGenerator then commands
    else insertAfter .create [.createGenerator, .generatorTrigger column.name] commands

/-- The commands with the one that removes the generator of a dropped table. -/
def withImpliedRemoval (commands : List TableCommand) : List TableCommand :=
  if commands.contains .dropGenerator then commands
  else insertAfter .drop [.dropGenerator] commands

/-- The commands to compile: those of the plan and those that they imply. -/
def allCommands (plan : TablePlan) : IdentityMode → List TableCommand
  | .native => plan.withImpliedAdd
  | .emulated => withImpliedRemoval (plan.withImpliedGenerator plan.withImpliedAdd)

end TablePlan

end SchemaDdl
