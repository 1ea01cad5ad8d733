import SchemaDdl.Table.Ddl

/-!
# Sequence plans

A sequence that stands for itself, not behind a column of a table, and the commands to
run on it.

A sequence starts at 0 and counts by 1 unless its statements say otherwise, so
those two clauses are left out.
-/

namespace SchemaDdl

/-- A command on a sequence. -/
inductive SequenceCommand
  | create
  | alter
  | drop
  /-- Drop the sequence as far as it exists. -/
  | dropIfExists
deriving DecidableEq, Repr

/-- A change to a sequence. -/
structure SequencePlan where
  /-- The name of the sequence, without prefix. -/
  sequence : String
  /-- The value to start, or restart, with. -/
  start : Option Int64 := none
  increment : Int64 := 1
  /-- Whether altering the sequence restarts it. -/
  restart : Bool := false
  commands : List SequenceCommand := []
deriving DecidableEq, Repr

def SequencePlan.withCommand (plan : SequencePlan) (command : SequenceCommand) : SequencePlan :=
  { plan with commands := plan.commands ++ [command] }

/-! ## Statements -/

namespace SequencePlan

variable (settings : Settings) (plan : SequencePlan)

/-- The name of the plan's sequence in statements. -/
def name : Name := settings.qualified plan.sequence

/-- The clause for the first value of a new sequence. -/
def startClause : Sql :=
  match plan.start with
  | some start => if start = 0 then [] else [.plain " START WITH ", .integer start.toInt]
  | none => []

/-- The clause for the step. -/
def incrementClause : Sql :=
  if plan.increment = 1 then [] else [.plain " INCREMENT BY ", .integer plan.increment.toInt]

/-- The clause that restarts a sequence, at a given value if there is one. -/
def restartClause : Sql :=
  if plan.restart then
    match plan.start with
    | some start => [.plain " RESTART", .plain " WITH ", .integer start.toInt]
    | none => [.plain " RESTART"]
  else []

/-- Drops the sequence. -/
def dropStatement : Sql := dropSequence (plan.name settings)

/-- The statement of a command on a sequence that has a name. -/
def compileNamed : SequenceCommand → Statement
  | .create =>
    .single ([.plain "CREATE SEQUENCE ", .name (plan.name settings)] ++
      plan.startClause ++ plan.incrementClause)
  | .alter =>
    .single ([.plain "ALTER SEQUENCE ", .name (plan.name settings)] ++
      plan.restartClause ++ plan.incrementClause)
  | .drop => .single (plan.dropStatement settings)
  | .dropIfExists =>
    GuardedDrop.block
      [⟨.generator, settings.catalogName plan.sequence, plan.dropStatement settings⟩]

def compile (command : SequenceCommand) : Except SchemaError Statement :=
  if plan.sequence.isEmpty then .error .emptySequenceName
  else .ok (plan.compileNamed settings command)

def statements : Except SchemaError (List Statement) :=
  plan.commands.mapM (plan.compile settings)

end SequencePlan

end SchemaDdl
