import SchemaDdl.CommandLine.Request
import SchemaDdl.Json.Reader
import SchemaDdl.Sequence.Ddl
import SchemaDdl.Sequence.Json
import SchemaDdl.Table.Json

/-!
# Running a request

The settings are loaded first, whatever the task.  Only a run without any
failure prints something.
-/

namespace SchemaDdl.CommandLine

/-- Why a run fails. -/
inductive Failure
  /-- A file is missing, or its bytes are no text. -/
  | unreadable
  /-- A file holds no model of the kind that is asked for. -/
  | undecodable (path : String)
  | schema (error : SchemaError)
  /-- A column probe needs a table. -/
  | tableRequired
deriving DecidableEq, Repr

/-- The message of a failure.  Where the system or the reader of values is behind it, their
own words about the `cause` end the message. -/
def Failure.message (cause : String) : Failure → String
  | unreadable => "IO error: " ++ cause
  | undecodable path => "Failed to parse '" ++ path ++ "': " ++ cause
  | schema error => error.message
  | tableRequired => "--table is required for the column probe"

/-- The texts of the files, by path. -/
abbrev Files := String → Option String

/-- The model in a file. -/
def load (files : Files) (decode? : Json → Option α) (path : String) : Except Failure α := do
  let some text := files path | .error .unreadable
  let some model := (Json.read? text).bind decode? | .error (.undecodable path)
  return model

/-- The settings of a run: those of the file, if one is named, with the options
in the place of what they override. -/
def settings (files : Files) (options : Options) : Except Failure Settings := do
  let base ←
    match options.config with
    | some path => load files Settings.ofJson? path
    | none => .ok {}
  return {
    tablePrefix := options.tablePrefix.getD base.tablePrefix
    identity := options.identity.getD base.identity }

/-- The query of a probe. -/
def probe (settings : Settings) (table : Option String) : ProbeKind → Except Failure Sql
  | .table => .ok CatalogObject.table.probe
  | .sequence => .ok CatalogObject.generator.probe
  | .trigger => .ok CatalogObject.trigger.probe
  | .column =>
    match table with
    | some table => .ok (columnProbe settings table)
    | none => .error .tableRequired

def Task.run (files : Files) (settings : Settings) : Task → Except Failure String
  | compile file => do
    let plan ← load files TablePlan.ofJson? file
    let statements ← (plan.statements settings).mapError .schema
    return Script.text statements
  | sequence file => do
    let plan ← load files SequencePlan.ofJson? file
    let statements ← (plan.statements settings).mapError .schema
    return Script.text statements
  | probe kind table => do
    let query ← CommandLine.probe settings table kind
    return query.text ++ "\n"

def Request.run (files : Files) (request : Request) : Except Failure String := do
  request.task.run files (← settings files request.options)

/-- The paths of the files that a request may read. -/
def Request.paths (request : Request) : List String :=
  request.options.config.toList ++
    match request.task with
    | .compile file | .sequence file => [file]
    | .probe .. => []

/-- The line that names the program and its version. -/
def versionLine : String := "oxide-firebird 0.1.0\n"

/-- How a run ends. -/
structure Outcome where
  exitCode : Nat
  output : String := ""
  message : Option String := none
deriving DecidableEq, Repr

/-- The outcome for what the arguments amount to, with the words of others for the cause
of a failure.  The help, and the complaint about arguments that are not understood, are
worded by the parser of the arguments; their texts are left out. -/
def Reply.outcome (files : Files) (cause : Failure → String) : Reply → Outcome
  | .accepted request =>
    match request.run files with
    | .ok output => { exitCode := 0, output }
    | .error failure => { exitCode := 1, message := some (failure.message (cause failure)) }
  | .version => { exitCode := 0, output := versionLine }
  | .help => { exitCode := 0 }
  | .rejected => { exitCode := 2 }

def outcome (environment : String → Option String) (files : Files)
    (cause : Failure → String) (arguments : List String) : Outcome :=
  (reply environment arguments).outcome files cause

end SchemaDdl.CommandLine
