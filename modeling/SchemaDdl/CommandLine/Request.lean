import SchemaDdl.CommandLine.Arguments
import SchemaDdl.Settings

/-!
# Requests

What the arguments and the environment ask for.  Items are taken in order, and
the first one that is out of place, or that ends the reading by asking for the
version or for help, decides.
-/

namespace SchemaDdl.CommandLine

/-- What a probe looks for. -/
inductive ProbeKind
  | table
  | column
  | sequence
  | trigger
deriving DecidableEq, Repr

/-- The kind with a name. -/
def ProbeKind.ofName? : String → Option ProbeKind
  | "table" => some table
  | "column" => some column
  | "sequence" => some sequence
  | "trigger" => some trigger
  | _ => none

/-- What is to be done. -/
inductive Task
  | compile (file : String)
  | sequence (file : String)
  /-- Print a query of the catalog. -/
  | probe (kind : ProbeKind) (table : Option String)
deriving DecidableEq, Repr

/-- The options before the command. -/
structure Options where
  config : Option String := none
  /-- Takes the place of the prefix in the settings. -/
  tablePrefix : Option String := none
  /-- Takes the place of the identity mode in the settings. -/
  identity : Option IdentityMode := none
  verbose : Bool := false
deriving DecidableEq, Repr

structure Request where
  options : Options
  task : Task
deriving DecidableEq, Repr

/-- What the arguments amount to. -/
inductive Reply
  | accepted (request : Request)
  | version
  | help
  /-- The arguments are not understood. -/
  | rejected
deriving DecidableEq, Repr

/-- A path of a file, which is not empty. -/
def path? (text : String) : Option String := if text.isEmpty then none else some text

/-- A value for something that has none yet. -/
def once (current : Option α) (value : Option α) : Option (Option α) :=
  if current.isSome then none else value.map some

namespace Options

/-- The options with one more set, unless it is set already or the value is not
one of its own. -/
def set? (options : Options) (name : OptionName) (value : String) : Option Options :=
  match name with
  | .config => (once options.config (path? value)).map ({ options with config := · })
  | .tablePrefix => (once options.tablePrefix (some value)).map ({ options with tablePrefix := · })
  | .identity =>
    (once options.identity (IdentityMode.parse value).toOption).map
      ({ options with identity := · })
  | _ => none

/-- The variable of the environment behind an option. -/
def environmentName? : OptionName → Option String
  | .config => some "OXIDE_FIREBIRD_CONFIG"
  | .tablePrefix => some "OXIDE_FIREBIRD_PREFIX"
  | .identity => some "OXIDE_FIREBIRD_IDENTITY"
  | _ => none

def isSet (options : Options) : OptionName → Bool
  | .config => options.config.isSome
  | .tablePrefix => options.tablePrefix.isSome
  | .identity => options.identity.isSome
  | _ => true

/-- The options with those taken from the environment that the arguments do not
set; the variables of the others are not looked at. -/
def complete? (environment : String → Option String) (options : Options) : Option Options :=
  [OptionName.config, .tablePrefix, .identity].foldlM (fun options name =>
    match (environmentName? name).bind environment with
    | some value => if options.isSet name then some options else options.set? name value
    | none => some options) options

end Options

/-- The task of a command that takes one file, from the items after it. -/
def readFile (task : String → Task) : Option String → List Item → Except Reply Task
  | some file, [] => .ok (task file)
  | none, .operand file :: rest | none, .markedOperand file :: rest =>
    match path? file with
    | some file => readFile task (some file) rest
    | none => .error .rejected
  | _, .option .help :: _ => .error .help
  | _, _ => .error .rejected

/-- The task of a probe, from the items after its command. -/
def readProbe : Option ProbeKind → Option String → List Item → Except Reply Task
  | some kind, table, [] => .ok (.probe kind table)
  | none, table, .operand kind :: rest | none, table, .markedOperand kind :: rest =>
    match ProbeKind.ofName? kind with
    | some kind => readProbe (some kind) table rest
    | none => .error .rejected
  | kind, none, .setting .table name :: rest => readProbe kind (some name) rest
  | _, _, .option .help :: _ => .error .help
  | _, _, _ => .error .rejected

def commandNames : List String := ["compile", "sequence", "probe", "help"]

/-- What comes of asking for help on some items: there is help on the program and
on each of its commands, which have no commands of their own. -/
def helpOn : List Item → Reply
  | [] => .help
  | [.operand command] => if command ∈ commandNames then .help else .rejected
  | _ => .rejected

/-- The task of a command, from the items after it. -/
def readTask (command : String) (rest : List Item) : Except Reply Task :=
  match command with
  | "compile" => readFile .compile none rest
  | "sequence" => readFile .sequence none rest
  | "probe" => readProbe none none rest
  | "help" => .error (helpOn rest)
  | _ => .error .rejected

/-- The request of the items of a command line. -/
def readRequest (options : Options) : List Item → Except Reply Request
  | [] => .error .rejected
  | .option .verbose :: rest =>
    if options.verbose then .error .rejected else readRequest { options with verbose := true } rest
  | .option .version :: _ => .error .version
  | .option .help :: _ => .error .help
  | .setting name value :: rest =>
    match options.set? name value with
    | some options => readRequest options rest
    | none => .error .rejected
  | .operand command :: rest => do return ⟨options, ← readTask command rest⟩
  | _ => .error .rejected

/-- What the arguments ask for, in an environment. -/
def reply (environment : String → Option String) (arguments : List String) : Reply :=
  match readRequest {} (items OptionName.ofProgram false arguments) with
  | .error reply => reply
  | .ok request =>
    match request.options.complete? environment with
    | some options => .accepted { request with options }
    | none => .rejected

end SchemaDdl.CommandLine
