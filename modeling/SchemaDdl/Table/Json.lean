import SchemaDdl.Column.Json
import SchemaDdl.Settings.Json
import SchemaDdl.Table.Basic

/-!
# Table plans as JSON
-/

namespace SchemaDdl

namespace ReferentialAction

/-- The name of an action in a description. -/
def label : ReferentialAction → String
  | noAction => "no_action"
  | cascade => "cascade"
  | setNull => "set_null"
  | setDefault => "set_default"

/-- The action with a name. -/
def ofLabel? (label : String) : Option ReferentialAction :=
  [noAction, cascade, setNull, setDefault].find? (·.label = label)

def toJson (action : ReferentialAction) : Json := .text action.label

def ofJson? (isNothing : Json → Bool) (json : Json) : Option ReferentialAction :=
  (json.caseName? isNothing).bind ofLabel?

end ReferentialAction

def Json.texts (values : List String) : Json := .array (values.map Json.text)

def Json.texts? (json : Json) : Option (List String) := json.list? Json.text?

namespace ForeignKey

def fieldNames : List String :=
  ["index", "columns", "on", "references", "on_delete", "on_update"]

/-- The fields of a foreign key.  A name is written only if there is one. -/
def toFields (key : ForeignKey) : List (String × Json) :=
  (key.name.map fun name => ("index", Json.text name)).toList ++ [
    ("columns", .texts key.columns),
    ("on", .ofOption .text key.on),
    ("references", .texts key.references),
    ("on_delete", .ofOption ReferentialAction.toJson key.onDelete),
    ("on_update", .ofOption ReferentialAction.toJson key.onUpdate)]

def toJson (key : ForeignKey) : Json := .record key.toFields

def ofJson? (isNothing : Json → Bool) (json : Json) : Option ForeignKey := do
  let fields ← json.fields? fieldNames
  return {
    name := ← fields.optional "index" Json.text?
    columns := ← fields.required "columns" Json.texts?
    on := ← fields.optional "on" Json.text?
    references := ← fields.withDefault "references" Json.texts? []
    onDelete := ← fields.optional "on_delete" (ReferentialAction.ofJson? isNothing)
    onUpdate := ← fields.optional "on_update" (ReferentialAction.ofJson? isNothing) }

end ForeignKey

namespace TableCommand

/-- The name of the command in a description. -/
def label : TableCommand → String
  | create => "create"
  | drop => "drop"
  | add => "add"
  | primary _ => "primary"
  | unique .. => "unique"
  | index .. => "index"
  | foreign _ => "foreign"
  | dropForeign _ => "drop_foreign"
  | createGenerator => "create_sequence_for_table"
  | dropGenerator => "drop_sequence_for_table"
  | generatorTrigger _ => "trigger_for_autoincrement"

/-- The fields of a command beside its name. -/
def toFields : TableCommand → List (String × Json)
  | primary columns => [("columns", .texts columns)]
  | unique name columns | index name columns =>
    (name.map fun name => ("index", Json.text name)).toList ++ [("columns", .texts columns)]
  | foreign key => key.toFields
  | dropForeign name => [("index", .text name)]
  | generatorTrigger column => [("column", .text column)]
  | create | drop | add | createGenerator | dropGenerator => []

def toJson (command : TableCommand) : Json :=
  .record (("command", .text command.label) :: command.toFields)

/-- The command of a kind that carries nothing.  Fields beside its name are passed
over; written as an array, it has none. -/
def bare? (command : TableCommand) : Json → Option TableCommand
  | .array (_ :: _) => none
  | _ => some command

/-- The name and the columns of a key or an index. -/
def nameAndColumns? (rest : Json) : Option (Option String × List String) := do
  let fields ← rest.fields? ["index", "columns"]
  return (← fields.optional "index" Json.text?, ← fields.required "columns" Json.texts?)

/-- The command with a given name whose other fields are written in `rest`. -/
def ofLabel? (label : String) (rest : Json) : Option TableCommand :=
  match label with
  | "create" => bare? create rest
  | "drop" => bare? drop rest
  | "add" => bare? add rest
  | "primary" => do
    return primary (← (← rest.fields? ["columns"]).required "columns" Json.texts?)
  | "unique" => (nameAndColumns? rest).map fun (name, columns) => unique name columns
  | "index" => (nameAndColumns? rest).map fun (name, columns) => index name columns
  | "foreign" => (ForeignKey.ofJson? Json.isNullOrEmpty rest).map foreign
  | "drop_foreign" => do
    return dropForeign (← (← rest.fields? ["index"]).required "index" Json.text?)
  | "create_sequence_for_table" => bare? createGenerator rest
  | "drop_sequence_for_table" => bare? dropGenerator rest
  | "trigger_for_autoincrement" => do
    return generatorTrigger (← (← rest.fields? ["column"]).required "column" Json.text?)
  | _ => none

/-- The command that a JSON value denotes; its fields may be nested `depth` deep. -/
def ofJson? (depth : Nat) (json : Json) : Option TableCommand := do
  let (label, rest) ← json.tagged? "command" depth
  ofLabel? label rest

end TableCommand

namespace TablePlan

def fieldNames : List String :=
  ["table", "temporary", "preserve", "identity", "columns", "commands"]

def toJson (plan : TablePlan) : Json :=
  .record [
    ("table", .text plan.table),
    ("temporary", .bool plan.temporary),
    ("preserve", .bool plan.preserve),
    ("identity", .ofOption IdentityMode.toJson plan.identity),
    ("columns", .array (plan.columns.map Column.toJson)),
    ("commands", .array (plan.commands.map TableCommand.toJson))]

/-- The plan that a JSON value denotes.  Its commands stand three levels deep. -/
def ofJson? (json : Json) : Option TablePlan := do
  let fields ← json.fields? fieldNames
  let command? := TableCommand.ofJson? (Json.depthLimit - 3)
  return {
    table := ← fields.required "table" Json.text?
    temporary := ← fields.withDefault "temporary" Json.bool? false
    preserve := ← fields.withDefault "preserve" Json.bool? false
    identity := ← fields.optional "identity" IdentityMode.ofJson?
    columns := ← fields.withDefault "columns" (Json.list? Column.ofJson?) []
    commands := ← fields.withDefault "commands" (Json.list? command?) [] }

end TablePlan

end SchemaDdl
