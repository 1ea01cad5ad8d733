import SchemaDdl.Column.Json
import SchemaDdl.Sequence.Ddl

/-!
# Sequence plans as JSON
-/

namespace SchemaDdl

namespace SequenceCommand

/-- The name of the command in a description. -/
def label : SequenceCommand → String
  | create => "create"
  | alter => "alter"
  | drop => "drop"
  | dropIfExists => "drop_if_exists"

/-- The command with a name. -/
def ofLabel? (label : String) : Option SequenceCommand :=
  [create, alter, drop, dropIfExists].find? (·.label = label)

def toJson (command : SequenceCommand) : Json :=
  .record [("command", .text command.label)]

/-- The command that a JSON value denotes; its fields may be nested `depth` deep.
Fields beside its name are passed over; written as an array, it has none. -/
def ofJson? (depth : Nat) (json : Json) : Option SequenceCommand := do
  match ← json.tagged? "command" depth with
  | (_, .array (_ :: _)) => none
  | (label, _) => ofLabel? label

end SequenceCommand

namespace SequencePlan

def fieldNames : List String := ["sequence", "start", "increment", "restart", "commands"]

def toJson (plan : SequencePlan) : Json :=
  .record [
    ("sequence", .text plan.sequence),
    ("start", .ofOption (fun start => .int start.toInt) plan.start),
    ("increment", .int plan.increment.toInt),
    ("restart", .bool plan.restart),
    ("commands", .array (plan.commands.map SequenceCommand.toJson))]

/-- The plan that a JSON value denotes.  Its commands stand three levels deep. -/
def ofJson? (json : Json) : Option SequencePlan := do
  let fields ← json.fields? fieldNames
  let command? := SequenceCommand.ofJson? (Json.depthLimit - 3)
  return {
    sequence := ← fields.required "sequence" Json.text?
    start := ← fields.optional "start" Json.int64?
    increment := ← fields.withDefault "increment" Json.int64? 1
    restart := ← fields.withDefault "restart" Json.bool? false
    commands := ← fields.withDefault "commands" (Json.list? command?) [] }

end SequencePlan

end SchemaDdl
