import SchemaDdl.Json.Record
import SchemaDdl.Settings

/-!
# Settings as JSON
-/

namespace SchemaDdl

namespace IdentityMode

/-- The mode with a name, letter by letter. -/
def ofName? (name : String) : Option IdentityMode :=
  [emulated, native].find? (·.text = name)

def toJson (mode : IdentityMode) : Json := .text mode.text

def ofJson? (json : Json) : Option IdentityMode :=
  (json.caseName? Json.isNull).bind ofName?

end IdentityMode

namespace Settings

def fieldNames : List String := ["table_prefix", "identity"]

def toJson (settings : Settings) : Json :=
  .record [("table_prefix", .text settings.tablePrefix), ("identity", settings.identity.toJson)]

/-- The settings that a JSON value denotes.  Every field may be left out. -/
def ofJson? (json : Json) : Option Settings := do
  let fields ← json.fields? fieldNames
  return {
    tablePrefix := ← fields.withDefault "table_prefix" Json.text? ""
    identity := ← fields.withDefault "identity" IdentityMode.ofJson? .emulated }

end Settings

end SchemaDdl
