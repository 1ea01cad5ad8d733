import SchemaDdl.Sql.Name
import SchemaDdl.Text.LetterCase

/-!
# Settings

What every compilation shares: a prefix for the names of tables and sequences,
and the way auto-increment columns are realised.  The prefix is part of every name that
is generated for a table: those of its generator and its trigger, and those of constraints
and indexes without a name of their own.
-/

namespace SchemaDdl

/-- How auto-increment columns are realised. -/
inductive IdentityMode
  /-- A plain primary key, filled by a generator and a trigger. -/
  | emulated
  /-- An identity column of the engine. -/
  | native
deriving DecidableEq, Repr

namespace IdentityMode

def text : IdentityMode → String
  | emulated => "emulated"
  | native => "native"

/-- The message for a word that names no mode. -/
def unknownMessage (word : String) : String :=
  "unknown identity mode '" ++ word ++ "' (expected 'emulated' or 'native')"

/-- The mode a user names, in any case of ASCII letters; a word that names none is
reported in small letters. -/
def parse (word : String) : Except String IdentityMode :=
  let small := String.ofList (word.toList.map Char.toLower)
  if small ∈ ["emulated", "sequence", "trigger"] then .ok emulated
  else if small ∈ ["native", "identity"] then .ok native
  else .error (unknownMessage small)

end IdentityMode

/-- A dash or a dot becomes an underscore. -/
def underscored (c : Char) : Char := if c = '-' ∨ c = '.' then '_' else c

/-- The table, the columns and the kind joined by underscores, in small letters
and without dashes and dots. -/
def indexName (table kind : String) (columns : List String) : String :=
  let joined := table ++ "_" ++ "_".intercalate columns ++ "_" ++ kind
  String.ofList ((LetterCase.lowercase joined.toList).map underscored)

/-- The settings of a compilation. -/
structure Settings where
  /-- Written before the names of tables and sequences. -/
  tablePrefix : String := ""
  /-- The mode of tables that choose none themselves. -/
  identity : IdentityMode := .emulated
deriving DecidableEq, Repr

namespace Settings

/-- A name with the prefix before it. -/
def prefixed (settings : Settings) (name : String) : String :=
  settings.tablePrefix ++ name

/-- The name under which statements mention a table or sequence. -/
def qualified (settings : Settings) (name : String) : Name :=
  .ofString (settings.prefixed name)

/-- The name under which the system catalog lists a table or sequence. -/
def catalogName (settings : Settings) (name : String) : String :=
  cut (settings.prefixed name)

/-- The name of the generator that numbers the rows of a table. -/
def generatorName (settings : Settings) (table : String) : String :=
  cut ("GEN_" ++ settings.prefixed table ++ "_ID")

/-- The name of the trigger that fills the serial column of a table. -/
def triggerName (settings : Settings) (table : String) : String :=
  cut ("TR_" ++ settings.prefixed table ++ "_BI")

/-- The name generated for an index of a table.  Names of constraints and
indexes are global to a database, so the prefix is part of it. -/
def indexName (settings : Settings) (table kind : String) (columns : List String) :
    String :=
  SchemaDdl.indexName (settings.prefixed table) kind columns

end Settings

end SchemaDdl
