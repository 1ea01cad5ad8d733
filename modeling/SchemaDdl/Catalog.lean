import SchemaDdl.Settings
import SchemaDdl.Statement

/-!
# The system catalog

Queries that ask the catalog whether an object exists, and the block that drops
objects only if the catalog lists them.
-/

namespace SchemaDdl

/-- The kinds of objects that the catalog is asked for by name alone. -/
inductive CatalogObject
  | table
  | generator
  | trigger
deriving DecidableEq, Repr

namespace CatalogObject

/-- The catalog table that lists objects of a kind. -/
def listing : CatalogObject → String
  | table => "RDB$RELATIONS"
  | generator => "RDB$GENERATORS"
  | trigger => "RDB$TRIGGERS"

/-- The column of the listing that holds the object's name. -/
def nameColumn : CatalogObject → String
  | table => "RDB$RELATION_NAME"
  | generator => "RDB$GENERATOR_NAME"
  | trigger => "RDB$TRIGGER_NAME"

/-- Everything up to the name that is looked for. -/
def selection (object : CatalogObject) : Sql :=
  [.plain "SELECT * FROM ", .plain object.listing, .plain " WHERE ",
    .plain object.nameColumn, .plain " = "]

/-- The query for an object whose name is bound later. -/
def probe (object : CatalogObject) : Sql := object.selection ++ [.plain "?"]

end CatalogObject

/-- The query that lists the columns of a table. -/
def columnProbe (settings : Settings) (table : String) : Sql :=
  [.plain "SELECT TRIM(RDB$FIELD_NAME) AS ", .name [.delimited "column_name".toList],
    .plain " FROM RDB$RELATION_FIELDS WHERE RDB$RELATION_NAME = ",
    .literal (settings.catalogName table)]

/-- A drop that happens only if the catalog lists the object. -/
structure GuardedDrop where
  object : CatalogObject
  /-- The name that the catalog is asked for. -/
  catalogName : String
  statement : Sql

namespace GuardedDrop

/-- The guarded drop inside a block. -/
def sql (drop : GuardedDrop) : Sql :=
  .plain "  IF (EXISTS(" :: drop.object.selection ++
    [.literal drop.catalogName, .plain ")) THEN\n    EXECUTE STATEMENT ",
      .literal drop.statement.text, .plain ";"]

/-- The block of some guarded drops, in order. -/
def block (drops : List GuardedDrop) : Statement :=
  .block (.plain "EXECUTE BLOCK\nAS\nBEGIN\n" ::
    Sql.separated "\n" (drops.map sql) ++ [.plain "\nEND"])

end GuardedDrop

end SchemaDdl
