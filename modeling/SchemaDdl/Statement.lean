import SchemaDdl.Sql.Text

/-!
# Statements and scripts

What a command compiles to: one statement, or one procedural block that runs
several.  A script hands statements to the interactive tool of the engine.
Blocks and triggers hold semicolons, so the script changes the terminator for
its length.
-/

namespace SchemaDdl

/-- A unit of compiled SQL. -/
inductive Statement
  | single (sql : Sql)
  /-- A procedural block, executed as one unit. -/
  | block (sql : Sql)
deriving DecidableEq, Repr

namespace Statement

def sql : Statement → Sql
  | single sql | block sql => sql

def text (statement : Statement) : String := statement.sql.text

def isBlock : Statement → Bool
  | single _ => false
  | block _ => true

end Statement

namespace Script

/-- Ends each statement of a script. -/
def terminator : Char := '^'

/-- Makes `terminator` the terminator. -/
def header : String := "SET TERM ^ ;\n\n"

/-- Gives the terminator back. -/
def footer : String := "SET TERM ; ^\n"

def chars (statements : List Statement) : List Char :=
  header.toList ++
    statements.flatMap (fun statement => statement.sql.chars ++ [terminator, '\n', '\n']) ++
    footer.toList

def text (statements : List Statement) : String := String.ofList (chars statements)

end Script

end SchemaDdl
