import SchemaDdl.Binary64.Shortest
import SchemaDdl.Sql.Name

/-!
# SQL text

A statement is held as the pieces it is put together from, so that what the
dialect fixes, what is quoted and what the model passes through stay apart.
Only the written form forgets the difference.
-/

namespace SchemaDdl

/-- A piece of SQL text. -/
inductive SqlPiece
  /-- Keywords and punctuation of the dialect; they hold no quote. -/
  | plain (text : String)
  | name (parts : Name)
  | literal (value : String)
  | integer (value : Int)
  | real (value : Binary64)
  /-- Text of the model, written as it stands. -/
  | verbatim (text : String)
deriving DecidableEq, Repr

def SqlPiece.chars : SqlPiece → List Char
  | .plain text | .verbatim text => text.toList
  | .name parts => parts.chars
  | .literal value => Quoted.enclose '\'' value.toList
  | .integer value => Decimal.ofInt value
  | .real value => value.chars

/-- SQL text, as its pieces. -/
abbrev Sql := List SqlPiece

namespace Sql

def chars (sql : Sql) : List Char := sql.flatMap SqlPiece.chars

def text (sql : Sql) : String := String.ofList sql.chars

/-- The texts one after another, with `separator` between neighbours. -/
def separated (separator : String) (parts : List Sql) : Sql :=
  [SqlPiece.plain separator].intercalate parts

/-- The names of a list of columns, separated by commas. -/
def columnNames (columns : List String) : Sql :=
  separated ", " (columns.map fun column => [.name (.ofString column)])

@[simp]
theorem chars_nil : chars [] = [] := rfl

@[simp]
theorem chars_cons (piece : SqlPiece) (sql : Sql) :
    chars (piece :: sql) = piece.chars ++ chars sql := rfl

@[simp]
theorem chars_append (a b : Sql) : chars (a ++ b) = chars a ++ chars b :=
  List.flatMap_append

end Sql

end SchemaDdl
