import SchemaDdl.Binary64.Basic

/-!
# JSON values

The values of JSON as a text denotes them.  Objects keep their fields in order,
repeated ones included.  Two kinds of literals are well formed and still denote
nothing: a number past the range of double precision, and a string with an
escape for half of a surrogate pair.  They are kept, since they do no harm in a
place that nobody reads.
-/

namespace SchemaDdl

/-- What a number literal denotes. -/
inductive JsonNumber
  /-- An integer that fits 64 bits, signed or unsigned. -/
  | integer (value : Int)
  | real (value : Binary64)
  /-- A number past the range of double precision. -/
  | outOfRange
deriving DecidableEq, Repr

/-- A JSON value.  A string that denotes no text is `none`. -/
inductive Json
  | null
  | bool (value : Bool)
  | number (value : JsonNumber)
  | string (value : Option String)
  | array (items : List Json)
  | object (fields : List (Option String × Json))

namespace Json

/-- A string that denotes a text. -/
def text (value : String) : Json := .string (some value)

def int (value : Int) : Json := .number (.integer value)

/-- An object of named fields. -/
def record (fields : List (String × Json)) : Json :=
  .object (fields.map fun (name, value) => (some name, value))

end Json

end SchemaDdl
