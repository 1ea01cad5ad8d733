/-!
# Dotted names

A name is a sequence of parts separated by dots.  Each part is a delimited
identifier, cut to the length that Firebird could store before its version 4,
except a lone star, which stands for every column and is written bare.

Delimited identifiers and string literals are written alike: the text stands between two
quotes, and a quote inside it is written twice.  The rule is stated once, for either
quote character.
-/

namespace SchemaDdl

namespace Quoted

/-- The text with every `quote` written twice and all else once. -/
def double (quote : Char) : List Char → List Char
  | [] => []
  | c :: rest =>
    if c = quote then quote :: quote :: double quote rest else c :: double quote rest

/-- The text between two quotes, inner quotes doubled. -/
def enclose (quote : Char) (text : List Char) : List Char :=
  quote :: double quote text ++ [quote]

theorem double_append (quote : Char) (a b : List Char) :
    double quote (a ++ b) = double quote a ++ double quote b := by
  induction a with
  | nil => rfl
  | cons c a ih => by_cases h : c = quote <;> simp [double, h, ih]

end Quoted

/-- The number of characters the engine keeps of an identifier. -/
def identifierLimit : Nat := 31

/-- The text cut to the characters the engine keeps. -/
def cut (text : String) : String :=
  String.ofList (text.toList.take identifierLimit)

/-- One part of a dotted name. -/
inductive NamePart
  /-- Every column: written bare. -/
  | star
  /-- An identifier, written between double quotes. -/
  | delimited (content : List Char)
deriving DecidableEq, Repr

namespace NamePart

/-- The part written for one segment: the cut happens before the quoting, so a
doubled quote does not count against the limit. -/
def ofSegment (segment : List Char) : NamePart :=
  if segment = ['*'] then star else delimited (segment.take identifierLimit)

def chars : NamePart → List Char
  | star => ['*']
  | delimited content => Quoted.enclose '"' content

end NamePart

/-- A dotted name, as its parts. -/
abbrev Name := List NamePart

namespace Name

/-- The name a text stands for: one part for each dot-separated segment. -/
def ofString (text : String) : Name :=
  (text.toList.splitOn '.').map NamePart.ofSegment

/-- The characters of the name: its parts with dots between them. -/
def chars (name : Name) : List Char :=
  ['.'].intercalate (name.map NamePart.chars)

end Name

end SchemaDdl
