import SchemaDdl.Json.Number

/-!
# Reading JSON

A reader for exactly the texts of the JSON grammar: four blanks, no comments, no
commas at the end of a list, nothing after the value.
-/

namespace SchemaDdl.Json.Reader

/-- Drops the blanks at the head of a text. -/
def skipBlanks (text : List Char) : List Char :=
  text.dropWhile fun c => c = ' ' || c = '\t' || c = '\n' || c = '\r'

/-! ## Strings -/

/-- A part of a string: a character, or the UTF-16 code unit of an escape. -/
inductive StringItem
  | char (c : Char)
  | unit (code : Nat)

/-- The value of a hexadecimal digit. -/
def hexDigit? (c : Char) : Option Nat :=
  if '0' ≤ c ∧ c ≤ '9' then some (c.toNat - '0'.toNat)
  else if 'a' ≤ c ∧ c ≤ 'f' then some (c.toNat - 'a'.toNat + 10)
  else if 'A' ≤ c ∧ c ≤ 'F' then some (c.toNat - 'A'.toNat + 10)
  else none

/-- The code unit of four hexadecimal digits. -/
def codeUnit? (a b c d : Char) : Option Nat := do
  return ((16 * (← hexDigit? a) + (← hexDigit? b)) * 16 + (← hexDigit? c)) * 16 + (← hexDigit? d)

/-- The character of a one-letter escape. -/
def simpleEscape? : Char → Option Char
  | '"' => some '"'
  | '\\' => some '\\'
  | '/' => some '/'
  | 'b' => some '\x08'
  | 'f' => some '\x0c'
  | 'n' => some '\n'
  | 'r' => some '\r'
  | 't' => some '\t'
  | _ => none

/-- The items of a string up to its closing quote, and the text after it. -/
def stringItems : List Char → Option (List StringItem × List Char)
  | [] => none
  | '"' :: rest => some ([], rest)
  | '\\' :: 'u' :: a :: b :: c :: d :: rest => do
    let code ← codeUnit? a b c d
    let (items, rest) ← stringItems rest
    return (.unit code :: items, rest)
  | '\\' :: letter :: rest => do
    let c ← simpleEscape? letter
    let (items, rest) ← stringItems rest
    return (.char c :: items, rest)
  | c :: rest =>
    if c = '\\' ∨ c.toNat < 0x20 then none
    else do
      let (items, rest) ← stringItems rest
      return (.char c :: items, rest)

/-- The characters that the items of a string denote; half of a surrogate pair
denotes none. -/
def assemble? : List StringItem → Option (List Char)
  | [] => some []
  | .char c :: rest => (assemble? rest).map (c :: ·)
  | .unit high :: .unit low :: rest =>
    if 0xD800 ≤ high ∧ high < 0xDC00 then
      if 0xDC00 ≤ low ∧ low < 0xE000 then
        let code := 0x10000 + (high - 0xD800) * 0x400 + (low - 0xDC00)
        (assemble? rest).map (Char.ofNat code :: ·)
      else none
    else if 0xDC00 ≤ high ∧ high < 0xE000 then none
    else (assemble? (.unit low :: rest)).map (Char.ofNat high :: ·)
  | .unit code :: rest =>
    if 0xD800 ≤ code ∧ code < 0xE000 then none
    else (assemble? rest).map (Char.ofNat code :: ·)

/-- The string after its opening quote, and the text after it. -/
def string? (text : List Char) : Option (Option String × List Char) := do
  let (items, rest) ← stringItems text
  return ((assemble? items).map String.ofList, rest)

/-! ## Numbers -/

/-- The digits at the head of a text, at least one, and the text after them. -/
def digits? (text : List Char) : Option (List Char × List Char) :=
  match text.takeWhile Char.isDigit with
  | [] => none
  | digits => some (digits, text.dropWhile Char.isDigit)

/-- The fraction at the head of a text, if there is one. -/
def fraction? : List Char → Option (Option (List Char) × List Char)
  | '.' :: rest => (digits? rest).map fun (digits, rest) => (some digits, rest)
  | text => some (none, text)

/-- The digits of an exponent after its letter, and whether it is negative. -/
def exponentDigits? (text : List Char) : Option (Option (Bool × List Char) × List Char) :=
  let (negative, text) :=
    match text with
    | '-' :: rest => (true, rest)
    | '+' :: rest => (false, rest)
    | text => (false, text)
  (digits? text).map fun (digits, rest) => (some (negative, digits), rest)

/-- The exponent at the head of a text, if there is one. -/
def exponent? : List Char → Option (Option (Bool × List Char) × List Char)
  | 'e' :: rest | 'E' :: rest => exponentDigits? rest
  | text => some (none, text)

/-- The number literal at the head of a text; no zero stands before another
digit. -/
def number? (text : List Char) : Option (NumberLiteral × List Char) := do
  let (negative, text) :=
    match text with
    | '-' :: rest => (true, rest)
    | text => (false, text)
  let (whole, text) ← digits? text
  if whole.head? = some '0' ∧ whole.length ≠ 1 then none
  let (fraction, text) ← fraction? text
  let (exponent, text) ← exponent? text
  return (⟨negative, whole, fraction, exponent⟩, text)

/-! ## Values -/

mutual

/-- The value at the head of a text, and the text after it. -/
def value? : Nat → List Char → Option (Json × List Char)
  | 0, _ => none
  | fuel + 1, text =>
    match skipBlanks text with
    | 'n' :: 'u' :: 'l' :: 'l' :: rest => some (.null, rest)
    | 't' :: 'r' :: 'u' :: 'e' :: rest => some (.bool true, rest)
    | 'f' :: 'a' :: 'l' :: 's' :: 'e' :: rest => some (.bool false, rest)
    | '"' :: rest => do
      let (content, rest) ← string? rest
      return (.string content, rest)
    | '[' :: rest =>
      match skipBlanks rest with
      | ']' :: rest => some (.array [], rest)
      | rest => do
        let (items, rest) ← items? fuel rest
        return (.array items, rest)
    | '{' :: rest =>
      match skipBlanks rest with
      | '}' :: rest => some (.object [], rest)
      | rest => do
        let (fields, rest) ← fields? fuel rest
        return (.object fields, rest)
    | text => do
      let (literal, rest) ← number? text
      return (.number literal.value, rest)

/-- The items of an array that is not empty, up to its closing bracket. -/
def items? : Nat → List Char → Option (List Json × List Char)
  | 0, _ => none
  | fuel + 1, text => do
    let (item, rest) ← value? fuel text
    match skipBlanks rest with
    | ']' :: rest => return ([item], rest)
    | ',' :: rest =>
      let (items, rest) ← items? fuel rest
      return (item :: items, rest)
    | _ => none

/-- The fields of an object that is not empty, up to its closing brace. -/
def fields? : Nat → List Char → Option (List (Option String × Json) × List Char)
  | 0, _ => none
  | fuel + 1, text =>
    match skipBlanks text with
    | '"' :: rest => do
      let (name, rest) ← string? rest
      match skipBlanks rest with
      | ':' :: rest =>
        let (value, rest) ← value? fuel rest
        match skipBlanks rest with
        | '}' :: rest => return ([(name, value)], rest)
        | ',' :: rest =>
          let (fields, rest) ← fields? fuel rest
          return ((name, value) :: fields, rest)
        | _ => none
      | _ => none
    | _ => none

end

end SchemaDdl.Json.Reader

/-- The value that a text denotes.  Every second step of the reader consumes a
character, which bounds the number of its steps. -/
def SchemaDdl.Json.read? (text : String) : Option Json :=
  let chars := text.toList
  match Reader.value? (2 * chars.length + 2) chars with
  | some (value, rest) => if (Reader.skipBlanks rest).isEmpty then some value else none
  | none => none
