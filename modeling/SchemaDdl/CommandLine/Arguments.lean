/-!
# Arguments

Command-line arguments are options, introduced by dashes, and operands.  Options
have a letter and a word; some take a value, in the same argument or in the next
one.  The first operand of the program is a command with options of its own, so
from there on others are known; after the command for help there are none, and
every argument is an operand, dashes or not.
-/

namespace SchemaDdl.CommandLine

/-- An option that is known somewhere on the command line. -/
inductive OptionName
  | config
  | tablePrefix
  | identity
  | verbose
  | version
  | help
  | table
deriving DecidableEq, Repr

namespace OptionName

def letter : OptionName → Char
  | config => 'c'
  | tablePrefix => 'p'
  | identity => 'i'
  | verbose => 'v'
  | version => 'V'
  | help => 'h'
  | table => 't'

def word : OptionName → String
  | config => "config"
  | tablePrefix => "prefix"
  | identity => "identity"
  | verbose => "verbose"
  | version => "version"
  | help => "help"
  | table => "table"

def takesValue : OptionName → Bool
  | config | tablePrefix | identity | table => true
  | verbose | version | help => false

/-- The options before a command. -/
def ofProgram : List OptionName :=
  [config, tablePrefix, identity, verbose, version, help]

/-- The options after a command. -/
def ofCommand (command : String) : List OptionName :=
  if command = "probe" then [table, help] else [help]

end OptionName

/-- What an argument contributes. -/
inductive Item
  | option (name : OptionName)
  | setting (name : OptionName) (value : String)
  | operand (text : String)
  /-- An operand after the mark that ends the options. -/
  | markedOperand (text : String)
  /-- An argument that is no option and no operand. -/
  | malformed
deriving DecidableEq, Repr

/-- What an argument of options leaves open: the option whose value is still to
come, if there is one. -/
structure Reading where
  items : List Item
  awaiting : Option OptionName := none

/-- Reads the letters after a single dash.  The letter of an option with a value
is followed by the value, with or without an equals sign. -/
def readLetters (known : List OptionName) : List Char → Reading
  | [] => { items := [] }
  | c :: rest =>
    match known.find? (·.letter = c) with
    | none => { items := [.malformed] }
    | some name =>
      if name.takesValue then
        match rest with
        | [] => { items := [], awaiting := some name }
        | '=' :: value => { items := [.setting name (String.ofList value)] }
        | value => { items := [.setting name (String.ofList value)] }
      else
        let reading := readLetters known rest
        { reading with items := .option name :: reading.items }

/-- Reads a word after two dashes, and the value after its equals sign. -/
def readWord (known : List OptionName) (text : List Char) : Reading :=
  let word := text.takeWhile (· ≠ '=')
  match known.find? (·.word.toList = word), text.drop word.length with
  | none, _ => { items := [.malformed] }
  | some name, [] =>
    if name.takesValue then { items := [], awaiting := some name }
    else { items := [.option name] }
  | some name, _ :: value =>
    if name.takesValue then { items := [.setting name (String.ofList value)] }
    else { items := [.malformed] }

/-- Whether an argument starts as an option does; a lone dash does not. -/
def startsAsOption (argument : String) : Bool :=
  match argument.toList with
  | '-' :: _ :: _ => true
  | _ => false

/-- The items of a list of arguments, where some options are known. -/
def items (known : List OptionName) (inCommand : Bool) : List String → List Item
  | [] => []
  | argument :: rest =>
    if argument = "--" then rest.map .markedOperand
    else if startsAsOption argument then
      let reading :=
        match argument.toList with
        | '-' :: '-' :: word => readWord known word
        | letters => readLetters known (letters.drop 1)
      match reading.awaiting with
      | none => reading.items ++ items known inCommand rest
      | some name =>
        match rest with
        | [] => reading.items ++ [.malformed]
        | value :: rest =>
          if startsAsOption value then reading.items ++ [.malformed]
          else reading.items ++ .setting name value :: items known inCommand rest
    else if inCommand then .operand argument :: items known true rest
    else if argument = "help" then .operand argument :: rest.map .operand
    else .operand argument :: items (OptionName.ofCommand argument) true rest

end SchemaDdl.CommandLine
