import SchemaDdl.CommandLine.Run

/-!
# The program

Compiles descriptions of tables and sequences into statements and prints them.
Nothing is decided here: the arguments, the environment and the files are
fetched and the outcome is written.
-/

namespace SchemaDdl.CommandLine

/-- The text of a file, or what the system says if there is none. -/
def readText (path : String) : IO (Except String String) := do
  try
    match String.fromUTF8? (← IO.FS.readBinFile path) with
    | some text => return .ok text
    | none => return .error "stream did not contain valid UTF-8"
  catch error =>
    return .error error.toString

/-- Fetches what a list of names stands for. -/
def fetch (get : String → IO α) (names : List String) : IO (List (String × α)) :=
  names.mapM fun name => return (name, ← get name)

/-- What the system says of the first file that it does not give. -/
def complaint (texts : List (String × Except String String)) : String :=
  (texts.findSome? fun
    | (_, .error words) => some words
    | (_, .ok _) => none).getD ""

end SchemaDdl.CommandLine

open SchemaDdl.CommandLine in
/-- Runs the program. -/
def main (arguments : List String) : IO UInt32 := do
  let names := [OptionName.config, .tablePrefix, .identity].filterMap Options.environmentName?
  let environment ← fetch (fun name => IO.getEnv name) names
  let reply := reply (fun name => (environment.lookup name).join) arguments
  let paths :=
    match reply with
    | .accepted request => request.paths
    | _ => []
  let texts ← fetch readText paths
  let files := fun path => (texts.lookup path).bind Except.toOption
  let cause := fun
    | .unreadable => complaint texts
    | _ => "no value of the expected shape"
  let outcome := reply.outcome files cause
  IO.print outcome.output
  if let some message := outcome.message then
    IO.eprintln ("Error: " ++ message)
  return UInt32.ofNat outcome.exitCode
