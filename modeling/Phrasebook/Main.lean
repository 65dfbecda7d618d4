import Phrasebook.CommandLine

/-!
The program: runs the command that its arguments name on the files of the system.
-/

open Phrasebook

/-- The reason for a failure of the system. -/
def fileErrorOf (e : IO.Error) : FileError :=
  match e with
  | .noFileOrDirectory .. => .notFound
  | .noSuchThing .. => .notFound
  | .inappropriateType _ code _ => if code = 21 then .isDirectory else .notDirectory
  | _ => .other (toString e)

/-- The outcome of an action that may fail. -/
def outcomeOf (action : IO α) : IO (Except FileError α) := do
  try
    return .ok (← action)
  catch e =>
    return .error (fileErrorOf e)

/-- The system as a host. -/
instance : Host IO where
  isDirectory path := do
    try
      (← IO.FS.realPath path).isDir
    catch _ =>
      return false
  readText path := do
    match ← outcomeOf (IO.FS.readBinFile path) with
    | .error e => return .error e
    | .ok bytes =>
      match String.fromUTF8? bytes with
      | some text => return .ok text
      | none => return .error .invalidText
  writeText path text := outcomeOf (IO.FS.writeFile path text)
  print := IO.print
  warn := IO.eprint

/-- How the program is called. -/
def usageText : String :=
  "Usage: phrasebook [-v] <generate|check|lookup> [options]\n" ++
  "  generate [-i FILE] [-c FILE] [-l LANGUAGE] [-p PACKAGE] [-t TARGET=DIR]... [--strict]\n" ++
  "  check    -i FILE -l LANGUAGE\n" ++
  "  lookup   -i FILE -l LANGUAGE -k KEY [--language LANGUAGE] [-a ARG]...\n"

/-- Runs the program: 0 for success, 1 for a command that fails, 2 for words that are no command,
101 for a generation that breaks off. -/
def main (args : List String) : IO UInt32 := do
  match CommandLine.parse args with
  | .error .help =>
    IO.print usageText
    return 0
  | .error .version =>
    IO.println "phrasebook 0.1.0"
    return 0
  | .error _ =>
    IO.eprint usageText
    return 2
  | .ok command =>
    match ← (command.run : Command.Action IO Unit).run with
    | .ok () => return 0
    | .error (.generation .overflow) =>
      IO.eprintln GenerationError.overflow.message
      return 101
    | .error e =>
      IO.eprintln s!"❌ {e.message}"
      return 1
