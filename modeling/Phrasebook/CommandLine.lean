import Phrasebook.Command

/-!
# Command lines

`CommandLine.parse` reads the words of a command line as a `Command`.  The first word that is no
option names the command; the options that a command takes are listed in its `Grammar`.

An option is written `--name value`, `--name=value`, `-n value`, `-nvalue` or `-n=value`, and one
without a value `--name` or `-n`; single letters may share a hyphen.  A value does not start with a
hyphen unless it is joined to its option, except that a lone hyphen is a value.

An option whose value is the next word is *pending*: it is looked at when the next option comes or
the words end, while an unknown word is refused at once.  That settles which of two faults in a
command line is reported.
-/

namespace Phrasebook.CommandLine

/-! ## Faults -/

/-- Why the words of a command line are no command. -/
inductive Usage where
  /-- Help is asked for. -/
  | help
  /-- The version is asked for. -/
  | version
  /-- There are no words. -/
  | nothing
  /-- There are options, but no command. -/
  | noCommand
  /-- The word in the place of the command names none. -/
  | unknownCommand
  /-- A word is no option of the command. -/
  | unknownWord
  /-- An option that must be given is missing. -/
  | missingOption
  /-- An option is given twice that can be given once only. -/
  | repeated
  /-- The value of an option is missing, or a path is empty. -/
  | noValue
  /-- An option that takes no value has one. -/
  | needlessValue
  /-- A value is not what its option takes. -/
  | badValue
  deriving DecidableEq, Repr

/-! ## Options -/

/-- An option. -/
inductive Flag where
  /-- Asks for help. -/
  | help
  /-- Asks for the version. -/
  | version
  /-- Asks for log lines. -/
  | verbose
  /-- Refuses to leave keys out. -/
  | strict
  /-- The document. -/
  | input
  /-- The project file. -/
  | config
  /-- The default language. -/
  | defaultLanguage
  /-- The package of the Kotlin files. -/
  | package
  /-- An output directory. -/
  | target
  /-- The key to look up. -/
  | key
  /-- The language to look it up in. -/
  | language
  /-- An argument of the text. -/
  | arg
  deriving DecidableEq, Repr

namespace Flag

/-- The name of an option behind two hyphens. -/
def name : Flag → String
  | help => "help"
  | version => "version"
  | verbose => "verbose"
  | strict => "strict"
  | input => "input"
  | config => "config"
  | defaultLanguage => "default-language"
  | package => "package"
  | target => "target"
  | key => "key"
  | language => "language"
  | arg => "arg"

/-- The letter of an option behind one hyphen. -/
def letter? : Flag → Option Char
  | help => some 'h'
  | version => some 'V'
  | verbose => some 'v'
  | strict => none
  | input => some 'i'
  | config => some 'c'
  | defaultLanguage => some 'l'
  | package => some 'p'
  | target => some 't'
  | key => some 'k'
  | language => none
  | arg => some 'a'

/-- Whether an option has a value. -/
def takesValue : Flag → Bool
  | help => false
  | version => false
  | verbose => false
  | strict => false
  | _ => true

/-- Whether an option can be given more than once. -/
def repeats : Flag → Bool
  | target => true
  | arg => true
  | _ => false

/-- Refuses what an option does not take as its value. -/
def check (f : Flag) (value : String) : Except Usage Unit :=
  match f with
  | input => if value.isEmpty then .error .noValue else .ok ()
  | config => if value.isEmpty then .error .noValue else .ok ()
  | target => (readOutput value).mapError (fun _ => .badValue) |>.map fun _ => ()
  | _ => .ok ()

end Flag

/-- The options of a command. -/
structure Grammar where
  /-- All options. -/
  flags : List Flag
  /-- Those that must be given. -/
  required : List Flag

/-- The options in front of a command. -/
def topGrammar : Grammar := ⟨[.verbose, .help, .version], []⟩

/-! ## Reading options -/

/-- What has been given so far. -/
structure Given where
  /-- The options and their values, in order. -/
  options : List (Flag × String)
  /-- The pending option, with its value when that has come. -/
  pending : Option (Flag × Option String)

namespace Given

/-- Nothing. -/
def nothing : Given := ⟨[], none⟩

/-- Whether an option has been given. -/
def has (g : Given) (f : Flag) : Bool := (g.options.lookup f).isSome

/-- The value of an option. -/
def value? (g : Given) (f : Flag) : Option String := g.options.lookup f

/-- All values of an option. -/
def values (g : Given) (f : Flag) : List String :=
  g.options.filterMap fun e => if e.1 = f then some e.2 else none

/-- Adds an option with its value. -/
def record (g : Given) (f : Flag) (value : String) : Except Usage Given := do
  match f with
  | .help => throw .help
  | .version => throw .version
  | _ =>
    if !f.repeats && g.has f then throw .repeated
    f.check value
    return { g with options := g.options ++ [(f, value)] }

/-- Adds the pending option, which must have its value. -/
def settle (g : Given) : Except Usage Given :=
  match g.pending with
  | none => .ok g
  | some (_, none) => .error .noValue
  | some (f, some value) => { g with pending := none }.record f value

/-- Adds the pending option and another one with its value. -/
def give (g : Given) (f : Flag) (value : String) : Except Usage Given := do
  (← g.settle).record f value

/-- Adds the pending option and makes another one pending. -/
def await (g : Given) (f : Flag) : Except Usage Given := do
  return { ← g.settle with pending := some (f, none) }

end Given

namespace Grammar

/-- Reads an option behind two hyphens: its name and perhaps an equals sign and a value. -/
def long (gr : Grammar) (g : Given) (cs : List Char) : Except Usage Given :=
  let name := String.ofList (cs.takeWhile (· != '='))
  match gr.flags.find? fun f => f.name == name with
  | none => .error .unknownWord
  | some f =>
    match cs.dropWhile (· != '=') with
    | [] => if f.takesValue then g.await f else g.give f ""
    | _ :: value => if f.takesValue then g.give f (String.ofList value) else .error .needlessValue

/-- Reads options behind one hyphen: letters, of which the last may have a value behind it. -/
def letters (gr : Grammar) (g : Given) : List Char → Except Usage Given
  | [] => .ok g
  | c :: rest =>
    match gr.flags.find? fun f => f.letter? == some c with
    | none => .error .unknownWord
    | some f =>
      if f.takesValue then
        match rest with
        | [] => g.await f
        | '=' :: value => g.give f (String.ofList value)
        | value => g.give f (String.ofList value)
      else
        match g.give f "" with
        | .ok g => letters gr g rest
        | .error e => .error e

/-- Reads a word that is written as an option; nothing if it is not. -/
def option? (gr : Grammar) (g : Given) (word : String) : Option (Except Usage Given) :=
  match word.toList with
  | '-' :: '-' :: cs => some (gr.long g cs)
  | '-' :: c :: cs => some (gr.letters g (c :: cs))
  | _ => none

/-- Reads the words behind a command.  Behind two hyphens no option and no value can come. -/
def words (gr : Grammar) (g : Given) : List String → Except Usage Given
  | [] => g.settle
  | word :: rest =>
    if word = "--" then if rest.isEmpty then g.settle else .error .unknownWord
    else
      match gr.option? g word with
      | some (.ok g) => words gr g rest
      | some (.error e) => .error e
      | none =>
        match g.pending with
        | some (f, none) => words gr { g with pending := some (f, some word) } rest
        | _ => .error .unknownWord

/-- Reads the words behind a command, among which all required options must be. -/
def read (gr : Grammar) (words : List String) : Except Usage Given := do
  let g ← gr.words .nothing words
  if gr.required.all g.has then return g else throw .missingOption

end Grammar

/-! ## Commands -/

/-- A command that can be named. -/
inductive Name where
  /-- Writes files. -/
  | generate
  /-- Checks a document. -/
  | check
  /-- Looks a text up. -/
  | lookup
  deriving DecidableEq, Repr

namespace Name

/-- The command that a word names. -/
def ofWord? : String → Option Name
  | "generate" => some generate
  | "check" => some check
  | "lookup" => some lookup
  | _ => none

/-- The options of a command. -/
def grammar : Name → Grammar
  | generate =>
    ⟨[.input, .config, .defaultLanguage, .package, .target, .strict, .verbose, .help], []⟩
  | check => ⟨[.input, .defaultLanguage, .verbose, .help], [.input, .defaultLanguage]⟩
  | lookup =>
    ⟨[.input, .defaultLanguage, .key, .language, .arg, .verbose, .help],
      [.input, .defaultLanguage, .key]⟩

/-- The command with the options that were given. -/
def command (n : Name) (g : Given) : Command :=
  let text (f : Flag) : String := (g.value? f).getD ""
  match n with
  | generate =>
    let outputs := (g.values .target).filterMap fun s => (readOutput s).toOption
    .generate (g.value? .config)
      ⟨g.value? .input, g.value? .defaultLanguage, g.value? .package, outputs⟩ (g.has .strict)
  | check => .check (text .input) (text .defaultLanguage)
  | lookup =>
    .lookup (text .input) (text .defaultLanguage) (text .key) (g.value? .language) (g.values .arg)

end Name

/-- Whether a word stands in the place of a command: it names one, or asks for help on one. -/
def isCommandWord (word : String) : Bool := (Name.ofWord? word).isSome || word == "help"

/-- What is reported for the words behind `help`, which name commands; no command has commands of
its own. -/
def helpOn : List String → Usage
  | [] => .help
  | [word] => if isCommandWord word then .help else .unknownCommand
  | _ => .unknownCommand

/-- What is reported where options are given, or nothing, but no command. -/
def withoutCommand (g : Given) : Usage := if g.options.isEmpty then .nothing else .noCommand

/-- Reads the words of a command line behind the options `g`. -/
def parseFrom (g : Given) : List String → Except Usage Command
  | [] => .error (withoutCommand g)
  | word :: rest =>
    match Name.ofWord? word with
    | some n => (n.grammar.read rest).map n.command
    | none =>
      if word = "help" then .error (helpOn rest)
      else if word = "--" then
        match rest with
        | [] => .error (withoutCommand g)
        | word :: _ => .error (if isCommandWord word then .unknownWord else .unknownCommand)
      else
        match topGrammar.option? g word with
        | some (.ok g) => parseFrom g rest
        | some (.error e) => .error e
        | none => .error .unknownCommand

/-- Reads the words of a command line. -/
def parse (words : List String) : Except Usage Command := parseFrom .nothing words

end Phrasebook.CommandLine
