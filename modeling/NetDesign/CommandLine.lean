import NetDesign.Inventory.Json
import NetDesign.Loading

set_option autoImplicit false

namespace NetDesign

/-- What the program can be asked to do. -/
inductive Command where
  | compile (input : String) (host settings output : Option String)
  | hosts (input : String)
deriving DecidableEq, Repr

/-- What the words of a command line amount to. -/
inductive Invocation where
  | run (command : Command)
  | help
  | misuse
deriving DecidableEq, Repr

namespace Invocation

/-- The options that take a value. -/
inductive Choice where
  | host
  | settings
  | output
deriving DecidableEq, Repr

structure Spelling where
  choice : Choice
  long : String
  short : Option Char

def compileOptions : List Spelling :=
  [⟨.host, "host", none⟩, ⟨.settings, "config", some 'c'⟩, ⟨.output, "output", some 'o'⟩]

/-- A word of the command line by its form. -/
inductive Word where
  /-- Two dashes: no options follow. -/
  | separator
  | long (name : String) (value : Option String)
  | short (letter : Char) (rest : List Char)
  | plain (s : String)

namespace Word

def ofString (s : String) : Word :=
  match s.toList with
  | ['-', '-'] => separator
  | '-' :: '-' :: rest =>
    let name := rest.takeWhile (· ≠ '=')
    match rest.drop name.length with
    | [] => long (.ofList name) none
    | _ :: value => long (.ofList name) (some (.ofList value))
  | '-' :: letter :: rest => short letter rest
  | _ => plain s

def asksForHelp : Word → Bool
  | long name value => name = "help" && value.isNone
  | short letter _ => letter = 'h'
  | separator | plain _ => false

/-- The option that the word spells, and the value attached to it. -/
def option? (options : List Spelling) : Word → Option (Choice × Option String)
  | long name value => (options.find? (·.long = name)).map fun o => (o.choice, value)
  | short letter rest =>
    (options.find? (·.short = some letter)).map fun o =>
      (o.choice,
        match rest with
        | [] => none
        | '=' :: value => some (.ofList value)
        | value => some (.ofList value))
  | separator | plain _ => none

end Word

/-- The words of a command understood so far. -/
structure Given where
  input : Option String
  options : List (Choice × String)

namespace Given

/-- Takes the input file; a command has only one. -/
def takeInput (given : Given) (s : String) : Option Given :=
  if given.input.isNone then some { given with input := some s } else none

def takeOption (given : Given) (choice : Choice) (value : String) : Given :=
  { given with options := given.options ++ [(choice, value)] }

/-- The command, if the input file is given and no option twice. -/
def finish (given : Given) (command : String → (Choice → Option String) → Command) : Invocation :=
  match given.input with
  | none => misuse
  | some input =>
    if (given.options.map (·.1)).Nodup then run (command input fun o => given.options.lookup o)
    else misuse

end Given

/-- Reads the words of a command in order. The first that asks for help or does not fit decides. -/
def scan (options : List Spelling) (command : String → (Choice → Option String) → Command)
    (given : Given) : List String → Invocation
  | [] => given.finish command
  | s :: rest =>
    let word := Word.ofString s
    if word.asksForHelp then help
    else
      match word with
      | .plain input =>
        match given.takeInput input with
        | none => misuse
        | some given => scan options command given rest
      | .separator =>
        match rest.foldlM Given.takeInput given with
        | none => misuse
        | some given => given.finish command
      | word =>
        match word.option? options, rest with
        | none, _ => misuse
        | some (choice, some value), rest =>
          scan options command (given.takeOption choice value) rest
        | some (_, none), [] => misuse
        | some (choice, none), next :: rest =>
          match Word.ofString next with
          | .plain value => scan options command (given.takeOption choice value) rest
          | next => if next.asksForHelp then help else misuse

def ofWords : List String → Invocation
  | "compile" :: rest =>
    scan compileOptions
      (fun input value => .compile input (value .host) (value .settings) (value .output))
      ⟨none, []⟩ rest
  | "hosts" :: rest => scan [] (fun input _ => .hosts input) ⟨none, []⟩ rest
  | ["help"] | ["help", "compile"] | ["help", "hosts"] | ["help", "help"] => help
  | s :: _ => if (Word.ofString s).asksForHelp then help else misuse
  | [] => misuse

def usage : String :=
  String.join
    ["USAGE:\n",
      "    compile <INPUT> [--host <HOST>] [-c, --config <CONFIG>] [-o, --output <OUTPUT>]\n",
      "        Compile a network description into device configuration records\n",
      "    hosts <INPUT>\n",
      "        List all hosts and their platforms\n"]

end Invocation

/-- What a command asks to be done with its result. -/
structure Effect where
  stdout : String
  /-- A file to be written, and its text. -/
  written : Option (String × String)
  complaint : Option Error
deriving DecidableEq, Repr

namespace Command

def inputs : Command → List String
  | compile input _ settings _ => input :: settings.toList
  | hosts input => [input]

def loadNetwork (read : String → Option ByteArray) (name : String) : Except Error Network := do
  let text ← textOfFile name (read name)
  Network.ofText text

/-- The settings in a file, or the standard ones if no file is given. -/
def loadSettings (read : String → Option ByteArray) : Option String → Except Error Settings
  | none => .ok .standard
  | some name => do
    let text ← textOfFile name (read name)
    Settings.ofText text

/-- What a command comes to, given what the files hold. The inventory is handed over even if devices
failed. -/
def effect (read : String → Option ByteArray) (timestamp : String) : Command → Except Error Effect
  | compile input host settings output => do
    let net ← loadNetwork read input
    let settings ← loadSettings read settings
    let compilation := net.compile settings host timestamp
    let text := compilation.inventory.toJson
    let complaint := match compilation.check with
      | .ok _ => none
      | .error e => some e
    match output with
    | some file => .ok ⟨"", some (file, text), complaint⟩
    | none => .ok ⟨text ++ "\n", none, complaint⟩
  | hosts input => do
    let net ← loadNetwork read input
    let lines := net.deployments.map fun (host, platform) => host ++ " " ++ platform.word ++ "\n"
    .ok ⟨.join lines, none, none⟩

end Command

end NetDesign
