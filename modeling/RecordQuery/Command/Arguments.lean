/-!
# Arguments

The arguments of the command, read from left to right: first options of the whole command and
the name of a subcommand, then the options and values of the subcommand.

* `Invocation` — what the arguments ask for;
* `readArguments` — the invocation, a request for help or for the version, or the finding that
  the arguments are wrong.

An option has a long name and mostly a letter.  Letters may be joined, and the value of an
option may be joined to its letter, or to its name with an equals sign.  Behind two dashes
everything is a value.
-/

namespace RecordQuery.Arguments

/-- Where the records come from. -/
inductive Source where
  | inline (text : String)
  | file (path : String)
  | standardInput
  deriving DecidableEq

/-- What the arguments ask for. -/
inductive Invocation where
  | check (query : String) (source : Source) (pretty readOnly showResults skipErrors : Bool)
  | docs
  | doc (category : String)
  deriving DecidableEq

/-- What comes of reading the arguments. -/
inductive Reading where
  | run (invocation : Invocation)
  | help
  | version
  | misuse
  deriving DecidableEq

/-- The subcommands. -/
inductive Subcommand where
  | check
  | docs
  | doc
  deriving DecidableEq

/-- The subcommand with a name. -/
def Subcommand.ofName? : String → Option Subcommand
  | "check" => some check
  | "docs" => some docs
  | "doc" => some doc
  | _ => none

/-- The options. -/
inductive Switch where
  | verbose
  | help
  | version
  | input
  | file
  | pretty
  | readOnly
  | showResults
  | skipErrors
  deriving DecidableEq

namespace Switch

/-- The options of the whole command with their long names and letters. -/
def global : List (Switch × String × Option Char) :=
  [(verbose, "verbose", some 'v'), (help, "help", some 'h'), (version, "version", some 'V')]

/-- The options of a subcommand with their long names and letters. -/
def ofSubcommand : Subcommand → List (Switch × String × Option Char)
  | .check =>
    [(verbose, "verbose", some 'v'), (help, "help", some 'h'),
      (input, "input", some 'i'), (file, "file", some 'f'), (pretty, "pretty", some 'p'),
      (readOnly, "syntax-only", none), (showResults, "eval", none),
      (skipErrors, "skip-errors", none)]
  | .docs | .doc => [(verbose, "verbose", some 'v'), (help, "help", some 'h')]

/-- Whether an option has a value. -/
def takesValue : Switch → Bool
  | input | file => true
  | _ => false

/-- Whether an option may come several times. -/
def isRepeatable : Switch → Bool
  | verbose => true
  | _ => false

end Switch

/-- The option with a long name. -/
def findLong? (table : List (Switch × String × Option Char)) (name : List Char) :
    Option Switch :=
  (table.find? fun e => e.2.1.toList == name).map Prod.fst

/-- The option with a letter. -/
def findShort? (table : List (Switch × String × Option Char)) (c : Char) : Option Switch :=
  (table.find? fun e => e.2.2 == some c).map Prod.fst

/-- What was read so far: the options in force, the values of those that have one, and the
values that belong to no option, last one first. -/
structure Collected where
  switches : List Switch
  input : Option String
  file : Option String
  values : List String

namespace Collected

/-- Nothing was read yet. -/
def empty : Collected := ⟨[], none, none, []⟩

/-- Adds an option. -/
def addSwitch? (read : Collected) (switch : Switch) : Option Collected :=
  if !switch.isRepeatable && read.switches.contains switch then none
  else some { read with switches := switch :: read.switches }

/-- Adds an option with its value; a path may not be empty. -/
def addValue? (read : Collected) (switch : Switch) (value : String) : Option Collected := do
  let read ← read.addSwitch? switch
  match switch with
  | .input => some { read with input := some value }
  | .file => if value.isEmpty then none else some { read with file := some value }
  | _ => none

end Collected

/-- What an argument says. -/
inductive Step where
  /-- It is complete. -/
  | done (read : Collected)
  /-- The next argument is the value of the option. -/
  | needsValue (read : Collected) (switch : Switch)
  /-- It ends the reading. -/
  | ends (reading : Reading)

/-- Adds an option without a value. -/
def takeFlag (read : Collected) (switch : Switch) : Step :=
  match switch with
  | .help => .ends .help
  | .version => .ends .version
  | _ =>
    match read.addSwitch? switch with
    | some read => .done read
    | none => .ends .misuse

/-- Reads an option by its long name, and the value behind an equals sign if there is one. -/
def readLong (table : List (Switch × String × Option Char)) (read : Collected)
    (text : List Char) : Step :=
  match findLong? table (text.takeWhile (· != '=')) with
  | none => .ends .misuse
  | some switch =>
    match text.dropWhile (· != '='), switch.takesValue with
    | [], false => takeFlag read switch
    | [], true => .needsValue read switch
    | _ :: _, false => .ends .misuse
    | _ :: value, true =>
      match read.addValue? switch (String.ofList value) with
      | some read => .done read
      | none => .ends .misuse

/-- Removes an equals sign in front of a value that is joined to its letter. -/
def dropEquals : List Char → List Char
  | '=' :: cs => cs
  | cs => cs

/-- Reads letters of options. -/
def readShort (table : List (Switch × String × Option Char)) (read : Collected) :
    List Char → Step
  | [] => .done read
  | c :: cs =>
    match findShort? table c with
    | none => .ends .misuse
    | some switch =>
      if switch.takesValue then
        if cs.isEmpty then .needsValue read switch
        else
          match read.addValue? switch (String.ofList (dropEquals cs)) with
          | some read => .done read
          | none => .ends .misuse
      else
        match takeFlag read switch with
        | .done read => readShort table read cs
        | other => other

/-- Whether an argument looks like an option: a dash and something behind it. -/
def isOption (argument : String) : Bool :=
  match argument.toList with
  | '-' :: _ :: _ => true
  | _ => false

/-- Reads an argument that looks like an option. -/
def readOption (table : List (Switch × String × Option Char)) (read : Collected)
    (argument : String) : Step :=
  match argument.toList with
  | '-' :: '-' :: name => readLong table read name
  | _ :: letters => readShort table read letters
  | [] => .ends .misuse

/-- How many values a subcommand takes that belong to no option. -/
def valueCount : Subcommand → Nat
  | .check | .doc => 1
  | .docs => 0

/-- The invocation that was read, if it is complete. -/
def complete (subcommand : Subcommand) (read : Collected) : Reading :=
  match subcommand, read.values with
  | .docs, [] => .run .docs
  | .doc, [category] => .run (.doc category)
  | .check, [query] =>
    let has := fun switch => read.switches.contains switch
    let invocation := fun source =>
      Reading.run (.check query source (has .pretty) (has .readOnly) (has .showResults)
        (has .skipErrors))
    match read.input, read.file with
    | some _, some _ => .misuse
    | some text, none => invocation (.inline text)
    | none, some path => invocation (.file path)
    | none, none => invocation .standardInput
  | _, _ => .misuse

/-- Adds a value that belongs to no option. -/
def addPositional? (subcommand : Subcommand) (read : Collected) (value : String) :
    Option Collected :=
  if read.values.length < valueCount subcommand then
    some { read with values := value :: read.values }
  else none

/-- Reads the arguments of a subcommand.  `pending` is an option that waits for its value, and
`plain` says that everything is a value. -/
def readSubcommand (subcommand : Subcommand) (read : Collected) (pending : Option Switch)
    (plain : Bool) : List String → Reading
  | [] => if pending.isSome then .misuse else complete subcommand read
  | argument :: rest =>
    if plain || !isOption argument then
      match pending, plain with
      | some switch, false =>
        match read.addValue? switch argument with
        | some read => readSubcommand subcommand read none plain rest
        | none => .misuse
      | _, _ =>
        match addPositional? subcommand read argument with
        | some read => readSubcommand subcommand read pending plain rest
        | none => .misuse
    else if argument = "--" then readSubcommand subcommand read pending true rest
    else if pending.isSome then .misuse
    else
      match readOption (Switch.ofSubcommand subcommand) read argument with
      | .done read => readSubcommand subcommand read none plain rest
      | .needsValue read switch => readSubcommand subcommand read (some switch) plain rest
      | .ends reading => reading

/-- Reads what help is asked for: help in general, or the help of a subcommand. -/
def readHelp : List String → Reading
  | [] => .help
  | [topic] => if topic = "help" || (Subcommand.ofName? topic).isSome then .help else .misuse
  | _ => .misuse

/-- Reads the options of the whole command and the name of a subcommand. -/
def readGlobal (read : Collected) : List String → Reading
  | [] => .misuse
  | argument :: rest =>
    if argument = "--" then .misuse
    else if isOption argument then
      match readOption Switch.global read argument with
      | .done read => readGlobal read rest
      | .needsValue _ _ => .misuse
      | .ends reading => reading
    else if argument = "help" then readHelp rest
    else
      match Subcommand.ofName? argument with
      | some subcommand => readSubcommand subcommand .empty none false rest
      | none => .misuse

/-- Reads the arguments of the command. -/
def readArguments (arguments : List String) : Reading := readGlobal .empty arguments

end RecordQuery.Arguments
