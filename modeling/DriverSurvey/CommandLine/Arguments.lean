import DriverSurvey.Text.Digit
/-!
# Arguments — what a command line asks for

A line is read on two levels: the options of the program up to the name of a command, then those of the command.  The
option that names a settings file is known on both; where both name one, the command's counts.  Reading stops at the
first thing that is wrong, or that asks for nothing but help or the version.
-/
namespace DriverSurvey
namespace CommandLine

/-- A command. -/
inductive Command where
  | snapshot (pretty : Bool)
  | identity
  | extensions
  | memory
  | limits
  | benchmark (runs : Nat)
  | vulkan
  deriving DecidableEq, Repr

/-- A command to carry out, and the settings file it names. -/
structure Invocation where
  config : Option String
  command : Command
  deriving DecidableEq, Repr

/-- Why a command line asks for no command. -/
inductive Stop where
  | usage
  | help
  | version
  deriving DecidableEq, Repr

/-! ## Options -/

/-- The number of runs: digits with an optional sign, in thirty-two bits. -/
def runs? (text : String) : Option Nat :=
  let (negative, digits) := match text.toList with
    | '+' :: rest => (false, rest)
    | '-' :: rest => (true, rest)
    | rest => (false, rest)
  if digits.isEmpty || !digits.all isDecimal then none
  else
    let n := spelled 10 digits
    if negative then (if n == 0 then some 0 else none)
    else if n < Nat.pow 2 32 then some n else none

/-- An option of one level. -/
structure Switch where
  name : String
  short : Option Char := none
  takesValue : Bool := false
  /-- Whether a value can be read. -/
  accepts : String → Bool := fun _ => true
  /-- What the option asks for, if it ends the reading. -/
  stops : Option Stop := none

/-- The settings file. -/
def configOption : Switch := { name := "config", short := some 'c', takesValue := true }
/-- Help on the program or on a command. -/
def helpOption : Switch := { name := "help", short := some 'h', stops := some .help }
/-- The version of the program. -/
def versionOption : Switch := { name := "version", short := some 'V', stops := some .version }
/-- Whether each member of a snapshot stands on a line of its own. -/
def prettyOption : Switch := { name := "pretty" }
/-- How often the benchmark runs. -/
def runsOption : Switch :=
  { name := "runs", short := some 'r', takesValue := true, accepts := fun text => (runs? text).isSome }

/-- What was given on a level: the names of its options, each with its value. -/
abbrev Given : Type := List (String × String)

/-- One more option given.  None is given twice, and a value has to be one that can be read. -/
def give (given : Given) (option : Switch) (value : String) : Except Stop Given :=
  match option.stops with
  | some stop => .error stop
  | none =>
    if (given.lookup option.name).isSome || !option.accepts value then .error .usage
    else .ok (given ++ [(option.name, value)])

/-- What an argument is. -/
inductive Shape where
  | word
  /-- Two dashes alone, behind which there are no options. -/
  | escape
  | long (name : String) (value : Option String)
  | short (letters : List Char)

/-- The shape of an argument.  A single dash is a word. -/
def shapeOf (argument : String) : Shape :=
  match argument.toList with
  | '-' :: '-' :: [] => .escape
  | '-' :: '-' :: rest =>
    let name := String.ofList (rest.takeWhile (· != '='))
    match rest.dropWhile (· != '=') with
    | [] => .long name none
    | _ :: value => .long name (some (String.ofList value))
  | '-' :: c :: rest => .short (c :: rest)
  | _ => .word

/-- What an argument leaves to do: nothing, or to take the next one as the value of an option. -/
inductive Taken where
  | settled (given : Given)
  | wants (given : Given) (option : Switch)

/-- Take an option by its long name. -/
def takeLong (options : List Switch) (given : Given) (name : String) (value : Option String) : Except Stop Taken :=
  match options.find? (fun option => option.name == name) with
  | none => .error .usage
  | some option =>
    match option.takesValue, value with
    | true, none => .ok (.wants given option)
    | true, some value => (give given option value).map .settled
    | false, none => (give given option "").map .settled
    | false, some _ => .error .usage

/-- Take options by their letters.  The rest of the letters is the value of the first that takes one, an equals sign
in front of it aside. -/
def takeShort (options : List Switch) (given : Given) : List Char → Except Stop Taken
  | [] => .ok (.settled given)
  | c :: rest =>
    match options.find? (fun option => option.short == some c) with
    | none => .error .usage
    | some option =>
      if option.takesValue then
        match rest with
        | [] => .ok (.wants given option)
        | '=' :: value => (give given option (String.ofList value)).map .settled
        | value => (give given option (String.ofList value)).map .settled
      else
        match give given option "" with
        | .error stop => .error stop
        | .ok given => takeShort options given rest

/-- Read a level up to its first word: what was given, and the word with what follows it.  Where there is none, behind
two dashes no word may stand. -/
def readLevel (options : List Switch) : Given → List String → Except Stop (Given × Option (String × List String))
  | given, [] => .ok (given, none)
  | given, argument :: rest =>
    let went : Except Stop Taken :=
      match shapeOf argument with
      | .long name value => takeLong options given name value
      | .short letters => takeShort options given letters
      | .word | .escape => .ok (.settled given)
    match shapeOf argument, went with
    | .word, _ => .ok (given, some (argument, rest))
    | .escape, _ => if rest.isEmpty then .ok (given, none) else .error .usage
    | _, .error stop => .error stop
    | _, .ok (.settled given) => readLevel options given rest
    | _, .ok (.wants given option) =>
      match rest with
      | [] => .error .usage
      | value :: rest =>
        match shapeOf value with
        | .word =>
          match give given option value with
          | .error stop => .error stop
          | .ok given => readLevel options given rest
        | _ => .error .usage

/-! ## Commands -/

/-- The options that a command has, besides those that every command has. -/
def ownOptions (name : String) : List Switch :=
  if name == "snapshot" then [prettyOption]
  else if name == "benchmark" then [runsOption]
  else []

/-- The command of a name with what was given to it. -/
def command? (name : String) (given : Given) : Option Command :=
  if name == "snapshot" then some (.snapshot (given.lookup prettyOption.name).isSome)
  else if name == "identity" then some .identity
  else if name == "extensions" then some .extensions
  else if name == "memory" then some .memory
  else if name == "limits" then some .limits
  else if name == "benchmark" then
    match given.lookup runsOption.name with
    | none => some (.benchmark 1)
    | some text => (runs? text).map .benchmark
  else if name == "vulkan" then some .vulkan
  else none

def commandNames : List String :=
  ["snapshot", "identity", "extensions", "memory", "limits", "benchmark", "vulkan"]

/-- What stands behind the word `help`: nothing, or the one command that help is asked for. -/
def readHelp : List String → Stop
  | [] => .help
  | [name] => if commandNames.contains name || name == "help" then .help else .usage
  | _ => .usage

/-- Read a command behind its name. -/
def readCommand (outer : Given) (name : String) (arguments : List String) : Except Stop Invocation :=
  if name == "help" then .error (readHelp arguments)
  else if !commandNames.contains name then .error .usage
  else
    match readLevel (configOption :: helpOption :: ownOptions name) [] arguments with
    | .error stop => .error stop
    | .ok (_, some _) => .error .usage
    | .ok (given, none) =>
      match command? name given with
      | none => .error .usage
      | some command =>
        .ok ⟨(given.lookup configOption.name).or (outer.lookup configOption.name), command⟩

/-- Read a command line, the name of the program aside. -/
def read (arguments : List String) : Except Stop Invocation :=
  match readLevel [configOption, helpOption, versionOption] [] arguments with
  | .error stop => .error stop
  | .ok (_, none) => .error .usage
  | .ok (given, some (name, rest)) => readCommand given name rest

end CommandLine
end DriverSurvey
