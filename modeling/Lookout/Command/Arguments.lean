import Lookout.Command.Similarity
/-!
The command line: what the program is asked to do, and the ways in which it can be asked wrongly.
Flags that are global may stand before and after the name of a command; the value behind the name
counts.
-/
namespace Lookout.Command

/-- What the program can do with its settings. -/
inductive Action where
  | run
  | check
  deriving DecidableEq, Repr, Inhabited

/-- What the program is asked to do. -/
structure Arguments where
  /-- The directory of the settings. -/
  configs : String := "."
  verbose : Bool := false
  action : Action := .run
  deriving DecidableEq, Repr, Inhabited

/-- The flags. -/
inductive Flag where
  | configs
  | verbose
  | help
  | version
  deriving DecidableEq, Repr

namespace Flag

/-- The name of a flag behind two dashes. -/
def long : Flag → String
  | configs => "configs"
  | verbose => "verbose"
  | help => "help"
  | version => "version"

/-- The letter of a flag behind one dash. -/
def short : Flag → Char
  | configs => 'c'
  | verbose => 'v'
  | help => 'h'
  | version => 'V'

/-- A flag with its value, as it is named in messages. -/
def render : Flag → String
  | configs => "--configs <CONFIGS>"
  | flag => "--" ++ flag.long

end Flag

/-- The part of the command line that arguments belong to. -/
inductive Place where
  | top
  | command (a : Action)
  /-- The command that tells of the others. -/
  | guidance
  deriving DecidableEq, Repr

namespace Place

/-- The name of the program. -/
def programName : String := "crawlert"

/-- The names that lead to a place. -/
def path : Place → String
  | top => programName
  | command .run => programName ++ " run"
  | command .check => programName ++ " check"
  | guidance => programName ++ " help"

/-- The flags that can be given at a place. -/
def flags : Place → List Flag
  | top => [.configs, .verbose, .help, .version]
  | command _ => [.configs, .verbose, .help]
  | guidance => []

/-- The place of a command. -/
def ofName? (name : String) : Option Place :=
  if name == "run" then some (.command .run)
  else if name == "check" then some (.command .check)
  else if name == "help" then some guidance
  else none

/-- The names of all commands. -/
def names : List String := ["run", "check", "help"]

end Place

/-- How the program can be asked wrongly. -/
inductive Misuse where
  /-- A flag that is not known; `used` are the flags given before. -/
  | unknownFlag (place : Place) (text : String) (similar : Option Flag) (used : List Flag)
  /-- An argument where none is expected. -/
  | unexpected (place : Place) (text : String)
  /-- A command that is not known. -/
  | unknownCommand (place : Place) (text : String) (similar : List String)
  /-- A command behind two dashes. -/
  | hiddenCommand (place : Place) (text : String)
  | noValue (flag : Flag)
  | needlessValue (place : Place) (flag : Flag) (value : String) (used : List Flag)
  | repeated (place : Place) (flag : Flag)
  deriving DecidableEq, Repr

/-- Why there is nothing to do but to write something. -/
inductive Stop where
  | help (place : Place)
  | version
  | misuse (m : Misuse)
  deriving DecidableEq, Repr

/-- The flags given at one place. -/
structure Given where
  configs : Option String := none
  verbose : Bool := false
  /-- In the order in which they are given. -/
  used : List Flag := []
  /-- Whether the value of `configs` is to come. -/
  pending : Bool := false
  deriving DecidableEq, Repr

namespace Given

/-- Takes a value for `configs`. -/
def setConfigs (place : Place) (value : String) (g : Given) : Except Stop Given :=
  if g.configs.isSome then .error (.misuse (.repeated place .configs))
  else if value.isEmpty then .error (.misuse (.noValue .configs))
  else .ok { g with configs := some value, used := g.used ++ [.configs], pending := false }

/-- Takes a flag without a value. -/
def setFlag (place : Place) (flag : Flag) (g : Given) : Except Stop Given :=
  if g.pending then .error (.misuse (.noValue .configs))
  else
    match flag with
    | .configs => .ok { g with pending := true }
    | .verbose =>
      if g.verbose then .error (.misuse (.repeated place .verbose))
      else .ok { g with verbose := true, used := g.used ++ [.verbose] }
    | .help => .error (.help place)
    | .version => .error .version

/-- Takes a value that is attached to `configs`. -/
def attachConfigs (place : Place) (value : String) (g : Given) : Except Stop Given :=
  if g.pending then .error (.misuse (.noValue .configs)) else g.setConfigs place value

/-- The complaint about a flag that is not known by its name. A similar one is offered, and counts
as given. -/
def unknownLong (place : Place) (name : String) (g : Given) : Misuse :=
  let similar := (similarWords name (place.flags.map Flag.long)).getLast?.bind fun word =>
    place.flags.find? fun flag => flag.long == word
  .unknownFlag place ("--" ++ name) similar
    (g.used ++ similar.toList.filter fun flag => !g.used.contains flag)

/-- Reads a flag behind two dashes, which are left out. -/
def readLong (place : Place) (text : String) (g : Given) : Except Stop Given :=
  let name := String.ofList (text.toList.takeWhile (· != '='))
  let value? := match text.toList.dropWhile (· != '=') with
    | _ :: value => some (String.ofList value)
    | [] => none
  match place.flags.find? fun flag => flag.long == name, value? with
  | some .configs, some value => g.attachConfigs place value
  | some flag, some value => .error (.misuse (.needlessValue place flag value g.used))
  | some flag, none => g.setFlag place flag
  | none, _ => .error (.misuse (g.unknownLong place name))

/-- Reads flags behind one dash, which is left out. What follows the letter of `configs` is its
value. -/
def readShort (place : Place) : List Char → Given → Except Stop Given
  | [], g => .ok g
  | c :: rest, g =>
    match place.flags.find? fun flag => flag.short == c with
    | none =>
      .error (.misuse (.unknownFlag place (String.ofList ['-', c]) none []))
    | some .configs =>
      match rest with
      | [] => g.setFlag place .configs
      | '=' :: value => g.attachConfigs place (String.ofList value)
      | value => g.attachConfigs place (String.ofList value)
    | some flag =>
      match g.setFlag place flag with
      | .error stop => .error stop
      | .ok g => readShort place rest g

/-- The complaint about an argument that is no flag. -/
def unknownWord (place : Place) (trailing : Bool) (text : String) : Misuse :=
  match place with
  | .top =>
    if trailing && Place.names.contains text then .hiddenCommand place text
    else .unknownCommand place text (similarWords text Place.names)
  | _ => .unexpected place text

/-- Reads an argument at a place, unless it is the name of a command. -/
def readArgument (place : Place) (text : String) (g : Given) : Except Stop Given :=
  match text.toList with
  | '-' :: '-' :: rest => g.readLong place (String.ofList rest)
  | '-' :: c :: rest => readShort place (c :: rest) g
  | _ =>
    if g.pending then g.setConfigs place text
    else .error (.misuse (unknownWord place false text))

/-- The flags when no more arguments come. -/
def finish (g : Given) : Except Stop Given :=
  if g.pending then .error (.misuse (.noValue .configs)) else .ok g

/-- Reads the arguments at the place of a command. -/
def readCommand (place : Place) : List String → Given → Except Stop Given
  | [], g => g.finish
  | text :: rest, g =>
    if text == "--" then
      match rest with
      | [] => g.finish
      | word :: _ => .error (.misuse (unknownWord place true word))
    else
      match g.readArgument place text with
      | .error stop => .error stop
      | .ok g => readCommand place rest g

end Given

/-- What is asked for when the command that tells of the others is given names. -/
def guidanceFor : (place : Place) → List String → Stop
  | place, [] => .help place
  | place, name :: rest =>
    match place, Place.ofName? name with
    | .top, some inner => guidanceFor inner rest
    | _, _ => .misuse (.unknownCommand place name [])

/-- Reads the arguments from the top. -/
def readTop : List String → Given → Except Stop Arguments
  | [], g =>
    match g.finish with
    | .error stop => .error stop
    | .ok g => .ok { configs := g.configs.getD ".", verbose := g.verbose }
  | text :: rest, g =>
    if text == "--" && !rest.isEmpty then
      .error (.misuse (Given.unknownWord .top true (rest.headD "")))
    else if text == "--" then readTop rest g
    else
      match if g.pending then none else Place.ofName? text with
      | some (.command action) =>
        match Given.readCommand (.command action) rest {} with
        | .error stop => .error stop
        | .ok inner =>
          .ok { configs := (inner.configs.or g.configs).getD "."
                verbose := g.verbose || inner.verbose
                action }
      | some _ => .error (guidanceFor .top rest)
      | none =>
        match g.readArgument .top text with
        | .error stop => .error stop
        | .ok g => readTop rest g

/-- Reads the arguments of the command line. -/
def Arguments.read (list : List String) : Except Stop Arguments := readTop list {}

end Lookout.Command
