import Lookout.Command.Arguments
/-!
What is written instead of doing something: descriptions of the commands and of their flags, the
version, and complaints about a wrong use with a hint where there is one.
-/
namespace Lookout.Command

/-- The version of the program. -/
def version : String := "0.1.0"

/-- What each place is for. -/
def Place.about : Place → String
  | top => "Polls HTTP endpoints and alerts when a query over the response matches"
  | command .run => "Run every enabled crawl until interrupted"
  | command .check => "Validate the configuration and compile every enabled crawl's queries"
  | guidance => "Print this message or the help of the given subcommand(s)"

/-- What each flag is for. -/
def Flag.about : Flag → String
  | configs => "Directory holding config.yaml and an optional config.local.yaml [default: .]"
  | verbose => "Force debug logging"
  | help => "Print help"
  | version => "Print version"

/-- How arguments are given at a place. -/
def Place.usage : Place → String
  | top => "Usage: " ++ top.path ++ " [OPTIONS] [COMMAND]"
  | command a => "Usage: " ++ (command a).path ++ " [OPTIONS]"
  | guidance => "Usage: " ++ guidance.path ++ " [COMMAND]..."

/-- How arguments are given at a place together with some flags. -/
def Place.usageWith (place : Place) (used : List Flag) : String :=
  if used.isEmpty then place.usage
  else "Usage: " ++ " ".intercalate (place.path :: used.map Flag.render)

/-- Rows of two columns; the second column begins two blanks behind the longest first one. -/
def table (rows : List (String × String)) : List String :=
  let width := (rows.map fun row => row.1.length).foldl max 0
  rows.map fun (left, right) =>
    "  " ++ left ++ String.ofList (List.replicate (width - left.length + 2) ' ') ++ right

/-- The description of a place, in lines. -/
def Place.help (place : Place) : List String :=
  let commands := match place with
    | top =>
      ["", "Commands:"] ++
        table [("run", (command .run).about), ("check", (command .check).about),
          ("help", guidance.about)]
    | command _ => []
    | guidance =>
      ["", "Arguments:"] ++ table [("[COMMAND]...", "Print help for the subcommand(s)")]
  let flags := match place.flags with
    | [] => []
    | list =>
      ["", "Options:"] ++ table (list.map fun flag =>
        (String.ofList ['-', flag.short] ++ ", " ++ flag.render, flag.about))
  [place.about, "", place.usage] ++ commands ++ flags

/-- The last line of most complaints. -/
def tryHelp : List String := ["", "For more information, try '--help'."]

/-- A complaint about a wrong use, in lines. -/
def Misuse.lines : Misuse → List String
  | unknownFlag place text similar used =>
    let hint := match similar with
      | some flag => ["", "  tip: a similar argument exists: '--" ++ flag.long ++ "'"]
      | none => []
    ["error: unexpected argument '" ++ text ++ "' found"] ++ hint ++
      ["", place.usageWith used] ++ tryHelp
  | unexpected place text =>
    ["error: unexpected argument '" ++ text ++ "' found", "", place.usage] ++ tryHelp
  | unknownCommand place text similar =>
    let hint := match similar with
      | [] => []
      | [name] => ["", "  tip: a similar subcommand exists: '" ++ name ++ "'"]
      | names =>
        ["", "  tip: some similar subcommands exist: " ++
          ", ".intercalate (names.map fun name => "'" ++ name ++ "'")]
    ["error: unrecognized subcommand '" ++ text ++ "'"] ++ hint ++ ["", place.usage] ++ tryHelp
  | hiddenCommand place text =>
    ["error: unexpected argument '" ++ text ++ "' found", "",
      "  tip: subcommand '" ++ text ++ "' exists; to use it, remove the '--' before it", "",
      place.usage] ++ tryHelp
  | noValue flag =>
    ["error: a value is required for '" ++ flag.render ++ "' but none was supplied"] ++ tryHelp
  | needlessValue place flag value used =>
    ["error: unexpected value '" ++ value ++ "' for '" ++ flag.render ++
      "' found; no more were expected", "", place.usageWith used] ++ tryHelp
  | repeated place flag =>
    ["error: the argument '" ++ flag.render ++ "' cannot be used multiple times", "",
      place.usage] ++ tryHelp

end Lookout.Command
