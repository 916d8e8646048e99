import Lookout.Alert.Delivery
import Lookout.Command.Help
import Lookout.Config.Loading
import Lookout.Config.Validation
import Lookout.Log.Line
import Lookout.Pipeline.Schedule
/-!
The program as a whole: from the command line, the files and the environment to what is written,
or to a session of crawls that goes on until it is told to stop.
-/
namespace Lookout.Program

open Lookout.Command (Action Arguments Place)

/-- What the program is given. -/
structure Input where
  arguments : List String
  /-- The files, by their paths without steps that lead nowhere. -/
  files : String → Option ByteArray
  bindings : List (String × String)

/-- A line of diagnostics. -/
inductive Diagnostic where
  | plain (text : String)
  | log (l : Log.Line)
  deriving DecidableEq, Repr

/-- Crawls that are ready to run, with what is logged of them. -/
structure Session where
  log : Config.Log
  filter : Log.Filter
  plans : List Pipeline.Plan
  destinations : List Alert.Destination

/-- What the program does. -/
inductive Outcome where
  /-- It ends with a status, after writing to its output and to its diagnostics. -/
  | ended (status : Nat) (output : String) (diagnostics : List Diagnostic) (log : Config.Log)
  | running (session : Session)

/-- The part of the program that tells how its commands end. -/
def target : String := "crawlert"

/-- The part of the program that tells of its sessions. -/
def commandTarget : String := "crawlert::cli::commands"

/-! ### Errors -/

/-- A text of several lines, the first and the others behind their own indents. -/
def indented (first others : String) (text : String) : List String :=
  match text.splitOn "\n" with
  | [] => [first]
  | line :: rest => (first ++ line) :: rest.map (others ++ ·)

/-- Causes with their numbers. -/
def numbered : (number : Nat) → List String → List String
  | _, [] => []
  | number, cause :: rest =>
    let digits := toString number
    let indent := String.ofList (List.replicate (5 - digits.length) ' ')
    indented (indent ++ digits ++ ": ") "       " cause ++ numbered (number + 1) rest

/-- An error with its causes, in lines. A cause that is the only one has no number. -/
def errorLines : List String → List String
  | [] => []
  | outer :: causes =>
    let tail := match causes with
      | [] => []
      | [cause] => ["", "Caused by:"] ++ indented "    " "    " cause
      | causes => ["", "Caused by:"] ++ numbered 0 causes
    indented "Error: " "" outer ++ tail

/-- An error as diagnostics. -/
def errorDiagnostics (chain : List String) : List Diagnostic := (errorLines chain).map .plain

/-! ### Commands -/

/-- Everything that a session needs. -/
structure Prepared where
  plans : List Pipeline.Plan
  destinations : List Alert.Destination

/-- Makes destinations and crawls ready; of an error the chain of causes is given. -/
def prepare (c : Config) : Except (List String) Prepared :=
  match Alert.destinations c.alerts with
  | .error e => .error e.chain
  | .ok destinations =>
    match Pipeline.plans c.crawls with
    | .error e => .error e.chain
    | .ok plans => .ok ⟨plans, destinations⟩

/-- The name of a service in a summary. -/
def serviceTitle : Config.AlertKind → String
  | .telegram => "Telegram"
  | .discord => "Discord"

/-- A summary of settings of which the given number of crawls have been made ready. -/
def summary (c : Config) (ready : Nat) : List String :=
  let disabled := c.crawls.length - ready
  ["Configuration is valid", "Alerts: " ++ serviceTitle c.alerts.kind, "Enabled crawls:"] ++
    c.enabledCrawls.map (fun crawl =>
      "  - " ++ crawl.name ++ " (" ++ crawl.target.method ++ " " ++ crawl.target.url ++ " every " ++
        crawl.interval.compact ++ ")") ++
    (if disabled = 0 then [] else ["Disabled crawls: " ++ toString disabled])

/-- Lines as text. -/
def unlines (lines : List String) : String := String.join (lines.map (· ++ "\n"))

/-- A log line as diagnostics, if it passes a filter. -/
def logged (filter : Log.Filter) (l : Log.Line) : List Diagnostic :=
  if l.passes filter then [.log l] else []

/-- The outcome of a command that fails. -/
def failed (log : Config.Log) (filter : Log.Filter) (chain : List String) : Outcome :=
  .ended 1 "" (logged filter ⟨.error, target, "Command failed: " ++ ": ".intercalate chain, []⟩ ++
    errorDiagnostics chain) log

/-- Carries out a command with valid settings. -/
def carryOut (action : Action) (c : Config) (filter : Log.Filter) : Outcome :=
  match prepare c with
  | .error chain => failed c.log filter chain
  | .ok p =>
    match action with
    | .check =>
      .ended 0 (unlines (summary c p.plans.length))
        (logged filter ⟨.info, target, "Command completed successfully", []⟩) c.log
    | .run => .running ⟨c.log, filter, p.plans, p.destinations⟩

/-- The outcome of an error before anything can be logged. -/
def refused (chain : List String) : Outcome := .ended 1 "" (errorDiagnostics chain) {}

/-- Loads settings and carries out a command. -/
def withSettings (a : Arguments) (input : Input) : Outcome :=
  match Config.load a.configs input.files input.bindings with
  | .error e => refused e.chain
  | .ok c =>
    match c.validate with
    | .error flaw => refused flaw.chain
    | .ok _ =>
      match Log.Filter.ofSettings c.log a.verbose (input.bindings.lookup "RUST_LOG") with
      | .error e => refused e.chain
      | .ok filter => carryOut a.action c filter

/-- What the program does with its input. -/
def start (input : Input) : Outcome :=
  match Arguments.read input.arguments with
  | .error (.help place) => .ended 0 (unlines place.help) [] {}
  | .error .version => .ended 0 (Place.programName ++ " " ++ Command.version ++ "\n") [] {}
  | .error (.misuse m) => .ended 2 "" (m.lines.map .plain) {}
  | .ok a => withSettings a input

/-! ### Sessions -/

/-- The log line of something seen of a session. -/
def lineOf? (plans : List Pipeline.Plan) : Pipeline.Sight → Option Log.Line
  | .ofWorker _ (.event _ e) => some ⟨e.level, e.target, e.message, e.details⟩
  | .ofWorker worker (.notice n) =>
    some ⟨n.level, n.target, n.message,
      match plans[worker]? with
      | some p => [("crawl", p.name)]
      | none => []⟩
  | .ofWorker _ _ => none
  | .allStarted =>
    some ⟨.info, "crawlert::pipeline::processor", "Processor started",
      [("groups", toString plans.length)]⟩
  | .allStopped => some ⟨.info, "crawlert::pipeline::processor", "Processor stopped", []⟩

/-- The log lines of what has been seen of a session, the earliest first. -/
def Session.lines (s : Session) (records : List Pipeline.Record) : List Log.Line :=
  (records.reverse.filterMap fun r => lineOf? s.plans r.sight).filter (Log.Line.passes s.filter)

/-- The log line at the beginning of a session. -/
def startLine : Log.Line :=
  ⟨.info, commandTarget, "Starting " ++ Place.programName ++ " v" ++ Command.version, []⟩

/-- How the call of a sender goes whose delivery ends at once, if it ends. -/
def deliveryOf (r : Alert.Report) : Pipeline.Delivery :=
  match r.ending with
  | some (.ok _) => {}
  | some (.error f) => { ending := .returned (.error (f.chain ++ f.detail.toList)) }
  | none => { delay := none }

/-- How calls go where no network can be reached. -/
def Session.world (s : Session) : Pipeline.World where
  visit crawl _ :=
    match s.plans.find? (·.name == crawl) with
    | some p => .ofReply p.request.url 0 (Http.noNetwork p.request.url.render)
    | none => { ending := .returned (.error .cancelled) }
  senders := s.destinations.length
  delivery sender _ message :=
    match s.destinations[sender]? with
    | some d => deliveryOf (d.deliver (fun _ => Http.noNetwork d.address) message.text)
    | none => {}

/-- A session at its beginning. -/
def Session.schedule (s : Session) : Pipeline.Schedule := .ofPlans s.plans

end Lookout.Program
