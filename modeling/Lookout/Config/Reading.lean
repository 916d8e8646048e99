import Lookout.Config.Basic
import Lookout.Config.Fault
import Lookout.Text.Lowercase
/-!
Settings read from trees. Each record is read from a mapping, in the order of its keys, or from a
sequence that gives its fields in their order; unknown keys do not count, and what is not given
has its default. The first fault found is told.
-/
namespace Lookout.Config

/-- A result with a fault placed under a step. -/
def underStep {α : Type} (step : Step) : Except Fault α → Except Fault α
  | .ok a => .ok a
  | .error f => .error (f.under step)

/-- A fault of a type that does not fit. -/
def typeFault (t : Tree) (expected : String) : Fault := { cause := .type t.found expected }

/-! ### Scalars -/

/-- A scalar as text; nothing has none. -/
def Scalar.text? : Scalar → Option String
  | .null => none
  | .bool b => some (if b then "true" else "false")
  | .int n => some (toString n)
  | .float x =>
    some (if x.isFinite then Decimal.Style.plain.ofFloat x
      else if x < 0.0 then "-inf" else "inf")
  | .text s => some s

/-- The truth value that a text stands for. -/
def truthOf? (s : String) : Option Bool :=
  if ["1", "true", "on", "yes"].contains s then some true
  else if ["0", "false", "off", "no"].contains s then some false
  else none

/-- Reads a text. A text that is wanted for something else is asked for by that name only when
nothing is converted. -/
def readTextAs (strictness : Strictness) (wanted : String) (t : Tree) : Except Fault String :=
  match strictness, t with
  | .exact, .leaf _ (.text s) => .ok s
  | .exact, t => .error (typeFault t wanted)
  | .lenient, .leaf origin s =>
    match s.text? with
    | some text => .ok text
    | none => .error { cause := .type (.scalar s) "a string", origin }
  | .lenient, t => .error { cause := .type t.found "a string", origin := t.origin }

/-- Reads a text. -/
def readText (strictness : Strictness) (t : Tree) : Except Fault String :=
  readTextAs strictness "a string" t

/-- Reads a truth value. -/
def readTruth (strictness : Strictness) (t : Tree) : Except Fault Bool :=
  match strictness, t with
  | _, .leaf _ (.bool b) => .ok b
  | .lenient, .leaf _ (.int n) => .ok (n != 0)
  | .lenient, .leaf _ (.float x) => .ok (x != 0.0)
  | .lenient, .leaf origin (.text s) =>
    match truthOf? (Text.lowered s) with
    | some b => .ok b
    | none =>
      .error { cause := .type (.scalar (.text (Text.lowered s))) "a boolean", origin }
  | .lenient, t => .error { cause := .type t.found "a boolean", origin := t.origin }
  | .exact, t => .error (typeFault t "a boolean")

/-- Reads a duration from its text. -/
def readDuration (strictness : Strictness) (t : Tree) : Except Fault Duration :=
  match readTextAs strictness "a duration" t with
  | .error f => .error f
  | .ok s =>
    match Duration.read? s.toList with
    | some d => .ok d
    | none => .error { cause := .value (.scalar (.text s)) "a duration" }

/-- Finds one of several values by its name. -/
def findName {α : Type} (type : String) (all : List α) (name : α → String) (s : String) :
    Except Fault α :=
  match all.find? fun a => name a == s with
  | some a => .ok a
  | none => .error { cause := .unknownName type s (all.map name) }

/-- Reads one of several values from its name, or from a mapping with its name as only key. -/
def readName {α : Type} (strictness : Strictness) (type : String) (all : List α)
    (name : α → String) (t : Tree) : Except Fault α :=
  match strictness, t with
  | _, .leaf _ (.text s) => findName type all name s
  | .lenient, .fields _ [(s, _)] => findName type all name s
  | .lenient, _ => .error { cause := .noName type }
  | .exact, .fields _ [(s, content)] =>
    match findName type all name s, content with
    | .error f, _ => .error f
    | .ok a, .leaf _ .null => .ok a
    | .ok _, content => .error (typeFault content "unit")
  | .exact, .fields _ _ => .error { cause := .value .mapping "map with a single key" }
  | .exact, t => .error (typeFault t "string or map")

/-! ### Sequences and mappings -/

/-- Reads trees in turn, with their places counted from `i`. -/
def readEach {α : Type} (read : Tree → Except Fault α) (i : Nat) :
    List Tree → Except Fault (List α)
  | [] => .ok []
  | t :: rest =>
    match underStep (.index i) (read t) with
    | .error f => .error f
    | .ok a =>
      match readEach read (i + 1) rest with
      | .error f => .error f
      | .ok done => .ok (a :: done)

/-- Reads a sequence. -/
def readList {α : Type} (read : Tree → Except Fault α) (t : Tree) : Except Fault (List α) :=
  match t with
  | .items _ list => readEach read 0 list
  | t => .error (typeFault t "a sequence")

/-- Reads the texts of fields in turn. -/
def readTexts (strictness : Strictness) :
    List (String × Tree) → Except Fault (List (String × String))
  | [] => .ok []
  | (k, t) :: rest =>
    match underStep (.key k) (readText strictness t) with
    | .error f => .error f
    | .ok s =>
      match readTexts strictness rest with
      | .error f => .error f
      | .ok done => .ok ((k, s) :: done)

/-- Reads a mapping of names to texts. -/
def readTextMap (strictness : Strictness) (t : Tree) : Except Fault (List (String × String)) :=
  match t with
  | .fields _ list => readTexts strictness list
  | t => .error (typeFault t "a map")

/-! ### Records -/

/-- How a record is read field by field, from what it is when nothing is given. -/
structure Record (α : Type) where
  type : String
  /-- The fields in their order. -/
  names : List String
  start : α
  /-- Reads the value of a field into the record; there is no other field. -/
  put : (name : String) → Tree → α → Except Fault α

namespace Record

variable {α : Type}

/-- Reads fields in turn; unknown ones do not count. -/
def putFields (r : Record α) (a : α) : List (String × Tree) → Except Fault α
  | [] => .ok a
  | (k, t) :: rest =>
    if r.names.contains k then
      match underStep (.key k) (r.put k t a) with
      | .error f => .error f
      | .ok a => putFields r a rest
    else putFields r a rest

/-- Reads items as the values of fields in their order, with their places counted from `i`. -/
def putItems (r : Record α) (a : α) (i : Nat) : List String → List Tree → Except Fault α
  | name :: names, t :: rest =>
    match underStep (.index i) (r.put name t a) with
    | .error f => .error f
    | .ok a => putItems r a (i + 1) names rest
  | _, _ => .ok a

/-- What has been read, and whether from a sequence. -/
def readFrom (r : Record α) (t : Tree) : Except Fault (α × Bool) :=
  match t with
  | .fields _ list => (r.putFields r.start list).map (·, false)
  | .items _ list => (r.putItems r.start 0 r.names list).map (·, true)
  | t => .error (typeFault t ("struct " ++ r.type))

/-- Refuses a sequence with more items than fields, unless reading is lenient. -/
def checkLength (strictness : Strictness) (r : Record α) (t : Tree) : Except Fault Unit :=
  match strictness, t with
  | .exact, .items _ list =>
    if list.length > r.names.length then
      .error { cause := .length list.length "fewer elements in array" }
    else .ok ()
  | _, _ => .ok ()

/-- Reads a record of which no field has to be given. -/
def read (strictness : Strictness) (r : Record α) (t : Tree) : Except Fault α := do
  let (a, _) ← r.readFrom t
  r.checkLength strictness t
  return a

/-- The fault of a field that is not given, at its place among the fields. -/
def missing (r : Record α) (positional : Bool) (name : String) : Fault :=
  if positional then
    { cause := .length (r.names.idxOf name) ("struct " ++ r.type ++ " with " ++
        toString r.names.length ++ (if r.names.length == 1 then " element" else " elements")) }
  else { cause := .missing name }

end Record

/-! ### Settings -/

/-- What is logged, as a record. -/
def Log.record (strictness : Strictness) : Record Log where
  type := "LogConfig"
  names := ["format", "level", "caller"]
  start := {}
  put name t a :=
    match name with
    | "format" => do
      return { a with format := ← readName strictness "LogFormat" LogFormat.all LogFormat.name t }
    | "level" => do
      return { a with level := ← readName strictness "LogLevel" LogLevel.all LogLevel.name t }
    | _ => do return { a with caller := ← readTruth strictness t }

/-- A web resource as a record. -/
def HttpTarget.record (strictness : Strictness) : Record HttpTarget where
  type := "HttpTargetConfig"
  names := ["method", "url", "header", "body"]
  start := {}
  put name t a :=
    match name with
    | "method" => do return { a with method := ← readText strictness t }
    | "url" => do return { a with url := ← readText strictness t }
    | "header" => do return { a with header := ← readTextMap strictness t }
    | _ => do return { a with body := ← readText strictness t }

/-- Reads a web resource. -/
def HttpTarget.read (strictness : Strictness) (t : Tree) : Except Fault HttpTarget :=
  (record strictness).read strictness t

/-- The target of a crawl as a record of the kinds of targets that there are. -/
def Crawl.targetRecord (strictness : Strictness) : Record (Option HttpTarget) where
  type := "TargetConfig"
  names := ["http"]
  start := none
  put _ t _ := (HttpTarget.read strictness t).map some

/-- Reads the target of a crawl. -/
def Crawl.readTarget (strictness : Strictness) (t : Tree) : Except Fault HttpTarget := do
  let record := targetRecord strictness
  let (target, positional) ← record.readFrom t
  match target with
  | none => .error (record.missing positional "http")
  | some target =>
    record.checkLength strictness t
    return target

/-- Queries as a record. -/
def QueryTexts.record (strictness : Strictness) : Record QueryTexts where
  type := "QueryConfig"
  names := ["check", "variables"]
  start := {}
  put name t a :=
    match name with
    | "check" => do return { a with check := ← readText strictness t }
    | _ => do return { a with bindings := ← readTextMap strictness t }

/-- A crawl of which not all need be known. -/
structure Crawl.Draft where
  name : Option String := none
  enabled : Bool := false
  interval : Duration := .zero
  target : Option HttpTarget := none
  query : QueryTexts := {}
  message : String := ""

/-- A crawl as a record. -/
def Crawl.record (strictness : Strictness) : Record Crawl.Draft where
  type := "CrawlConfig"
  names := ["name", "enabled", "interval", "target", "query", "message"]
  start := {}
  put name t a :=
    match name with
    | "name" => do return { a with name := some (← readText strictness t) }
    | "enabled" => do return { a with enabled := ← readTruth strictness t }
    | "interval" => do return { a with interval := ← readDuration strictness t }
    | "target" => do return { a with target := some (← Crawl.readTarget strictness t) }
    | "query" => do return { a with query := ← (QueryTexts.record strictness).read strictness t }
    | _ => do return { a with message := ← readText strictness t }

/-- Reads a crawl. Its name and its target have to be given. -/
def Crawl.read (strictness : Strictness) (t : Tree) : Except Fault Crawl := do
  let record := record strictness
  let (draft, positional) ← record.readFrom t
  match draft.name, draft.target with
  | none, _ => .error (record.missing positional "name")
  | some _, none => .error (record.missing positional "target")
  | some name, some target =>
    record.checkLength strictness t
    return { name, enabled := draft.enabled, interval := draft.interval, target,
             query := draft.query, message := draft.message }

/-- Telegram deliveries as a record. -/
def Telegram.record (strictness : Strictness) : Record Telegram where
  type := "TelegramConfig"
  names := ["bot-token", "chat-ids"]
  start := {}
  put name t a :=
    match name with
    | "bot-token" => do return { a with botToken := ← readText strictness t }
    | _ => do return { a with chatIds := ← readList (readText strictness) t }

/-- Discord deliveries as a record. -/
def Discord.record (strictness : Strictness) : Record Discord where
  type := "DiscordConfig"
  names := ["webhook-urls"]
  start := {}
  put _ t a := do return { a with webhookUrls := ← readList (readText strictness) t }

/-- Alerts as a record. -/
def Alerts.record (strictness : Strictness) : Record Alerts where
  type := "AlertsConfig"
  names := ["type", "telegram", "discord"]
  start := {}
  put name t a :=
    match name with
    | "type" => do
      return { a with kind := ← readName strictness "AlertKind" AlertKind.all AlertKind.name t }
    | "telegram" => do
      return { a with telegram := ← (Telegram.record strictness).read strictness t }
    | _ => do return { a with discord := ← (Discord.record strictness).read strictness t }

/-- Reads alerts. -/
def Alerts.read (strictness : Strictness) (t : Tree) : Except Fault Alerts :=
  (record strictness).read strictness t

/-- Reads what is logged. -/
def Log.read (strictness : Strictness) (t : Tree) : Except Fault Log :=
  (record strictness).read strictness t

/-- All settings as a record. -/
def record (strictness : Strictness) : Record Config where
  type := "Config"
  names := ["log", "crawls", "alerts"]
  start := {}
  put name t a :=
    match name with
    | "log" => do return { a with log := ← Log.read strictness t }
    | "crawls" => do return { a with crawls := ← readList (Crawl.read strictness) t }
    | _ => do return { a with alerts := ← Alerts.read strictness t }

/-- Reads all settings. -/
def read (strictness : Strictness) (t : Tree) : Except Fault Config :=
  (record strictness).read strictness t

/-- Reads all settings from a JSON document, in which every value has the type of its field. -/
def ofJson (v : Json.Value) : Except Fault Config := read .exact (.ofJson v)

end Lookout.Config
