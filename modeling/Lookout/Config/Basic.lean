import Lookout.Duration
/-!
The settings of the program: what it logs, which crawls it runs and whom it alerts.
-/
namespace Lookout

namespace Config

/-- The form of log lines. -/
inductive LogFormat where
  | text | json
  deriving DecidableEq, Repr, Inhabited

/-- The least severe log lines that are written. -/
inductive LogLevel where
  | debug | info | warn | error
  deriving DecidableEq, Repr, Inhabited

/-- The name of a form of log lines. -/
def LogFormat.name : LogFormat → String
  | text => "text"
  | json => "json"

/-- All forms of log lines. -/
def LogFormat.all : List LogFormat := [text, json]

/-- The name of a level. -/
def LogLevel.name : LogLevel → String
  | debug => "debug"
  | info => "info"
  | warn => "warn"
  | error => "error"

/-- All levels. -/
def LogLevel.all : List LogLevel := [debug, info, warn, error]

/-- What is logged. -/
structure Log where
  format : LogFormat := .text
  level : LogLevel := .info
  /-- Whether log lines name the place in the program that wrote them. -/
  caller : Bool := false
  deriving DecidableEq, Repr, Inhabited

/-- A web resource to fetch. -/
structure HttpTarget where
  method : String := ""
  url : String := ""
  /-- In increasing order of name. -/
  header : List (String × String) := []
  body : String := ""
  deriving DecidableEq, Repr, Inhabited

/-- What decides whether a response is worth a message, and what is taken from it. -/
structure QueryTexts where
  check : String := ""
  /-- In increasing order of name. -/
  bindings : List (String × String) := []
  deriving DecidableEq, Repr, Inhabited

/-- A resource to poll, a condition on it and a message. -/
structure Crawl where
  name : String
  enabled : Bool := false
  /-- The time between the starts of two cycles. -/
  interval : Duration := .zero
  target : HttpTarget
  query : QueryTexts := {}
  message : String := ""
  deriving DecidableEq, Repr, Inhabited

/-- The services that alerts go to. -/
inductive AlertKind where
  | telegram | discord
  deriving DecidableEq, Repr, Inhabited

/-- The name of a service. -/
def AlertKind.name : AlertKind → String
  | telegram => "telegram"
  | discord => "discord"

/-- All services. -/
def AlertKind.all : List AlertKind := [telegram, discord]

/-- Where Telegram messages go. -/
structure Telegram where
  botToken : String := ""
  chatIds : List String := []
  deriving DecidableEq, Repr, Inhabited

/-- Where Discord messages go. -/
structure Discord where
  webhookUrls : List String := []
  deriving DecidableEq, Repr, Inhabited

/-- The service that alerts go to, and where each service delivers them. -/
structure Alerts where
  kind : AlertKind := .telegram
  telegram : Telegram := {}
  discord : Discord := {}
  deriving DecidableEq, Repr, Inhabited

end Config

/-- All settings. -/
structure Config where
  log : Config.Log := {}
  crawls : List Config.Crawl := []
  alerts : Config.Alerts := {}
  deriving DecidableEq, Repr, Inhabited

/-- The crawls that are to run, in order. -/
def Config.enabledCrawls (c : Config) : List Config.Crawl := c.crawls.filter (·.enabled)

end Lookout
