import Lookout.Config.Basic
import Lookout.Json.Value
/-!
Settings as JSON documents with all their fields.
-/
namespace Lookout.Config

open Json (Value)

/-- Texts by name as an object. -/
def textMap (list : List (String × String)) : Value :=
  .ofFields (list.map fun (k, s) => (k, .string s))

/-- Texts as an array. -/
def textList (list : List String) : Value := .array (list.map .string)

/-- What is logged as an object. -/
def Log.toJson (l : Log) : Value :=
  .ofFields [("format", .string l.format.name), ("level", .string l.level.name),
    ("caller", .bool l.caller)]

/-- A web resource as an object. -/
def HttpTarget.toJson (t : HttpTarget) : Value :=
  .ofFields [("method", .string t.method), ("url", .string t.url), ("header", textMap t.header),
    ("body", .string t.body)]

/-- Queries as an object. -/
def QueryTexts.toJson (q : QueryTexts) : Value :=
  .ofFields [("check", .string q.check), ("variables", textMap q.bindings)]

/-- A crawl as an object. -/
def Crawl.toJson (c : Crawl) : Value :=
  .ofFields [("name", .string c.name), ("enabled", .bool c.enabled),
    ("interval", .string c.interval.render), ("target", .ofFields [("http", c.target.toJson)]),
    ("query", c.query.toJson), ("message", .string c.message)]

/-- Alerts as an object. -/
def Alerts.toJson (a : Alerts) : Value :=
  .ofFields [("type", .string a.kind.name),
    ("telegram", .ofFields [("bot-token", .string a.telegram.botToken),
      ("chat-ids", textList a.telegram.chatIds)]),
    ("discord", .ofFields [("webhook-urls", textList a.discord.webhookUrls)])]

/-- All settings as an object. -/
def toJson (c : Config) : Value :=
  .ofFields [("log", c.log.toJson), ("crawls", .array (c.crawls.map Crawl.toJson)),
    ("alerts", c.alerts.toJson)]

end Lookout.Config
