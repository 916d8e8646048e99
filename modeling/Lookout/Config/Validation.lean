import Lookout.Config.Basic
import Lookout.Url.Parse
/-!
Settings that make sense: alerts have somewhere to go, and every crawl has a name, a positive
interval, a message and a target with a known method and a well-formed address.
-/
namespace Lookout.Config

/-- The methods that crawls may use. -/
def allowedMethods : List String := ["GET", "POST", "PUT", "PATCH", "DELETE"]

/-- What makes no sense in a target. -/
inductive TargetFlaw where
  | method (text : String)
  | url (text : String) (e : Url.ParseError)
  deriving DecidableEq, Repr

/-- What makes no sense in a crawl. -/
inductive CrawlFlaw where
  | noName
  | noInterval (name : String)
  | noMessage (name : String)
  | target (name : String) (flaw : TargetFlaw)
  deriving DecidableEq, Repr

/-- What makes no sense in alerts. -/
inductive AlertsFlaw where
  | noBotToken
  | noChatIds
  | noWebhooks
  | webhook (text : String) (e : Url.ParseError)
  deriving DecidableEq, Repr

/-- What makes no sense in settings. -/
inductive Flaw where
  | alerts (flaw : AlertsFlaw)
  | crawl (flaw : CrawlFlaw)
  deriving DecidableEq, Repr

/-- The wording of a flaw from the outermost part to the innermost, one text for each. -/
def AlertsFlaw.chain : AlertsFlaw → List String
  | noBotToken => ["validating telegram config", "bot token should not be empty"]
  | noChatIds => ["validating telegram config", "chat ids should not be empty"]
  | noWebhooks => ["validating discord config", "webhook urls should not be empty"]
  | webhook text e =>
    ["validating discord config", "parsing webhook url '" ++ text ++ "'", e.message]

/-- The wording of a flaw in a target from the outermost part to the innermost. -/
def TargetFlaw.chain : TargetFlaw → List String
  | method text => ["unexpected method '" ++ text ++ "'"]
  | url text e => ["parsing url '" ++ text ++ "'", e.message]

/-- The wording of a flaw in a crawl from the outermost part to the innermost. -/
def CrawlFlaw.chain : CrawlFlaw → List String
  | noName => ["name should not be empty"]
  | noInterval name => ["interval of " ++ name ++ " should be positive"]
  | noMessage name => ["message of " ++ name ++ " should not be empty"]
  | target name flaw => ("validating http target of " ++ name) :: flaw.chain

/-- The wording of a flaw in settings from the outermost part to the innermost. -/
def Flaw.chain : Flaw → List String
  | alerts flaw => "validating alerts config" :: flaw.chain
  | crawl flaw => "validating crawl config" :: flaw.chain

/-- The wording of a flaw in alerts. -/
def AlertsFlaw.message (flaw : AlertsFlaw) : String := ": ".intercalate flaw.chain

/-- The wording of a flaw in settings. -/
def Flaw.message (flaw : Flaw) : String := ": ".intercalate flaw.chain

/-- Looks for a flaw in a target. -/
def HttpTarget.validate (t : HttpTarget) : Except TargetFlaw Unit :=
  if !allowedMethods.contains t.method then .error (.method t.method)
  else
    match Url.parse t.url with
    | .error e => .error (.url t.url e)
    | .ok _ => .ok ()

/-- Looks for a flaw in a crawl. -/
def Crawl.validate (c : Crawl) : Except CrawlFlaw Unit :=
  if c.name.isEmpty then .error .noName
  else if c.interval.nanoseconds = 0 then .error (.noInterval c.name)
  else if c.message.isEmpty then .error (.noMessage c.name)
  else c.target.validate.mapError (.target c.name)

/-- Looks for a flaw in Telegram deliveries. -/
def Telegram.validate (t : Telegram) : Except AlertsFlaw Unit :=
  if t.botToken.isEmpty then .error .noBotToken
  else if t.chatIds.isEmpty then .error .noChatIds
  else .ok ()

/-- Looks for a flaw in the addresses of webhooks, in turn. -/
def validateWebhooks : List String → Except AlertsFlaw Unit
  | [] => .ok ()
  | text :: rest =>
    match Url.parse text with
    | .error e => .error (.webhook text e)
    | .ok _ => validateWebhooks rest

/-- Looks for a flaw in Discord deliveries. -/
def Discord.validate (d : Discord) : Except AlertsFlaw Unit :=
  if d.webhookUrls.isEmpty then .error .noWebhooks else validateWebhooks d.webhookUrls

/-- Looks for a flaw in the deliveries of the chosen service. -/
def Alerts.validate (a : Alerts) : Except AlertsFlaw Unit :=
  match a.kind with
  | .telegram => a.telegram.validate
  | .discord => a.discord.validate

/-- Looks for a flaw in crawls, in turn. -/
def validateCrawls : List Crawl → Except CrawlFlaw Unit
  | [] => .ok ()
  | c :: rest =>
    match c.validate with
    | .error flaw => .error flaw
    | .ok _ => validateCrawls rest

/-- Looks for a flaw in settings: first in the alerts, then in the crawls in turn. -/
def validate (c : Config) : Except Flaw Unit :=
  match c.alerts.validate with
  | .error flaw => .error (.alerts flaw)
  | .ok _ => (validateCrawls c.crawls).mapError .crawl

end Lookout.Config
