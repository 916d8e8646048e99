import Lookout.Alert.Chunks
import Lookout.Alert.Markdown
import Lookout.Config.Basic
import Lookout.Http.Fetch
import Lookout.Json.Writer
import Lookout.Text.Utf8
/-!
Delivery of messages. A destination is a Telegram chat, which gets one request with the text
escaped and cut off, or a Discord webhook, which gets a request for each chunk of the text until
one is not accepted. Nothing is sent of an empty text, or to an address that is not of the web.
-/
namespace Lookout.Alert

/-- Where messages are delivered. -/
inductive Destination where
  | telegram (api token chat : String)
  | discord (webhook : Url)
  deriving DecidableEq, Repr

/-- Why a destination cannot be set up. -/
structure WebhookError where
  text : String
  cause : Url.ParseError
  deriving DecidableEq, Repr

/-- The wording of an error from the outermost part to the innermost. -/
def WebhookError.chain (e : WebhookError) : List String :=
  ["creating discord sender for " ++ e.text, "parsing webhook url", e.cause.message]

/-- The service of bots. -/
def telegramApi : String := "https://api.telegram.org"

/-- A text without slashes at its end. -/
def withoutSlashes (s : String) : String :=
  String.ofList (s.toList.reverse.dropWhile (· == '/')).reverse

/-- The chat of a bot, with the service at a base address. -/
def Destination.ofChat (api token chat : String) : Destination :=
  .telegram (withoutSlashes api) token chat

/-- The webhook at an address. -/
def Destination.ofWebhook (text : String) : Except WebhookError Destination :=
  match Url.parse text with
  | .ok url => .ok (.discord url)
  | .error e => .error ⟨text, e⟩

/-- The webhooks at addresses, up to the first that is malformed. -/
def webhooks : List String → Except WebhookError (List Destination)
  | [] => .ok []
  | text :: rest =>
    match Destination.ofWebhook text with
    | .error e => .error e
    | .ok d =>
      match webhooks rest with
      | .error e => .error e
      | .ok done => .ok (d :: done)

/-- The destinations of the chosen service, one for each chat or webhook. -/
def destinations (a : Config.Alerts) : Except WebhookError (List Destination) :=
  match a.kind with
  | .telegram => .ok (a.telegram.chatIds.map (Destination.ofChat telegramApi a.telegram.botToken))
  | .discord => webhooks a.discord.webhookUrls

/-! ### Requests -/

/-- A request that delivers something. -/
structure Post where
  address : String
  body : String
  deriving DecidableEq, Repr

/-- Why a delivery fails, from the outermost cause to the innermost. What the network itself tells
is kept apart. -/
structure Failure where
  chain : List String
  detail : Option String := none
  deriving DecidableEq, Repr

/-- The wording of a failure. -/
def Failure.message (f : Failure) : String := ": ".intercalate (f.chain ++ f.detail.toList)

/-- Whether requests can be made to an address: it is one of the web. -/
def isWeb (url : Url) : Bool := url.scheme == "http" || url.scheme == "https"

/-- The address that a request is made to; none is made to an address that is not of the web. -/
def target (url : Url) : Except Failure Url :=
  if isWeb url then .ok url
  else .error ⟨["doing http request"],
    some ("builder error for url (" ++ url.render ++ "): URL scheme is not allowed")⟩

/-- The address for a text that a request is made to. -/
def targetOf (text : String) : Except Failure Url :=
  match Url.parse text with
  | .ok url => target url
  | .error e => .error ⟨["doing http request"], some ("builder error: " ++ e.message)⟩

/-- The most characters of an escaped text in one Telegram message. -/
def telegramLimit : Nat := 4096

/-- The most characters of one Discord message. -/
def discordLimit : Nat := 2000

/-- An object of texts, with its fields in the given order. -/
def objectText (fields : List (String × String)) : String :=
  "\x7b" ++ Json.renderFields true (fields.map fun (k, v) => (k, .string v)) ++ "\x7d"

/-- Where messages of a bot are sent to. -/
def telegramEndpoint (api token : String) : String := api ++ "/bot" ++ token ++ "/sendMessage"

/-- The request that delivers a text to a chat. -/
def telegramPost (endpoint : Url) (chat text : String) : Post where
  address := endpoint.render
  body := objectText
    [("chat_id", chat),
      ("text", String.ofList (Markdown.escape telegramLimit text.toList)),
      ("parse_mode", "MarkdownV2")]

/-- The request that delivers one chunk to a webhook. -/
def discordPost (webhook : Url) (chunk : List Char) : Post where
  address := webhook.render
  body := objectText [("content", String.ofList chunk)]

/-- The address that a destination is reached at. -/
def Destination.address : Destination → String
  | telegram api token _ =>
    match Url.parse (telegramEndpoint api token) with
    | .ok url => url.render
    | .error _ => telegramEndpoint api token
  | discord webhook => webhook.render

/-- The chunks of a text. -/
def discordChunks (text : String) : List (List Char) := Chunks.split discordLimit text.toList

/-! ### Acceptance -/

/-- Whether a reply accepts a message; there is no verdict while the server keeps silent. -/
def verdict? (accepted : List Nat) : Http.Reply → Option (Except Failure Unit)
  | .unreachable reason => some (.error ⟨["doing http request"], some reason⟩)
  | .cutOff _ reason => some (.error ⟨["reading response body"], some reason⟩)
  | .response r =>
    some (if accepted.contains r.status then .ok ()
      else .error ⟨["unexpected response status code " ++ Http.statusText r.status ++ "; body (" ++
        Text.decodeLossy r.body ++ ")"], none⟩)
  | .silence => none

/-- The statuses with which a chat accepts a message. -/
def telegramAccepts : List Nat := [200]

/-- The statuses with which a webhook accepts a message. -/
def discordAccepts : List Nat := [200, 204]

/-! ### Delivery -/

/-- What a delivery did: the requests it made, and how it ended. It has no ending when a server
keeps silent. -/
structure Report where
  posts : List Post
  ending : Option (Except Failure Unit)

/-- Delivers chunks in turn until one is not accepted. Replies are taken from the given place on,
one for each request. -/
def deliverChunks (webhook : Url) (reply : Nat → Http.Reply) (total : Nat) :
    (index : Nat) → List (List Char) → Report
  | _, [] => ⟨[], some (.ok ())⟩
  | index, chunk :: rest =>
    let step := "sending chunk " ++ toString (index + 1) ++ "/" ++ toString total
    let failed (f : Failure) : Except Failure Unit := .error { f with chain := step :: f.chain }
    match target webhook with
    | .error f => ⟨[], some (failed f)⟩
    | .ok url =>
      let post := discordPost url chunk
      match verdict? discordAccepts (reply index) with
      | none => ⟨[post], none⟩
      | some (.error f) => ⟨[post], some (failed f)⟩
      | some (.ok _) =>
        let later := deliverChunks webhook reply total (index + 1) rest
        ⟨post :: later.posts, later.ending⟩

/-- Delivers a text, where the n-th request of the delivery gets the n-th reply. -/
def Destination.deliver (reply : Nat → Http.Reply) (text : String) : Destination → Report
  | telegram api token chat =>
    if text.isEmpty then ⟨[], some (.ok ())⟩
    else
      match targetOf (telegramEndpoint api token) with
      | .error f => ⟨[], some (.error f)⟩
      | .ok url => ⟨[telegramPost url chat text], verdict? telegramAccepts (reply 0)⟩
  | discord webhook =>
    if text.isEmpty then ⟨[], some (.ok ())⟩
    else deliverChunks webhook reply (discordChunks text).length 0 (discordChunks text)

end Lookout.Alert
