import Lookout.Http.Fetch
/-!
A call of the crawler, look by look. It looks first whether its cycle is cancelled. Unless that is so
it waits for two things at once, that its cycle is cancelled and that its fetch ends, and looks after
them in no certain order. The first look after the fetch is what sends the request.
-/
namespace Lookout.Http

/-- The time in milliseconds that the client waits for a whole response. -/
def requestTimeout : Nat := 120000

/-- What the network makes of a request that is sent: a reply after a time in milliseconds, unless it
is silence. -/
structure Exchange where
  delay : Nat := 0
  reply : Reply

namespace Exchange

/-- What a request for an address brings before the client gives it up. -/
def inTime? (url : Url) (e : Exchange) : Option (Except FetchError Page) :=
  if e.delay ≤ requestTimeout then e.reply.page? url else none

/-- The time in milliseconds that the fetch of an address takes. -/
def wait (url : Url) (e : Exchange) : Nat :=
  if (e.inTime? url).isSome then e.delay else requestTimeout

/-- The error of a request for an address that the client has given up. -/
def givenUp (url : Url) : FetchError :=
  .transport ("error sending request for url (" ++ url.render ++ "): operation timed out")

/-- What the fetch of an address brings in the end. -/
def result (url : Url) (e : Exchange) : Except FetchError Page :=
  (e.inTime? url).getD (.error (givenUp url))

end Exchange

/-- How far a call of the crawler has come. -/
inductive Attempt where
  /-- It has not looked at anything. -/
  | entered
  /-- It waits, and has not looked after its fetch. -/
  | waiting
  /-- It waits for the end of its fetch, whose request was sent at a time. -/
  | sent (since : Nat) (e : Exchange)
  | returned (result : Except FetchError Page)

/-- What a call looks at. -/
inductive Look where
  /-- Whether its cycle is cancelled, before anything else. -/
  | check
  /-- Whether its cycle has been cancelled, while it waits. -/
  | cancellation
  /-- The fetch, for the first time; the network makes this of the request. -/
  | send (e : Exchange)
  /-- The fetch, once its request was sent. -/
  | receive

namespace Attempt

/-- A call for a request after a look at a time, and the requests that it sends. There is none when the
call does not look at that, or when nothing has happened there. -/
def look? (r : Request) (time : Nat) (cancelled : Bool) : Attempt → Look → Option (Attempt × List Request)
  | entered, .check => some (if cancelled then returned (.error .cancelled) else waiting, [])
  | waiting, .cancellation | sent _ _, .cancellation =>
    if cancelled then some (returned (.error .cancelled), []) else none
  | waiting, .send e => some (sent time e, [r])
  | sent since e, .receive =>
    if since + e.wait r.url ≤ time then some (returned (e.result r.url), []) else none
  | _, _ => none

/-- The result of a call that has returned. -/
def result? : Attempt → Option (Except FetchError Page)
  | returned result => some result
  | _ => none

end Attempt

end Lookout.Http
