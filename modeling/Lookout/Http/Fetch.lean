import Lookout.Http.Request
import Lookout.Http.Status
import Lookout.Panic
/-!
Fetching: what a server makes of a request, what comes of it for the one who asked, and how a
fetch goes on when its cycle is cancelled.
-/
namespace Lookout.Http

/-- A response that arrived whole. -/
structure Response where
  status : Nat
  headers : List (String × ByteArray)
  body : ByteArray

/-- What becomes of a request that is sent. -/
inductive Reply where
  /-- No response arrives. -/
  | unreachable (reason : String)
  /-- A response begins, but its body cannot be read. -/
  | cutOff (status : Nat) (reason : String)
  | response (r : Response)
  /-- The server keeps silent for ever. -/
  | silence

/-- What a fetch brings. -/
structure Page where
  headers : List (String × ByteArray) := []
  body : ByteArray

/-- Why a fetch brings nothing. -/
inductive FetchError where
  | transport (reason : String)
  | status (code : Nat) (url : Url)
  | body (reason : String)
  | cancelled
  deriving DecidableEq, Repr

/-- The wording of an error. -/
def FetchError.message : FetchError → String
  | transport reason => "doing http request: " ++ reason
  | status code url =>
    "unexpected http response code '" ++ statusText code ++ "' from " ++ url.render
  | body reason => "reading http response body: " ++ reason
  | cancelled => "fetch cancelled by shutdown"

/-- What a reply brings to the one who asked for an address; nothing ever while the server keeps
silent. The status is looked at before the body is read. -/
def Reply.page? (url : Url) : Reply → Option (Except FetchError Page)
  | unreachable reason => some (.error (.transport reason))
  | cutOff code reason =>
    some (.error (if isClientError code || isServerError code then .status code url else .body reason))
  | response r =>
    some (if isClientError r.status || isServerError r.status then .error (.status r.status url)
      else .ok ⟨r.headers, r.body⟩)
  | silence => none

/-- How a fetch goes. -/
structure Visit where
  /-- The time in milliseconds until it ends by itself, if it ever does. -/
  delay : Option Nat := some 0
  /-- Whether it ends at once when its cycle is cancelled. -/
  cancellable : Bool := false
  ending : Ending (Except FetchError Page)

/-- The fetch of a request from a server that replies after a delay. A cycle that is already
cancelled sends nothing, and one that is cancelled later does not wait. -/
def Visit.ofReply (url : Url) (delay : Nat) (reply : Reply) : Visit where
  delay := (reply.page? url).map fun _ => delay
  cancellable := true
  ending := .returned ((reply.page? url).getD (.error .cancelled))

/-- The reply to a request for an address where no network can be reached. -/
def noNetwork (address : String) : Reply :=
  .unreachable ("error sending request for url (" ++ address ++ "): error trying to connect: " ++
    "tcp connect error: Network is unreachable (os error 101)")

end Lookout.Http
