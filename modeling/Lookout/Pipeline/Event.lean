import Lookout.Condition.Evaluation
import Lookout.Http.Fetch
import Lookout.Log.Filter
import Lookout.Text.Quoted
/-!
What a worker group tells of its work: events within a cycle, notices of its stages, and the calls
it makes to the crawler and to senders.
-/
namespace Lookout.Pipeline

/-- The wording of an error that was handed on, from its outermost cause to its innermost. -/
def chainText (chain : List String) : String := ": ".intercalate chain

/-- What happens within a cycle. -/
inductive Event where
  | fetched (bytes : Nat)
  | fetchFailed (e : Http.FetchError)
  | fetchPanicked (message : String)
  | evaluateClosed
  | queryFailed (e : Condition.ApplyError)
  | noMatch
  | matched
  | dispatchClosed
  | emptyMessage
  | sending (senders bodyBytes : Nat)
  | sendFailed (failures : List (List String))
  | sendPanicked (message : String)

namespace Event

/-- How severe an event is. -/
def level : Event → Log.Level
  | fetched _ | matched | emptyMessage | sending _ _ => .debug
  | noMatch => .info
  | fetchFailed _ | fetchPanicked _ | evaluateClosed | queryFailed _ | dispatchClosed
  | sendFailed _ | sendPanicked _ => .error

/-- The text of an event. -/
def message : Event → String
  | fetched _ => "Fetched response"
  | fetchFailed _ => "Failed to crawl"
  | fetchPanicked _ => "Recovered from panic while fetching"
  | evaluateClosed => "Evaluate queue closed, stopping fetch"
  | queryFailed _ => "Failed to apply query"
  | noMatch => "query result does not match"
  | matched => "Query matched"
  | dispatchClosed => "Dispatch queue closed, stopping evaluate"
  | emptyMessage => "Rendered message is empty, nothing to send"
  | sending _ _ => "Sending message"
  | sendFailed _ => "failed to send message"
  | sendPanicked _ => "Recovered from panic while dispatching"

/-- The named details of an event. -/
def details : Event → List (String × String)
  | fetched bytes => [("bytes", toString bytes)]
  | fetchFailed e => [("error", e.message)]
  | fetchPanicked text => [("panic", text)]
  | queryFailed e => [("error", e.message)]
  | sending senders bodyBytes =>
    [("senders", toString senders), ("body_bytes", toString bodyBytes)]
  | sendFailed failures =>
    [("failed", toString failures.length),
      ("errors", "[" ++ ", ".intercalate (failures.map fun f => Text.quoted (chainText f)) ++ "]")]
  | sendPanicked text => [("panic", text)]
  | evaluateClosed | noMatch | matched | dispatchClosed | emptyMessage => []

/-- The part of the program that tells of an event. -/
def target : Event → String
  | fetched _ | fetchFailed _ | fetchPanicked _ | evaluateClosed => "crawlert::pipeline::fetch"
  | queryFailed _ | noMatch | matched | dispatchClosed => "crawlert::pipeline::evaluate"
  | emptyMessage | sending _ _ | sendFailed _ | sendPanicked _ => "crawlert::pipeline::dispatch"

end Event

/-- What is told of a worker group outside its cycles. -/
inductive Notice where
  | started
  | fetchClosed
  | triggerStopped
  | fetchStopped
  | evaluateStopped
  | dispatchStopped
  | stopped
  deriving DecidableEq, Repr

namespace Notice

/-- How severe a notice is. -/
def level : Notice → Log.Level
  | fetchClosed => .warn
  | _ => .info

/-- The text of a notice. -/
def message : Notice → String
  | started => "Worker group started"
  | fetchClosed => "Fetch queue closed, stopping trigger"
  | triggerStopped => "Trigger stage stopped"
  | fetchStopped => "Fetch stage stopped"
  | evaluateStopped => "Evaluate stage stopped"
  | dispatchStopped => "Dispatch stage stopped"
  | stopped => "Worker group stopped"

/-- The part of the program that tells of a notice. -/
def target : Notice → String
  | started | stopped => "crawlert::pipeline::group"
  | fetchClosed | triggerStopped => "crawlert::pipeline::trigger"
  | fetchStopped => "crawlert::pipeline::fetch"
  | evaluateStopped => "crawlert::pipeline::evaluate"
  | dispatchStopped => "crawlert::pipeline::dispatch"

end Notice

/-- What can be seen of a worker group. Cycles go by their number, and senders by their place. -/
inductive Note where
  /-- The crawler is called for a cycle. -/
  | fetch (seq : Nat)
  /-- A sender is called with the message of a cycle. -/
  | send (seq sender : Nat) (text : String)
  | event (seq : Nat) (e : Event)
  | notice (n : Notice)

end Lookout.Pipeline
