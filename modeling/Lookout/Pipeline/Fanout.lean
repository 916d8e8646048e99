import Lookout.Panic
/-!
One message to several senders. They are called in order without waiting for each other; the
message is done when all calls have ended. A panic of one call ends the message at once, so that
senders after one that panics when it is called are not called at all.
-/
namespace Lookout.Pipeline

/-- How the call of a sender goes: the time in milliseconds that it takes, if it ever ends, and
whether it then succeeds, fails for a chain of causes, or panics. -/
structure Delivery where
  delay : Option Nat := some 0
  ending : Ending (Except (List String) Unit) := .returned (.ok ())

/-- The call of a sender. -/
inductive Call where
  | waiting (due : Option Nat) (ending : Ending (Except (List String) Unit))
  | succeeded
  | failed (chain : List String)

namespace Call

/-- The call of a sender at its beginning. -/
def start (now : Nat) (d : Delivery) : Call := .waiting (d.delay.map (now + ·)) d.ending

/-- Whether a call is to end by now. -/
def isDue (now : Nat) : Call → Bool
  | waiting due _ => due.any (· ≤ now)
  | _ => false

/-- Whether a call has not ended. -/
def isWaiting : Call → Bool
  | waiting _ _ => true
  | _ => false

/-- The time at which a call that has not ended is to end, if it ever is. -/
def due? : Call → Option Nat
  | waiting due _ => due
  | _ => none

/-- Why a call failed. -/
def failure? : Call → Option (List String)
  | failed chain => some chain
  | _ => none

/-- Ends a call that is due; tells the message of its panic. -/
def poll (now : Nat) : Call → Except String Call
  | waiting due ending =>
    if due.any (· ≤ now) then
      match ending.guarded with
      | .error message => .error message
      | .ok (.ok _) => .ok succeeded
      | .ok (.error chain) => .ok (failed chain)
    else .ok (waiting due ending)
  | c => .ok c

end Call

/-- Ends the calls that are due, in order, up to the first panic. -/
def pollCalls (now : Nat) : List Call → Except String (List Call)
  | [] => .ok []
  | c :: rest =>
    match c.poll now with
    | .error message => .error message
    | .ok c =>
      match pollCalls now rest with
      | .error message => .error message
      | .ok done => .ok (c :: done)

/-- Calls senders in order, up to the first that panics at once. Gives the number of senders
called, and their calls or the message of the panic. -/
def startCalls (now : Nat) : List Delivery → Nat × Except String (List Call)
  | [] => (0, .ok [])
  | d :: rest =>
    match (Call.start now d).poll now with
    | .error message => (1, .error message)
    | .ok c =>
      match startCalls now rest with
      | (n, .error message) => (n + 1, .error message)
      | (n, .ok done) => (n + 1, .ok (c :: done))

end Lookout.Pipeline
