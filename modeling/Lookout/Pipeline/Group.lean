import Lookout.Pipeline.Event
import Lookout.Pipeline.Fanout
import Lookout.Pipeline.Plan
/-!
A worker group: the four stages of one crawl with a queue between each two. The trigger starts
cycles, and the other stages fetch, evaluate and dispatch them. A stage takes its next cycle when
it has handed on the one before, so that a slow stage holds up those in front of it. Once the group
is cancelled the trigger stops, and each stage stops when the one in front has stopped and its
queue is empty.
-/
namespace Lookout.Pipeline

/-- The four stages. -/
inductive Stage where
  | trigger | fetch | evaluate | dispatch
  deriving DecidableEq, Repr

/-- A cycle with its response. -/
structure Fetched where
  seq : Nat
  body : ByteArray

/-- A cycle whose response matched. -/
structure Matched where
  seq : Nat
  body : ByteArray
  bindings : List (String × String)

/-- What the trigger does. -/
inductive TriggerState where
  /-- About to start a cycle. -/
  | firing (seq : Nat)
  /-- Handing on a cycle. -/
  | offering (seq : Nat)
  /-- Waiting to start the next cycle. -/
  | resting (next due : Nat)
  | stopped
  deriving DecidableEq

/-- What the fetch stage does. -/
inductive FetchState where
  | idle
  | fetching (seq : Nat) (due : Option Nat) (cancellable : Bool)
      (ending : Ending (Except Http.FetchError Http.Page))
  | offering (f : Fetched)
  | stopped

/-- What the evaluate stage does. -/
inductive EvaluateState where
  | idle
  | evaluating (f : Fetched)
  | offering (m : Matched)
  | stopped

/-- What the dispatch stage does. -/
inductive DispatchState where
  | idle
  | sending (seq : Nat) (calls : List Call)
  | stopped

/-- The number of cycles that fit into a queue. -/
def depth : Nat := 1

/-- A worker group. -/
structure Group where
  cancelled : Bool := false
  trigger : TriggerState := .firing 1
  toFetch : List Nat := []
  fetch : FetchState := .idle
  toEvaluate : List Fetched := []
  evaluate : EvaluateState := .idle
  toDispatch : List Matched := []
  dispatch : DispatchState := .idle

/-- Whether the trigger has stopped. -/
def TriggerState.isStopped : TriggerState → Bool
  | stopped => true
  | _ => false

/-- Whether the fetch stage has stopped. -/
def FetchState.isStopped : FetchState → Bool
  | stopped => true
  | _ => false

/-- Whether the evaluate stage has stopped. -/
def EvaluateState.isStopped : EvaluateState → Bool
  | stopped => true
  | _ => false

/-- Whether the dispatch stage has stopped. -/
def DispatchState.isStopped : DispatchState → Bool
  | stopped => true
  | _ => false

namespace Group

/-- The cycle whose message is dispatched next. -/
def nextDispatched (g : Group) : Nat :=
  match g.toDispatch with
  | m :: _ => m.seq
  | [] => 0

/-- Whether all stages have stopped. -/
def isStopped (g : Group) : Bool :=
  g.trigger.isStopped && g.fetch.isStopped && g.evaluate.isStopped && g.dispatch.isStopped

/-- A turn of the trigger at a time. A cycle that cannot be handed on before the group is cancelled
is given up. -/
def triggerTurn (p : Plan) (now : Nat) (g : Group) : Option (Group × List Note) :=
  match g.trigger with
  | .firing n => some ({ g with trigger := .offering n }, [])
  | .offering n =>
    if g.cancelled then some ({ g with trigger := .stopped }, [.notice .triggerStopped])
    else if g.fetch.isStopped then
      some ({ g with trigger := .stopped }, [.notice .fetchClosed, .notice .triggerStopped])
    else if g.toFetch.length < depth then
      some ({ g with trigger := .resting (n + 1) (now + p.interval), toFetch := g.toFetch ++ [n] },
        [])
    else none
  | .resting next due =>
    if g.cancelled then some ({ g with trigger := .stopped }, [.notice .triggerStopped])
    else if due ≤ now then some ({ g with trigger := .firing next }, [])
    else none
  | .stopped => none

/-- The group after a fetch of a cycle has ended. -/
def endFetch (g : Group) (seq : Nat) (ending : Ending (Except Http.FetchError Http.Page)) :
    Group × List Note :=
  match ending.guarded with
  | .error message => ({ g with fetch := .idle }, [.event seq (.fetchPanicked message)])
  | .ok (.error e) => ({ g with fetch := .idle }, [.event seq (.fetchFailed e)])
  | .ok (.ok page) =>
    ({ g with fetch := .offering ⟨seq, page.body⟩ }, [.event seq (.fetched page.body.size)])

/-- A turn of the fetch stage at a time. The visit says how a fetch goes that begins in it. -/
def fetchTurn (now : Nat) (visit : Http.Visit) (g : Group) : Option (Group × List Note) :=
  match g.fetch with
  | .idle =>
    match g.toFetch with
    | seq :: rest =>
      some ({ g with
        toFetch := rest
        fetch := .fetching seq (visit.delay.map (now + ·)) visit.cancellable visit.ending },
        [.fetch seq])
    | [] =>
      if g.trigger.isStopped then some ({ g with fetch := .stopped }, [.notice .fetchStopped])
      else none
  | .fetching seq due cancellable ending =>
    if cancellable && g.cancelled then some (g.endFetch seq (.returned (.error .cancelled)))
    else if due.any (· ≤ now) then some (g.endFetch seq ending)
    else none
  | .offering f =>
    if g.evaluate.isStopped then
      some ({ g with fetch := .stopped }, [.event f.seq .evaluateClosed, .notice .fetchStopped])
    else if g.toEvaluate.length < depth then
      some ({ g with fetch := .idle, toEvaluate := g.toEvaluate ++ [f] }, [])
    else none
  | .stopped => none

/-- A turn of the evaluate stage. -/
def evaluateTurn (p : Plan) (g : Group) : Option (Group × List Note) :=
  match g.evaluate with
  | .idle =>
    match g.toEvaluate with
    | f :: rest => some ({ g with toEvaluate := rest, evaluate := .evaluating f }, [])
    | [] =>
      if g.fetch.isStopped then some ({ g with evaluate := .stopped }, [.notice .evaluateStopped])
      else none
  | .evaluating f =>
    match p.condition.apply f.body with
    | .error e => some ({ g with evaluate := .idle }, [.event f.seq (.queryFailed e)])
    | .ok o =>
      if o.isMatch then
        some ({ g with evaluate := .offering ⟨f.seq, f.body, o.bindings⟩ },
          [.event f.seq .matched])
      else some ({ g with evaluate := .idle }, [.event f.seq .noMatch])
  | .offering m =>
    if g.dispatch.isStopped then
      some ({ g with evaluate := .stopped },
        [.event m.seq .dispatchClosed, .notice .evaluateStopped])
    else if g.toDispatch.length < depth then
      some ({ g with evaluate := .idle, toDispatch := g.toDispatch ++ [m] }, [])
    else none
  | .stopped => none

/-- The group after a matched cycle is handed to senders. -/
def startSending (p : Plan) (now : Nat) (deliveries : String → List Delivery) (g : Group) (m : Matched) :
    Group × List Note :=
  let text := Template.render p.message m.bindings
  if text.isEmpty then ({ g with dispatch := .idle }, [.event m.seq .emptyMessage])
  else
    let (called, calls) := startCalls now (deliveries text)
    let notes := .event m.seq (.sending (deliveries text).length m.body.size) ::
      (List.range called).map fun sender => .send m.seq sender text
    match calls with
    | .error message =>
      ({ g with dispatch := .idle }, notes ++ [.event m.seq (.sendPanicked message)])
    | .ok calls => ({ g with dispatch := .sending m.seq calls }, notes)

/-- The notes on a message whose calls have all ended. -/
def sendingNotes (seq : Nat) (calls : List Call) : List Note :=
  match calls.filterMap Call.failure? with
  | [] => []
  | failures => [.event seq (.sendFailed failures)]

/-- A turn of the dispatch stage at a time. The deliveries say how calls of the senders go that
begin in it with a text. -/
def dispatchTurn (p : Plan) (now : Nat) (deliveries : String → List Delivery) (g : Group) :
    Option (Group × List Note) :=
  match g.dispatch with
  | .idle =>
    match g.toDispatch with
    | m :: rest => some (startSending p now deliveries { g with toDispatch := rest } m)
    | [] =>
      if g.evaluate.isStopped then
        some ({ g with dispatch := .stopped }, [.notice .dispatchStopped])
      else none
  | .sending seq calls =>
    if !calls.any Call.isWaiting then
      some ({ g with dispatch := .idle }, sendingNotes seq calls)
    else if calls.any (Call.isDue now) then
      match pollCalls now calls with
      | .error message =>
        some ({ g with dispatch := .idle }, [.event seq (.sendPanicked message)])
      | .ok calls => some ({ g with dispatch := .sending seq calls }, [])
    else none
  | .stopped => none

/-- A turn of a stage at a time, when the stage can do something. -/
def turn (p : Plan) (stage : Stage) (now : Nat) (visit : Http.Visit) (deliveries : String → List Delivery)
    (g : Group) : Option (Group × List Note) :=
  match stage with
  | .trigger => g.triggerTurn p now
  | .fetch => g.fetchTurn now visit
  | .evaluate => g.evaluateTurn p
  | .dispatch => g.dispatchTurn p now deliveries

/-- Whether a stage can do something at a time. -/
def canTurn (stage : Stage) (now : Nat) (g : Group) : Bool :=
  match stage with
  | .trigger =>
    match g.trigger with
    | .firing _ => true
    | .offering _ => g.cancelled || g.fetch.isStopped || g.toFetch.length < depth
    | .resting _ due => g.cancelled || due ≤ now
    | .stopped => false
  | .fetch =>
    match g.fetch with
    | .idle => !g.toFetch.isEmpty || g.trigger.isStopped
    | .fetching _ due cancellable _ => (cancellable && g.cancelled) || due.any (· ≤ now)
    | .offering _ => g.evaluate.isStopped || g.toEvaluate.length < depth
    | .stopped => false
  | .evaluate =>
    match g.evaluate with
    | .idle => !g.toEvaluate.isEmpty || g.fetch.isStopped
    | .evaluating _ => true
    | .offering _ => g.dispatch.isStopped || g.toDispatch.length < depth
    | .stopped => false
  | .dispatch =>
    match g.dispatch with
    | .idle => !g.toDispatch.isEmpty || g.evaluate.isStopped
    | .sending _ calls => !calls.any Call.isWaiting || calls.any (Call.isDue now)
    | .stopped => false

/-- A stage can do something exactly when it has a turn, whatever the calls of the crawler and of
the senders are like. -/
theorem canTurn_eq_isSome (p : Plan) (stage : Stage) (now : Nat) (visit : Http.Visit)
    (deliveries : String → List Delivery) (g : Group) :
    g.canTurn stage now = (g.turn p stage now visit deliveries).isSome := by
  cases stage with
  | trigger =>
    simp only [canTurn, turn, triggerTurn]
    cases g.trigger <;> simp <;> grind
  | fetch =>
    simp only [canTurn, turn, fetchTurn]
    cases g.fetch <;> simp <;> grind
  | evaluate =>
    simp only [canTurn, turn, evaluateTurn]
    cases g.evaluate <;> simp <;> grind
  | dispatch =>
    simp only [canTurn, turn, dispatchTurn]
    cases g.dispatch <;> simp <;> grind

/-- The times at which a stage that waits is to go on. -/
def dues (stage : Stage) (g : Group) : List Nat :=
  match stage with
  | .trigger =>
    match g.trigger with
    | .resting _ due => [due]
    | _ => []
  | .fetch =>
    match g.fetch with
    | .fetching _ due _ _ => due.toList
    | _ => []
  | .evaluate => []
  | .dispatch =>
    match g.dispatch with
    | .sending _ calls => calls.filterMap Call.due?
    | _ => []

end Group

end Lookout.Pipeline
