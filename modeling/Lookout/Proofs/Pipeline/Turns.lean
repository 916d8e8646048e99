import Lookout.Pipeline.Group
import Mathlib.Data.List.Forall2
import Mathlib.Tactic.SplitIfs
/-!
The turns of the four stages, one by one: what must hold for each, what it leaves of the group and
what it tells. Nothing else can happen in a turn, so that a fact about all turns is shown for each
of these and never by looking into a stage again.
-/
namespace Lookout.Pipeline

/-- The result of a call of the crawler: a message when it panics, or an error, or a page. -/
abbrev FetchResult := Except String (Except Http.FetchError Http.Page)

/-- The result that a call in progress has when it ends, and the cycle it is for. A call that
heeds the cancellation of its cycle ends as cancelled. -/
def FetchState.result? (cancelled : Bool) : FetchState → Option (Nat × FetchResult)
  | fetching seq _ cancellable ending =>
    some (seq, if cancellable && cancelled then .ok (.error .cancelled) else ending.guarded)
  | _ => none

/-- Whether a call in progress can end by now. -/
def FetchState.endsBy (now : Nat) (cancelled : Bool) : FetchState → Bool
  | fetching _ due cancellable _ => (cancellable && cancelled) || due.any (· ≤ now)
  | _ => false

/-- The text of a message to be sent. -/
def Plan.textOf (p : Plan) (m : Matched) : String := Template.render p.message m.bindings

/-- What polling leaves of a call of a sender, when the call does not panic. -/
inductive Call.Polled (now : Nat) : Call → Call → Prop where
  | waits {call : Call} (hWaits : call.isDue now = false) : Polled now call call
  | succeeds {due : Option Nat} (hDue : due.any (· ≤ now) = true) :
      Polled now (.waiting due (.returned (.ok ()))) .succeeded
  | fails {due : Option Nat} {chain : List String} (hDue : due.any (· ≤ now) = true) :
      Polled now (.waiting due (.returned (.error chain))) (.failed chain)

theorem Call.poll_cases {now : Nat} {call done : Call} (h : call.poll now = .ok done) :
    call.Polled now done := by
  cases call with
  | waiting due ending =>
      simp only [poll] at h
      split_ifs at h with hDue
      · cases ending with
        | panicked p => cases h
        | returned result =>
            cases result with
            | ok _ =>
                cases h
                exact .succeeds hDue
            | error chain =>
                cases h
                exact .fails hDue
      · cases h
        exact .waits (eq_false_of_ne_true hDue)
  | succeeded =>
      cases h
      exact .waits rfl
  | failed chain =>
      cases h
      exact .waits rfl

/-- Calls are polled one by one. -/
theorem polled_of_pollCalls {now : Nat} {calls done : List Call} (h : pollCalls now calls = .ok done) :
    List.Forall₂ (Call.Polled now) calls done := by
  induction calls generalizing done with
  | nil =>
      cases h
      exact .nil
  | cons call rest ih =>
      simp only [pollCalls] at h
      split at h
      · cases h
      · rename_i first hFirst
        split at h
        · cases h
        · rename_i others hOthers
          cases h
          exact .cons (Call.poll_cases hFirst) (ih hOthers)

/-- When no call panics at once, all senders are called, and each call is polled as it begins. -/
theorem polled_of_startCalls {now called : Nat} {ds : List Delivery} {calls : List Call}
    (h : startCalls now ds = (called, .ok calls)) :
    called = ds.length ∧ List.Forall₂ (fun d call => (Call.start now d).Polled now call) ds calls := by
  induction ds generalizing called calls with
  | nil =>
      cases h
      exact ⟨rfl, .nil⟩
  | cons d rest ih =>
      simp only [startCalls] at h
      split at h
      · cases h
      · rename_i first hFirst
        split at h
        · cases h
        · rename_i hRest
          cases h
          obtain ⟨hCalled, hCalls⟩ := ih hRest
          exact ⟨congrArg (· + 1) hCalled, .cons (Call.poll_cases hFirst) hCalls⟩

theorem length_of_startCalls {now called : Nat} {ds : List Delivery} {calls : List Call}
    (h : startCalls now ds = (called, .ok calls)) : called = ds.length ∧ calls.length = ds.length :=
  ⟨(polled_of_startCalls h).1, (polled_of_startCalls h).2.length_eq.symm⟩

namespace Group

/-- What is told when the first senders are called with a message. -/
def sendNotes (p : Plan) (deliveries : String → List Delivery) (m : Matched) (called : Nat) :
    List Note :=
  .event m.seq (.sending (deliveries (p.textOf m)).length m.body.size) ::
    (List.range called).map fun sender => .send m.seq sender (p.textOf m)

/-- The turns of the trigger. -/
inductive TriggerTurn (p : Plan) (now : Nat) (g : Group) : Group → List Note → Prop where
  | fire {n : Nat} (hState : g.trigger = .firing n) :
      TriggerTurn p now g { g with trigger := .offering n } []
  | abandon {n : Nat} (hState : g.trigger = .offering n) (hCancelled : g.cancelled = true) :
      TriggerTurn p now g { g with trigger := .stopped } [.notice .triggerStopped]
  | closed {n : Nat} (hState : g.trigger = .offering n) (hOpen : g.cancelled = false)
      (hStopped : g.fetch.isStopped = true) :
      TriggerTurn p now g { g with trigger := .stopped }
        [.notice .fetchClosed, .notice .triggerStopped]
  | accept {n : Nat} (hState : g.trigger = .offering n) (hOpen : g.cancelled = false)
      (hRuns : g.fetch.isStopped = false) (hRoom : g.toFetch.length < depth) :
      TriggerTurn p now g
        { g with trigger := .resting (n + 1) (now + p.interval), toFetch := g.toFetch ++ [n] } []
  | rise {next due : Nat} (hState : g.trigger = .resting next due) (hOpen : g.cancelled = false)
      (hDue : due ≤ now) :
      TriggerTurn p now g { g with trigger := .firing next } []
  | quit {next due : Nat} (hState : g.trigger = .resting next due) (hCancelled : g.cancelled = true) :
      TriggerTurn p now g { g with trigger := .stopped } [.notice .triggerStopped]

theorem triggerTurn_cases {p : Plan} {now : Nat} {g after : Group} {notes : List Note}
    (h : g.triggerTurn p now = some (after, notes)) : TriggerTurn p now g after notes := by
  cases hState : g.trigger with
  | firing n =>
      simp only [triggerTurn, hState, Option.some.injEq, Prod.mk.injEq] at h
      obtain ⟨rfl, rfl⟩ := h
      exact .fire hState
  | offering n =>
      simp only [triggerTurn, hState] at h
      split_ifs at h with hCancelled hStopped hRoom
      · cases h
        exact .abandon hState hCancelled
      · cases h
        exact .closed hState (eq_false_of_ne_true hCancelled) hStopped
      · cases h
        exact .accept hState (eq_false_of_ne_true hCancelled)
          (eq_false_of_ne_true hStopped) hRoom
  | resting next due =>
      simp only [triggerTurn, hState] at h
      split_ifs at h with hCancelled hDue
      · cases h
        exact .quit hState hCancelled
      · cases h
        exact .rise hState (eq_false_of_ne_true hCancelled) hDue
  | stopped => simp [triggerTurn, hState] at h

/-- The turns of the fetch stage. -/
inductive FetchTurn (now : Nat) (visit : Http.Visit) (g : Group) : Group → List Note → Prop where
  | call {seq : Nat} {rest : List Nat} (hState : g.fetch = .idle) (hQueue : g.toFetch = seq :: rest) :
      FetchTurn now visit g
        { g with
          toFetch := rest
          fetch := .fetching seq (visit.delay.map (now + ·)) visit.cancellable visit.ending }
        [.fetch seq]
  | stop (hState : g.fetch = .idle) (hQueue : g.toFetch = []) (hClosed : g.trigger.isStopped = true) :
      FetchTurn now visit g { g with fetch := .stopped } [.notice .fetchStopped]
  | panicked {seq : Nat} {message : String}
      (hResult : g.fetch.result? g.cancelled = some (seq, .error message))
      (hEnds : g.fetch.endsBy now g.cancelled = true) :
      FetchTurn now visit g { g with fetch := .idle } [.event seq (.fetchPanicked message)]
  | failed {seq : Nat} {e : Http.FetchError}
      (hResult : g.fetch.result? g.cancelled = some (seq, .ok (.error e)))
      (hEnds : g.fetch.endsBy now g.cancelled = true) :
      FetchTurn now visit g { g with fetch := .idle } [.event seq (.fetchFailed e)]
  | fetched {seq : Nat} {page : Http.Page}
      (hResult : g.fetch.result? g.cancelled = some (seq, .ok (.ok page)))
      (hEnds : g.fetch.endsBy now g.cancelled = true) :
      FetchTurn now visit g { g with fetch := .offering ⟨seq, page.body⟩ }
        [.event seq (.fetched page.body.size)]
  | hand {f : Fetched} (hState : g.fetch = .offering f) (hRuns : g.evaluate.isStopped = false)
      (hRoom : g.toEvaluate.length < depth) :
      FetchTurn now visit g { g with fetch := .idle, toEvaluate := g.toEvaluate ++ [f] } []
  | closed {f : Fetched} (hState : g.fetch = .offering f) (hStopped : g.evaluate.isStopped = true) :
      FetchTurn now visit g { g with fetch := .stopped }
        [.event f.seq .evaluateClosed, .notice .fetchStopped]

/-- A call that ends has panicked, failed or brought a page. -/
theorem endFetch_cases {now : Nat} {visit : Http.Visit} {g after : Group} {notes : List Note}
    {seq : Nat} {ending : Ending (Except Http.FetchError Http.Page)}
    (hResult : g.fetch.result? g.cancelled = some (seq, ending.guarded))
    (hEnds : g.fetch.endsBy now g.cancelled = true)
    (h : g.endFetch seq ending = (after, notes)) : FetchTurn now visit g after notes := by
  unfold endFetch at h
  split at h
  · rename_i message hGuarded
    cases h
    exact .panicked (hGuarded ▸ hResult) hEnds
  · rename_i e hGuarded
    cases h
    exact .failed (hGuarded ▸ hResult) hEnds
  · rename_i page hGuarded
    cases h
    exact .fetched (hGuarded ▸ hResult) hEnds

theorem fetchTurn_cases {now : Nat} {visit : Http.Visit} {g after : Group} {notes : List Note}
    (h : g.fetchTurn now visit = some (after, notes)) : FetchTurn now visit g after notes := by
  cases hState : g.fetch with
  | idle =>
      simp only [fetchTurn, hState] at h
      split at h
      · rename_i seq rest hQueue
        cases h
        exact .call hState hQueue
      · rename_i hQueue
        split_ifs at h with hClosed
        cases h
        exact .stop hState hQueue hClosed
  | fetching seq due cancellable ending =>
      simp only [fetchTurn, hState] at h
      split_ifs at h with hHeeded hDue
      · refine endFetch_cases ?_ ?_ (Option.some.inj h)
        · simp [FetchState.result?, hState, hHeeded, Ending.guarded]
        · simp [FetchState.endsBy, hState, hHeeded]
      · refine endFetch_cases ?_ ?_ (Option.some.inj h)
        · simp [FetchState.result?, hState, hHeeded]
        · simp [FetchState.endsBy, hState, hDue]
  | offering f =>
      simp only [fetchTurn, hState] at h
      split_ifs at h with hStopped hRoom
      · cases h
        exact .closed hState hStopped
      · cases h
        exact .hand hState (eq_false_of_ne_true hStopped) hRoom
  | stopped => simp [fetchTurn, hState] at h

/-- The turns of the evaluate stage. -/
inductive EvaluateTurn (p : Plan) (g : Group) : Group → List Note → Prop where
  | take {f : Fetched} {rest : List Fetched} (hState : g.evaluate = .idle)
      (hQueue : g.toEvaluate = f :: rest) :
      EvaluateTurn p g { g with toEvaluate := rest, evaluate := .evaluating f } []
  | stop (hState : g.evaluate = .idle) (hQueue : g.toEvaluate = [])
      (hClosed : g.fetch.isStopped = true) :
      EvaluateTurn p g { g with evaluate := .stopped } [.notice .evaluateStopped]
  | failed {f : Fetched} {e : Condition.ApplyError} (hState : g.evaluate = .evaluating f)
      (hApply : p.condition.apply f.body = .error e) :
      EvaluateTurn p g { g with evaluate := .idle } [.event f.seq (.queryFailed e)]
  | matched {f : Fetched} {o : Condition.Outcome} (hState : g.evaluate = .evaluating f)
      (hApply : p.condition.apply f.body = .ok o) (hMatch : o.isMatch = true) :
      EvaluateTurn p g { g with evaluate := .offering ⟨f.seq, f.body, o.bindings⟩ }
        [.event f.seq .matched]
  | unmatched {f : Fetched} {o : Condition.Outcome} (hState : g.evaluate = .evaluating f)
      (hApply : p.condition.apply f.body = .ok o) (hMatch : o.isMatch = false) :
      EvaluateTurn p g { g with evaluate := .idle } [.event f.seq .noMatch]
  | hand {m : Matched} (hState : g.evaluate = .offering m) (hRuns : g.dispatch.isStopped = false)
      (hRoom : g.toDispatch.length < depth) :
      EvaluateTurn p g { g with evaluate := .idle, toDispatch := g.toDispatch ++ [m] } []
  | closed {m : Matched} (hState : g.evaluate = .offering m) (hStopped : g.dispatch.isStopped = true) :
      EvaluateTurn p g { g with evaluate := .stopped }
        [.event m.seq .dispatchClosed, .notice .evaluateStopped]

theorem evaluateTurn_cases {p : Plan} {g after : Group} {notes : List Note}
    (h : g.evaluateTurn p = some (after, notes)) : EvaluateTurn p g after notes := by
  cases hState : g.evaluate with
  | idle =>
      simp only [evaluateTurn, hState] at h
      split at h
      · rename_i f rest hQueue
        cases h
        exact .take hState hQueue
      · rename_i hQueue
        split_ifs at h with hClosed
        cases h
        exact .stop hState hQueue hClosed
  | evaluating f =>
      simp only [evaluateTurn, hState] at h
      cases hApply : p.condition.apply f.body with
      | error e =>
          simp only [hApply] at h
          cases h
          exact .failed hState hApply
      | ok o =>
          simp only [hApply] at h
          split_ifs at h with hMatch
          · cases h
            exact .matched hState hApply hMatch
          · cases h
            exact .unmatched hState hApply (eq_false_of_ne_true hMatch)
  | offering m =>
      simp only [evaluateTurn, hState] at h
      split_ifs at h with hStopped hRoom
      · cases h
        exact .closed hState hStopped
      · cases h
        exact .hand hState (eq_false_of_ne_true hStopped) hRoom
  | stopped => simp [evaluateTurn, hState] at h

/-- The turns of the dispatch stage. -/
inductive DispatchTurn (p : Plan) (now : Nat) (deliveries : String → List Delivery) (g : Group) :
    Group → List Note → Prop where
  | empty {m : Matched} {rest : List Matched} (hState : g.dispatch = .idle)
      (hQueue : g.toDispatch = m :: rest) (hText : (p.textOf m).isEmpty = true) :
      DispatchTurn p now deliveries g { g with toDispatch := rest } [.event m.seq .emptyMessage]
  | send {m : Matched} {rest : List Matched} {called : Nat} {calls : List Call}
      (hState : g.dispatch = .idle) (hQueue : g.toDispatch = m :: rest)
      (hText : (p.textOf m).isEmpty = false)
      (hCalls : startCalls now (deliveries (p.textOf m)) = (called, .ok calls)) :
      DispatchTurn p now deliveries g
        { g with toDispatch := rest, dispatch := .sending m.seq calls }
        (sendNotes p deliveries m called)
  | crash {m : Matched} {rest : List Matched} {called : Nat} {message : String}
      (hState : g.dispatch = .idle) (hQueue : g.toDispatch = m :: rest)
      (hText : (p.textOf m).isEmpty = false)
      (hCalls : startCalls now (deliveries (p.textOf m)) = (called, .error message)) :
      DispatchTurn p now deliveries g { g with toDispatch := rest }
        (sendNotes p deliveries m called ++ [.event m.seq (.sendPanicked message)])
  | stop (hState : g.dispatch = .idle) (hQueue : g.toDispatch = [])
      (hClosed : g.evaluate.isStopped = true) :
      DispatchTurn p now deliveries g { g with dispatch := .stopped } [.notice .dispatchStopped]
  | finish {seq : Nat} {calls : List Call} (hState : g.dispatch = .sending seq calls)
      (hEnded : calls.any Call.isWaiting = false) :
      DispatchTurn p now deliveries g { g with dispatch := .idle } (sendingNotes seq calls)
  | poll {seq : Nat} {calls done : List Call} (hState : g.dispatch = .sending seq calls)
      (hDue : calls.any (Call.isDue now) = true) (hPoll : pollCalls now calls = .ok done) :
      DispatchTurn p now deliveries g { g with dispatch := .sending seq done } []
  | panicked {seq : Nat} {calls : List Call} {message : String}
      (hState : g.dispatch = .sending seq calls) (hDue : calls.any (Call.isDue now) = true)
      (hPoll : pollCalls now calls = .error message) :
      DispatchTurn p now deliveries g { g with dispatch := .idle }
        [.event seq (.sendPanicked message)]

/-- A message that is taken is empty, or is handed to senders, the first of which may panic. -/
theorem startSending_cases {p : Plan} {now : Nat} {deliveries : String → List Delivery}
    {g taken after : Group} {notes : List Note} {m : Matched} {rest : List Matched}
    (hState : g.dispatch = .idle) (hQueue : g.toDispatch = m :: rest)
    (hTaken : taken = { g with toDispatch := rest })
    (h : startSending p now deliveries taken m = (after, notes)) :
    DispatchTurn p now deliveries g after notes := by
  subst hTaken
  have hIdle : { g with toDispatch := rest, dispatch := .idle } = { g with toDispatch := rest } := by
    rw [← hState]
  simp only [startSending] at h
  split_ifs at h with hText
  · rw [hIdle] at h
    cases h
    exact .empty hState hQueue hText
  · have hFull : (p.textOf m).isEmpty = false := eq_false_of_ne_true hText
    rcases hCalls : startCalls now (deliveries (Template.render p.message m.bindings))
      with ⟨called, message | calls⟩
    · rw [hCalls] at h
      simp only [hIdle] at h
      cases h
      exact .crash hState hQueue hFull hCalls
    · rw [hCalls] at h
      cases h
      exact .send hState hQueue hFull hCalls

theorem dispatchTurn_cases {p : Plan} {now : Nat} {deliveries : String → List Delivery}
    {g after : Group} {notes : List Note}
    (h : g.dispatchTurn p now deliveries = some (after, notes)) :
    DispatchTurn p now deliveries g after notes := by
  cases hState : g.dispatch with
  | idle =>
      simp only [dispatchTurn, hState] at h
      split at h
      · rename_i m rest hQueue
        exact startSending_cases hState hQueue (by rw [← hState]) (Option.some.inj h)
      · rename_i hQueue
        split_ifs at h with hClosed
        cases h
        exact .stop hState hQueue hClosed
  | sending seq calls =>
      simp only [dispatchTurn, hState] at h
      split_ifs at h with hEnded hDue
      · cases h
        exact .finish hState (by simpa using hEnded)
      · cases hPoll : pollCalls now calls with
        | error message =>
            simp only [hPoll] at h
            cases h
            exact .panicked hState hDue hPoll
        | ok done =>
            simp only [hPoll] at h
            cases h
            exact .poll hState hDue hPoll
  | stopped => simp [dispatchTurn, hState] at h

end Group

end Lookout.Pipeline
