import Lookout.Http.Attempt
import Lookout.Proofs.Cycle
import Lookout.Proofs.Pipeline.Drain
import Lookout.Proofs.Pipeline.Messages
/-!
Worker groups whose crawler sends requests. A call of the crawler takes its looks one by one, and between
any two of them the other stages may take turns, a cycle may be cancelled, and shutdown may be called. Each
cycle has a context from when the trigger starts it, with a token below that of the group.
-/
namespace Lookout

namespace Contexts
variable {s : Contexts} {events : List Event}

/-- The contexts after an event, if it can happen. -/
def after (s : Contexts) (event : Event) : Contexts := ((s.step? event).map Prod.fst).getD s

/-- Whether contexts come from others by events. -/
def Extends (s s' : Contexts) : Prop :=
  ∀ events, Reached events s → ∃ more, Reached (events ++ more) s'

theorem Extends.refl (s : Contexts) : s.Extends s :=
  fun events h => ⟨[], by rwa [List.append_nil]⟩

theorem Extends.trans {s s' s'' : Contexts} (h : s.Extends s') (h' : s'.Extends s'') :
    s.Extends s'' := by
  intro events hReached
  obtain ⟨first, hFirst⟩ := h events hReached
  obtain ⟨second, hSecond⟩ := h' _ hFirst
  exact ⟨first ++ second, by rwa [← List.append_assoc]⟩

/-- What an event leaves is what it makes of the contexts, unless it cannot happen. -/
theorem after_cases (s : Contexts) (event : Event) :
    s.step? event = none ∧ s.after event = s ∨ ∃ texts, s.step? event = some (s.after event, texts) := by
  unfold after
  cases s.step? event with
  | none => exact .inl ⟨rfl, rfl⟩
  | some next => exact .inr ⟨next.2, rfl⟩

theorem extends_after (s : Contexts) (event : Event) : s.Extends (s.after event) := by
  intro events h
  rcases s.after_cases event with ⟨_, hSame⟩ | ⟨_, hStep⟩
  · exact ⟨[], by rwa [hSame, List.append_nil]⟩
  · exact ⟨[event], h.step hStep⟩

theorem groupCancelled_after (s : Contexts) {event : Event} (hEvent : event ≠ .cancelGroup) :
    (s.after event).groupCancelled = s.groupCancelled := by
  rcases s.after_cases event with ⟨_, hSame⟩ | ⟨_, hStep⟩
  · rw [hSame]
  · generalize s.after event = s' at hStep ⊢
    cases step_of_step? hStep with
    | cancelGroup => exact absurd rfl hEvent
    | _ => rfl

theorem length_after_begin (s : Contexts) (crawl : String) :
    (s.after (.begin crawl)).list.length = s.list.length + 1 :=
  List.length_append

theorem length_after (s : Contexts) (event : Event) (hEvent : event.source? = none) :
    (s.after event).list.length = s.list.length := by
  rcases s.after_cases event with ⟨_, hSame⟩ | ⟨_, hStep⟩
  · rw [hSame]
  · generalize s.after event = s' at hStep ⊢
    cases step_of_step? hStep with
    | begin | copy => cases hEvent
    | annotate => exact List.length_set
    | cancel | cancelGroup => rfl

end Contexts

namespace Pipeline

/-- A call of the crawler of which it is not known when it ends, and as what. -/
def openVisit : Http.Visit where
  delay := none
  cancellable := true
  ending := .returned (.error .cancelled)

/-- A worker group, with the contexts of its cycles and the call that its crawler is busy with. -/
structure Crawling where
  group : Group := {}
  now : Nat := 0
  contexts : Contexts := {}
  /-- The cycle that the crawler has been called for, and how far the call has come. -/
  call : Option (Nat × Http.Attempt) := none
  /-- The requests that were sent, each with its cycle. -/
  requests : List (Nat × Http.Request) := []
  /-- The results of the calls that have ended, each with its cycle. -/
  results : List (Nat × Except Http.FetchError Http.Page) := []
  notes : List Note := []

/-- The number of cycles that the trigger has begun, unless it has stopped. -/
def TriggerState.begun? : TriggerState → Option Nat
  | firing n | resting n _ => some (n - 1)
  | offering n => some n
  | stopped => none

/-- While the fetch stage does not wait for the crawler, no turn of it ends a call. -/
theorem Group.result?_ne_some {g : Group} (hIdle : g.fetch.visiting = []) {seq : Nat} {r : FetchResult} :
    g.fetch.result? g.cancelled ≠ some (seq, r) := by
  intro hSome
  simp [FetchState.visiting_of_result? hSome] at hIdle

namespace Crawling
variable (k : Crawling)

/-- The context of a cycle. They arise in the order of the cycles, which are counted from one on. -/
def context? (n : Nat) : Option Context := k.contexts.list[n - 1]?

/-- Whether the token of a cycle is cancelled. -/
def isCancelled (n : Nat) : Bool := (k.context? n).any k.contexts.isCancelled

/-- The cycles that the crawler has been called for, in order. -/
def visited : List Nat := k.notes.filterMap Note.visited?

/-- The contexts after a turn of a stage: a cycle that the trigger starts gets its own. -/
def contextsAfter (p : Plan) (stage : Stage) : Contexts :=
  match stage, k.group.trigger with
  | .trigger, .firing n =>
    (k.contexts.after (.begin p.name)).after
      (.annotate k.contexts.list.length "seq" (toString n))
  | _, _ => k.contexts

/-- What there is after a turn of a stage. A call that begins in it has not looked at anything. -/
def take (p : Plan) (t : Turn) : Crawling :=
  { k with
    group := t.after
    now := t.time
    contexts := k.contextsAfter p t.stage
    call := match t.notes.filterMap Note.visited? with
      | n :: _ => some (n, .entered)
      | [] => k.call
    notes := k.notes ++ t.notes }

/-- What there is after a look of the call for a cycle. -/
def look (time n : Nat) (a : Http.Attempt) (sent : List Http.Request) : Crawling :=
  { k with now := time, call := some (n, a), requests := k.requests ++ sent.map (n, ·) }

/-- What there is after the fetch stage has got the result of the call for a cycle. -/
def finish (time n : Nat) (result : Except Http.FetchError Http.Page) : Crawling :=
  { k with
    group := (k.group.endFetch n (.returned result)).1
    now := time
    call := none
    results := k.results ++ [(n, result)]
    notes := k.notes ++ (k.group.endFetch n (.returned result)).2 }

/-- What there is after the token of a context is cancelled. -/
def cancel (i : Nat) : Crawling := { k with contexts := k.contexts.after (.cancel i) }

/-- What there is after shutdown is called. -/
def shutdown : Crawling :=
  { k with
    group := { k.group with cancelled := true }
    contexts := k.contexts.after .cancelGroup }

/-- What happens next: a stage takes a turn, but not the fetch stage while it waits for the crawler; the
call looks at something, or the fetch stage gets its result; a token is cancelled; or shutdown is called.
Nothing is assumed of the order in which this happens, nor of what the network makes of a request. -/
inductive Step (s : Setting) (k : Crawling) : Crawling → Prop where
  | turn {stage : Stage} {time : Nat} {deliveries : String → List Delivery} {after : Group}
      {notes : List Note} (hTime : k.now ≤ time) (hFree : stage = .fetch → k.call = none)
      (hDeliveries : s.Allows deliveries)
      (hTurn : k.group.turn s.plan stage time openVisit deliveries = some (after, notes)) :
      Step s k (k.take s.plan ⟨stage, time, k.group, after, notes⟩)
  | look {time n : Nat} {a a' : Http.Attempt} {what : Http.Look} {sent : List Http.Request}
      (hTime : k.now ≤ time) (hCall : k.call = some (n, a))
      (hLook : a.look? s.plan.request time (k.isCancelled n) what = some (a', sent)) :
      Step s k (k.look time n a' sent)
  | finish {time n : Nat} {result : Except Http.FetchError Http.Page} (hTime : k.now ≤ time)
      (hCall : k.call = some (n, .returned result)) : Step s k (k.finish time n result)
  | cancel {i : Nat} {c : Context} (hContext : k.contexts.list[i]? = some c)
      (hOpen : k.contexts.isCancelled c = false) : Step s k (k.cancel i)
  | shutdown (hOpen : k.group.cancelled = false) : Step s k k.shutdown

/-- A step that can happen, with all that is open about it. -/
inductive Move where
  | turn (stage : Stage) (time : Nat) (deliveries : String → List Delivery)
  | look (time : Nat) (what : Http.Look)
  | finish (time : Nat)
  | cancel (i : Nat)
  | shutdown

/-- What there is after a step, when it is possible. -/
def move? (p : Plan) (k : Crawling) : Move → Option Crawling
  | .turn stage time deliveries =>
    if k.now ≤ time ∧ (stage = .fetch → k.call.isNone = true) then
      (k.group.turn p stage time openVisit deliveries).map fun (after, notes) =>
        k.take p ⟨stage, time, k.group, after, notes⟩
    else none
  | .look time what => do
    let (n, a) ← k.call
    let (a', sent) ← a.look? p.request time (k.isCancelled n) what
    if k.now ≤ time then some (k.look time n a' sent) else none
  | .finish time =>
    match k.call with
    | some (n, .returned result) => if k.now ≤ time then some (k.finish time n result) else none
    | _ => none
  | .cancel i => do
    let c ← k.contexts.list[i]?
    if k.contexts.isCancelled c then none else some (k.cancel i)
  | .shutdown => if k.group.cancelled then none else some k.shutdown

/-- What there is after some steps, when all of them are possible. -/
def follow? (p : Plan) (k : Crawling) (moves : List Move) : Option Crawling := moves.foldlM (move? p) k

/-- Whether the calls that begin in a step may go as it says. -/
def Permits (s : Setting) : Move → Prop
  | .turn _ _ deliveries => s.Allows deliveries
  | _ => True

theorem step_of_move {s : Setting} {k l : Crawling} {m : Move} (hPermits : Permits s m)
    (h : k.move? s.plan m = some l) : Step s k l := by
  cases m with
  | turn stage time deliveries =>
      simp only [move?] at h
      split_ifs at h with hCan
      obtain ⟨⟨after, notes⟩, hTurn, rfl⟩ := Option.map_eq_some_iff.1 h
      exact .turn hCan.1 (fun hFetch => Option.isNone_iff_eq_none.1 (hCan.2 hFetch)) hPermits hTurn
  | look time what =>
      obtain ⟨⟨n, a⟩, hCall, h⟩ := Option.bind_eq_some_iff.1 h
      obtain ⟨⟨a', sent⟩, hLook, h⟩ := Option.bind_eq_some_iff.1 h
      dsimp only at h
      split_ifs at h with hTime
      cases h
      exact .look hTime hCall hLook
  | finish time =>
      simp only [move?] at h
      split at h
      · rename_i n result hCall
        split_ifs at h with hTime
        cases h
        exact .finish hTime hCall
      · cases h
  | cancel i =>
      obtain ⟨c, hContext, h⟩ := Option.bind_eq_some_iff.1 h
      split_ifs at h with hOpen
      cases h
      exact .cancel hContext (eq_false_of_ne_true hOpen)
  | shutdown =>
      simp only [move?] at h
      split_ifs at h with hOpen
      cases h
      exact .shutdown (eq_false_of_ne_true hOpen)

/-- One state leads to another by any number of steps. -/
abbrev Leads (s : Setting) : Crawling → Crawling → Prop := Relation.ReflTransGen (Step s)

/-- The states that a worker group can come to from its start. -/
def Reachable (s : Setting) (k : Crawling) : Prop := Leads s {} k

/-- Steps that are all possible and permitted lead to what is computed. -/
theorem leads_getD {s : Setting} {k : Crawling} {moves : List Move} (hPermits : ∀ m ∈ moves, Permits s m)
    (hFollow : (k.follow? s.plan moves).isSome = true) :
    Leads s k ((k.follow? s.plan moves).getD {}) := by
  obtain ⟨l, hl⟩ := Option.isSome_iff_exists.1 hFollow
  rw [hl, Option.getD_some]
  clear hFollow
  induction moves generalizing k with
  | nil =>
      cases hl
      exact .refl
  | cons m moves ih =>
      obtain ⟨next, hMove, hRest⟩ := Option.bind_eq_some_iff.1 hl
      exact .head (step_of_move (hPermits m List.mem_cons_self) hMove)
        (ih (fun m' hm => hPermits m' (List.mem_cons_of_mem _ hm)) hRest)

variable {k} {s : Setting} {l : Crawling} {n : Nat}

theorem Reachable.step (h : Reachable s k) (hStep : Step s k l) : Reachable s l :=
  Relation.ReflTransGen.tail h hStep

theorem Reachable.leads (h : Reachable s k) (hLeads : Leads s k l) : Reachable s l :=
  Relation.ReflTransGen.trans h hLeads

@[simp] theorem visited_take (p : Plan) (t : Turn) :
    (k.take p t).visited = k.visited ++ t.notes.filterMap Note.visited? :=
  List.filterMap_append

@[simp] theorem visited_finish (time : Nat) (result : Except Http.FetchError Http.Page) :
    (k.finish time n result).visited = k.visited := by
  cases result <;> simp [visited, finish, Group.endFetch, Ending.guarded, Note.visited?]

/-! ### The call in progress -/

/-- The fetch stage while it waits for the crawler. -/
def waitingFor (n : Nat) : FetchState := .fetching n none true (.returned (.error .cancelled))

theorem take_call_of_nil {p : Plan} {t : Turn} (hNone : t.notes.filterMap Note.visited? = []) :
    (k.take p t).call = k.call := by
  simp only [take, hNone]

/-- What a turn means for the crawler: a call begins for the first cycle in the queue, or the call in
progress, if there is one, stays as it is. -/
theorem call_of_turn {stage : Stage} {time : Nat} {deliveries : String → List Delivery} {after : Group}
    {notes : List Note} (hIdle : stage = .fetch → k.group.fetch.visiting = [])
    (hTurn : k.group.turn s.plan stage time openVisit deliveries = some (after, notes)) :
    (∃ n rest, stage = .fetch ∧ k.group.toFetch = n :: rest ∧ notes = [.fetch n] ∧
      after.fetch = waitingFor n ∧
      (k.take s.plan ⟨stage, time, k.group, after, notes⟩).call = some (n, .entered)) ∨
    notes.filterMap Note.visited? = [] ∧ after.fetch.visiting = k.group.fetch.visiting ∧
      (stage ≠ .fetch → after.fetch = k.group.fetch) ∧
      (k.take s.plan ⟨stage, time, k.group, after, notes⟩).call = k.call := by
  cases stage with
  | trigger =>
      refine .inr ?_
      cases Group.triggerTurn_cases hTurn <;> exact ⟨rfl, rfl, fun _ => rfl, take_call_of_nil rfl⟩
  | fetch =>
      cases Group.fetchTurn_cases hTurn with
      | @call n rest _ hQueue => exact .inl ⟨n, rest, rfl, hQueue, rfl, rfl, rfl⟩
      | panicked hSome _ => exact absurd hSome (Group.result?_ne_some (hIdle rfl))
      | failed hSome _ => exact absurd hSome (Group.result?_ne_some (hIdle rfl))
      | fetched hSome _ => exact absurd hSome (Group.result?_ne_some (hIdle rfl))
      | _ => exact .inr ⟨rfl, (hIdle rfl).symm, fun hOther => absurd rfl hOther, take_call_of_nil rfl⟩
  | evaluate =>
      refine .inr ?_
      cases Group.evaluateTurn_cases hTurn <;> exact ⟨rfl, rfl, fun _ => rfl, take_call_of_nil rfl⟩
  | dispatch =>
      have hNone : notes.filterMap Note.visited? = [] := by
        cases Group.dispatchTurn_cases hTurn with
        | finish _ _ =>
            unfold Group.sendingNotes
            split <;> rfl
        | _ => simp [Group.sendNotes_visited, Note.visited?]
      refine .inr ⟨hNone, ?_⟩
      cases Group.dispatchTurn_cases hTurn <;> exact ⟨rfl, fun _ => rfl, take_call_of_nil hNone⟩

/-- Whether the fetch stage waits for the crawler exactly while a call is in progress. -/
structure InStep (k : Crawling) : Prop where
  busy : ∀ n a, k.call = some (n, a) → k.group.fetch = waitingFor n ∧ n ∈ k.visited
  free : k.call = none → k.group.fetch.visiting = []

theorem Reachable.inStep (h : Reachable s k) : k.InStep := by
  induction h with
  | refl => exact ⟨fun _ _ hCall => (by cases hCall), fun _ => rfl⟩
  | @tail k l _ hStep ih =>
      cases hStep with
      | turn _ hFree _ hTurn =>
          rcases call_of_turn (fun hFetch => ih.free (hFree hFetch)) hTurn with
            ⟨m, _, _, _, rfl, hFetch, hCall⟩ | ⟨_, hVisiting, hSame, hCall⟩
          · refine ⟨fun n a hBusy => ?_, fun hNone => by cases hCall.symm.trans hNone⟩
            cases hCall.symm.trans hBusy
            exact ⟨hFetch, by simp [Note.visited?]⟩
          · refine ⟨fun n a hBusy => ?_, fun hNone => ?_⟩
            · rw [hCall] at hBusy
              obtain ⟨hFetch, hVisited⟩ := ih.busy n a hBusy
              refine ⟨(hSame fun hStage => ?_).trans hFetch, ?_⟩
              · cases (hFree hStage).symm.trans hBusy
              · rw [visited_take]
                exact List.mem_append_left _ hVisited
            · exact hVisiting.trans (ih.free (hCall.symm.trans hNone))
      | look _ hCall _ =>
          refine ⟨fun n a hBusy => ?_, fun hNone => by cases hNone⟩
          cases hBusy
          exact ih.busy _ _ hCall
      | @finish _ n result _ _ =>
          refine ⟨fun _ _ hCall => (by cases hCall), fun _ => ?_⟩
          cases result <;> rfl
      | cancel _ _ => exact ⟨ih.busy, ih.free⟩
      | shutdown _ => exact ⟨ih.busy, ih.free⟩

end Crawling

end Pipeline

end Lookout
