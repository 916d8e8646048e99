import Lookout.Proofs.Http.Attempt
import Lookout.Proofs.Pipeline.Mirroring
/-!
What becomes of a cycle that is cancelled. A call of the crawler that has not looked at anything by then
returns as cancelled and sends no request, so that no stage behind the crawler hears of the cycle. A call
that waits for a server returns as cancelled at its next look, so that a cancelled group comes to its end
whether or not servers answer.
-/
namespace Lookout.Pipeline

/-- The cycle that a note is about. -/
def Note.cycle? : Note → Option Nat
  | fetch seq | send seq _ _ | event seq _ => some seq
  | notice _ => none

/-- The cycles whose page is with the stages. -/
def Group.pastFetch (g : Group) : List Nat :=
  g.fetch.fetched.map Fetched.seq ++ g.toEvaluate.map Fetched.seq ++ g.evaluate.held ++
    g.toDispatch.map Matched.seq ++ g.dispatch.held

namespace Group
variable {p : Plan} {stage : Stage} {now n : Nat} {visit : Http.Visit}
  {deliveries : String → List Delivery} {g after : Group} {notes : List Note} {note : Note}

theorem mem_pastFetch : n ∈ g.pastFetch ↔ n ∈ g.fetch.fetched.map Fetched.seq ∨
    n ∈ g.toEvaluate.map Fetched.seq ∨ n ∈ g.evaluate.held ∨ n ∈ g.toDispatch.map Matched.seq ∨
    n ∈ g.dispatch.held := by
  simp only [pastFetch, List.mem_append, or_assoc]

/-- No turn brings a page. -/
theorem pastFetch_of_turn (hIdle : stage = .fetch → g.fetch.visiting = [])
    (h : g.turn p stage now visit deliveries = some (after, notes)) (hn : n ∈ after.pastFetch) :
    n ∈ g.pastFetch := by
  rw [mem_pastFetch] at hn ⊢
  cases stage with
  | trigger => cases triggerTurn_cases h <;> exact hn
  | fetch =>
      cases fetchTurn_cases h with
      | panicked hSome _ => exact absurd hSome (result?_ne_some (hIdle rfl))
      | failed hSome _ => exact absurd hSome (result?_ne_some (hIdle rfl))
      | fetched hSome _ => exact absurd hSome (result?_ne_some (hIdle rfl))
      | _ => grind [FetchState.fetched]
  | evaluate => cases evaluateTurn_cases h <;> grind [EvaluateState.held]
  | dispatch => cases dispatchTurn_cases h <;> grind [DispatchState.held]

theorem cycle?_of_mem_sendNotes {m : Matched} {called : Nat} (hNote : note ∈ sendNotes p deliveries m called)
    (hCycle : note.cycle? = some n) : n = m.seq := by
  rcases List.mem_cons.1 hNote with rfl | hSend
  · cases hCycle
    rfl
  · obtain ⟨_, _, rfl⟩ := List.mem_map.1 hSend
    cases hCycle
    rfl

/-- What a turn tells of a cycle is that the crawler is called for it, or it is about a cycle whose page is
with a stage. -/
theorem pastFetch_of_note (hIdle : stage = .fetch → g.fetch.visiting = [])
    (h : g.turn p stage now visit deliveries = some (after, notes)) (hNote : note ∈ notes)
    (hCycle : note.cycle? = some n) : note = .fetch n ∨ n ∈ g.pastFetch := by
  rw [mem_pastFetch]
  cases stage with
  | trigger => cases triggerTurn_cases h <;> grind [Note.cycle?]
  | fetch =>
      cases fetchTurn_cases h with
      | panicked hSome _ => exact absurd hSome (result?_ne_some (hIdle rfl))
      | failed hSome _ => exact absurd hSome (result?_ne_some (hIdle rfl))
      | fetched hSome _ => exact absurd hSome (result?_ne_some (hIdle rfl))
      | _ => grind [Note.cycle?, FetchState.fetched]
  | evaluate => cases evaluateTurn_cases h <;> grind [Note.cycle?, EvaluateState.held]
  | dispatch => cases dispatchTurn_cases h <;>
      grind [Note.cycle?, DispatchState.held, sendingNotes, cycle?_of_mem_sendNotes]

theorem pastFetch_endFetch {seq : Nat} {result : Except Http.FetchError Http.Page}
    (hn : n ∈ (g.endFetch seq (.returned result)).1.pastFetch) :
    n ∈ g.pastFetch ∨ n = seq ∧ ∃ page, result = .ok page := by
  rw [mem_pastFetch] at hn ⊢
  cases result <;> grind [endFetch, Ending.guarded, FetchState.fetched]

theorem cycle?_of_mem_endFetch {seq : Nat} {result : Except Http.FetchError Http.Page}
    (hNote : note ∈ (g.endFetch seq (.returned result)).2) (hCycle : note.cycle? = some n) : n = seq := by
  cases result <;>
  · cases List.mem_singleton.1 hNote
    cases hCycle
    rfl

end Group

namespace Crawling
variable {s : Setting} {k l : Crawling} {n : Nat}

/-! ### Cycles of which nothing comes -/

/-- Whether no request is sent for a cycle, and no page of it is known. Where its call can be, and which
errors it can end with, is given. -/
structure NothingOf (k : Crawling) (n : Nat) (calls : Http.Attempt → Prop) (errors : Http.FetchError → Prop) :
    Prop where
  call : ∀ a, k.call = some (n, a) → calls a
  request : ∀ r, (n, r) ∉ k.requests
  result : ∀ r, (n, r) ∈ k.results → ∃ e, errors e ∧ r = .error e
  page : n ∉ k.group.pastFetch
  note : ∀ note ∈ k.notes, note.cycle? = some n →
    note = .fetch n ∨ ∃ e, errors e ∧ note = .event n (.fetchFailed e)

variable {calls : Http.Attempt → Prop} {errors : Http.FetchError → Prop}

/-- No turn brings a request or a page. A call that begins in it has not looked at anything. -/
theorem NothingOf.turn {stage : Stage} {time : Nat} {deliveries : String → List Delivery} {after : Group}
    {notes : List Note} (hk : k.NothingOf n calls errors) (hInStep : k.InStep)
    (hFree : stage = .fetch → k.call = none) (hEntered : calls .entered)
    (hTurn : k.group.turn s.plan stage time openVisit deliveries = some (after, notes)) :
    (k.take s.plan ⟨stage, time, k.group, after, notes⟩).NothingOf n calls errors := by
  have hIdle (hFetch : stage = .fetch) : k.group.fetch.visiting = [] := hInStep.free (hFree hFetch)
  refine ⟨fun a ha => ?_, hk.request, hk.result,
    fun hn => hk.page (Group.pastFetch_of_turn hIdle hTurn hn), fun note hNote hCycle => ?_⟩
  · rcases call_of_turn hIdle hTurn with ⟨_, _, _, _, _, _, hNew⟩ | ⟨_, _, _, hSame⟩
    · cases hNew.symm.trans ha
      exact hEntered
    · exact hk.call a (hSame ▸ ha)
  · rcases List.mem_append.1 hNote with hOld | hNew
    · exact hk.note note hOld hCycle
    · exact .inl ((Group.pastFetch_of_note hIdle hTurn hNew hCycle).resolve_right hk.page)

theorem NothingOf.look {time m : Nat} {a : Http.Attempt} {requests : List Http.Request}
    (hk : k.NothingOf n calls errors) (hOwn : m = n → calls a ∧ requests = []) :
    (k.look time m a requests).NothingOf n calls errors := by
  refine ⟨fun b hb => ?_, fun r hr => ?_, hk.result, hk.page, hk.note⟩
  · cases hb
    exact (hOwn rfl).1
  · rcases List.mem_append.1 hr with hOld | hNew
    · exact hk.request r hOld
    · obtain ⟨_, hRequest, hSame⟩ := List.mem_map.1 hNew
      rw [(hOwn (congrArg Prod.fst hSame)).2] at hRequest
      cases hRequest

theorem NothingOf.finish {time m : Nat} {result : Except Http.FetchError Http.Page}
    (hk : k.NothingOf n calls errors) (hOwn : m = n → ∃ e, errors e ∧ result = .error e) :
    (k.finish time m result).NothingOf n calls errors := by
  refine ⟨fun _ ha => (nomatch ha), hk.request, fun r hr => ?_, fun hn => ?_, fun note hNote hCycle => ?_⟩
  · rcases List.mem_append.1 hr with hOld | hNew
    · exact hk.result r hOld
    · cases List.mem_singleton.1 hNew
      exact hOwn rfl
  · rcases Group.pastFetch_endFetch hn with hOld | ⟨rfl, page, rfl⟩
    · exact hk.page hOld
    · obtain ⟨e, _, hError⟩ := hOwn rfl
      cases hError
  · rcases List.mem_append.1 hNote with hOld | hNew
    · exact hk.note note hOld hCycle
    · obtain rfl := Group.cycle?_of_mem_endFetch hNew hCycle
      obtain ⟨e, he, rfl⟩ := hOwn rfl
      exact .inr ⟨e, he, List.mem_singleton.1 hNew⟩

/-- Only what its call looks at can change that nothing comes of a cycle. -/
theorem NothingOf.step (hk : k.NothingOf n calls errors) (h : Reachable s k) (hStep : Step s k l)
    (hEntered : calls .entered)
    (hLook : ∀ time a a' requests, k.call = some (n, a) → l = k.look time n a' requests →
      Http.Attempt.Looks s.plan.request time (k.isCancelled n) a a' requests → calls a' ∧ requests = [])
    (hReturned : ∀ result, calls (.returned result) → ∃ e, errors e ∧ result = .error e) :
    l.NothingOf n calls errors := by
  cases hStep with
  | turn _ hFree _ hTurn => exact hk.turn h.inStep hFree hEntered hTurn
  | @look time m a a' _ requests _ hCall hLooks =>
      refine hk.look ?_
      rintro rfl
      exact hLook time a a' requests hCall rfl (Http.Attempt.looks_of_look? hLooks)
  | finish _ hCall => exact hk.finish fun hSame => hReturned _ (hk.call _ (hSame ▸ hCall))
  | cancel _ _ => exact ⟨hk.call, hk.request, hk.result, hk.page, hk.note⟩
  | shutdown _ => exact ⟨hk.call, hk.request, hk.result, hk.page, hk.note⟩

/-- Whether the crawler has been called for a cycle and the call has looked at something. -/
def Looked (k : Crawling) (n : Nat) : Prop := n ∈ k.visited ∧ k.call ≠ some (n, .entered)

theorem Reachable.looked_of_step (h : Reachable s k) (hStep : Step s k l) (hLooked : k.Looked n) :
    l.Looked n := by
  have hNodup := (h.step hStep).accepted_nodup.of_append_left
  obtain ⟨hVisited, hCall⟩ := hLooked
  cases hStep with
  | turn _ hFree _ hTurn =>
      rw [visited_take] at hNodup
      refine ⟨by rw [visited_take]; exact List.mem_append_left _ hVisited, ?_⟩
      rcases call_of_turn (fun hFetch => h.inStep.free (hFree hFetch)) hTurn with
        ⟨m, _, _, _, rfl, _, hNew⟩ | ⟨_, _, _, hSame⟩
      · rw [hNew]
        rintro ⟨rfl⟩
        exact (List.nodup_append.1 hNodup).2.2 n hVisited n (List.mem_singleton_self n) rfl
      · rwa [hSame]
  | look _ _ hLook =>
      refine ⟨hVisited, ?_⟩
      cases Http.Attempt.looks_of_look? hLook <;> simp [look]
  | finish _ _ => exact ⟨by rwa [visited_finish], fun hNone => nomatch hNone⟩
  | cancel _ _ => exact ⟨hVisited, hCall⟩
  | shutdown _ => exact ⟨hVisited, hCall⟩

/-- Nothing has come of a cycle before its call has looked at something. -/
theorem Reachable.nothingOf (h : Reachable s k) (hLooked : ¬ k.Looked n) :
    k.NothingOf n (· = .entered) fun _ => False := by
  induction h with
  | refl =>
      exact ⟨fun _ hn => (nomatch hn), fun _ hn => (nomatch hn), fun _ hn => (nomatch hn),
        fun hn => (nomatch hn), fun _ hn => (nomatch hn)⟩
  | @tail k l hPrior hStep ih =>
      have hReachable : Reachable s k := hPrior
      refine (ih fun hBefore => hLooked (hReachable.looked_of_step hStep hBefore)).step hReachable hStep rfl
        (fun time a a' requests hCall hl hLooks => ?_) fun _ hReturned => nomatch hReturned
      -- With this look the call would have looked at something.
      subst hl
      refine absurd ⟨(hReachable.inStep.busy n a hCall).2, ?_⟩ hLooked
      cases hLooks <;> simp [look]

/-! ### Cancelled cycles -/

/-- Whether a cycle is cancelled, or will be when it begins. -/
def Dropped (k : Crawling) (n : Nat) : Prop := k.group.cancelled = true ∨ k.isCancelled n = true

theorem cancelled_of_leads (hLeads : Leads s k l) (hCancelled : k.group.cancelled = true) :
    l.group.cancelled = true := by
  induction hLeads with
  | refl => exact hCancelled
  | tail _ hStep ih =>
      cases hStep with
      | turn _ _ _ hTurn => exact (Group.cancelled_of_turn hTurn).trans ih
      | look _ _ _ => exact ih
      | @finish _ _ result _ _ => cases result <;> exact ih
      | cancel _ _ => exact ih
      | shutdown _ => rfl

theorem Dropped.of_leads (hn : k.Dropped n) (h : Reachable s k) (hLeads : Leads s k l) : l.Dropped n :=
  hn.imp (cancelled_of_leads hLeads) (h.isCancelled_of_leads hLeads)

/-- The token is cancelled that the call for a dropped cycle looks at. -/
theorem Reachable.isCancelled_of_dropped {a : Http.Attempt} (h : Reachable s k) (hn : k.Dropped n)
    (hCall : k.call = some (n, a)) : k.isCancelled n = true :=
  hn.elim (fun hGroup => h.isCancelled_of_group hGroup (h.inStep.busy n a hCall).2) id

/-- A call that has looked at nothing when its cycle is dropped returns as cancelled. -/
theorem Reachable.nothingOf_dropped (h : Reachable s k) (hn : k.Dropped n) (hLooked : ¬ k.Looked n)
    (hLeads : Leads s k l) :
    l.NothingOf n (fun a => a = .entered ∨ a = .returned (.error .cancelled)) (· = .cancelled) := by
  induction hLeads with
  | refl =>
      have hk := h.nothingOf hLooked
      refine ⟨fun a ha => .inl (hk.call a ha), hk.request, fun r hr => ?_, hk.page, fun note hNote hCycle => ?_⟩
      · obtain ⟨_, hNone, _⟩ := hk.result r hr
        exact hNone.elim
      · exact .inl ((hk.note note hNote hCycle).resolve_right fun ⟨_, hNone, _⟩ => hNone)
  | @tail l m hPrior hStep ih =>
      have hReachable := h.leads hPrior
      refine ih.step hReachable hStep (.inl rfl) (fun time a a' requests hCall _ hLooks => ?_)
        fun result hReturned => ?_
      · rw [hReachable.isCancelled_of_dropped (hn.of_leads h hPrior) hCall] at hLooks
        have hCalls := ih.call a hCall
        cases hLooks with
        | goesOn hOpen => cases hOpen
        | stops _ _ => exact ⟨.inr rfl, rfl⟩
        | sends _ => simp at hCalls
        | receives _ => simp at hCalls
      · obtain hNot | hCancelled := hReturned
        · cases hNot
        · cases hCancelled
          exact ⟨_, rfl, rfl⟩

/-- A call that has not returned can do so at any time after its cycle is dropped. -/
theorem Reachable.return_cancelled {a : Http.Attempt} {time : Nat} (h : Reachable s k) (hn : k.Dropped n)
    (hCall : k.call = some (n, a)) (hPending : a.result? = none) (hTime : k.now ≤ time) :
    Step s k (k.look time n (.returned (.error .cancelled)) []) := by
  obtain ⟨what, hLook⟩ := Http.Attempt.exists_look s.plan.request time hPending
  rw [← h.isCancelled_of_dropped hn hCall] at hLook
  exact .look hTime hCall hLook

/-! ### Requests that were sent -/

/-- What becomes of a call whose request was sent: it waits, or it has returned, as cancelled or with what
the request has brought by now. -/
def Follows (k : Crawling) (url : Url) (n since : Nat) (e : Http.Exchange) : Prop :=
  k.call = some (n, .sent since e) ∨
    ∃ r, (k.call = some (n, .returned r) ∨ (n, r) ∈ k.results) ∧
      (r = .error .cancelled ∨ since + e.wait url ≤ k.now ∧ r = e.result url)

theorem Step.now_le (hStep : Step s k l) : k.now ≤ l.now := by
  cases hStep with
  | turn hTime _ _ _ => exact hTime
  | look hTime _ _ => exact hTime
  | finish hTime _ => exact hTime
  | cancel _ _ => exact le_rfl
  | shutdown _ => exact le_rfl

theorem Step.results_subset (hStep : Step s k l) : k.results ⊆ l.results := by
  cases hStep with
  | finish _ _ => exact List.subset_append_left _ _
  | _ => exact List.Subset.refl _

/-- While a call is in progress, a step leaves it as it is, or is a look of it, or takes its result. -/
theorem Step.call_cases {a : Http.Attempt} (hStep : Step s k l) (hCall : k.call = some (n, a)) :
    l.call = some (n, a) ∨
    (∃ a' requests, Http.Attempt.Looks s.plan.request l.now (k.isCancelled n) a a' requests ∧
      l.call = some (n, a')) ∨
    ∃ r, a = .returned r ∧ (n, r) ∈ l.results := by
  cases hStep with
  | @turn stage time deliveries after notes _ hFree _ hTurn =>
      have hNotFetch (hFetch : stage = .fetch) : False := nomatch (hFree hFetch).symm.trans hCall
      rcases call_of_turn (fun hFetch => (hNotFetch hFetch).elim) hTurn with
        ⟨_, _, hFetch, _⟩ | ⟨_, _, _, hSame⟩
      · exact (hNotFetch hFetch).elim
      · exact .inl (hSame.trans hCall)
  | look _ hOwn hLook =>
      cases hOwn.symm.trans hCall
      exact .inr (.inl ⟨_, _, Http.Attempt.looks_of_look? hLook, rfl⟩)
  | finish _ hOwn =>
      cases hOwn.symm.trans hCall
      exact .inr (.inr ⟨_, rfl, List.mem_append_right _ (List.mem_singleton_self _)⟩)
  | cancel _ _ => exact .inl hCall
  | shutdown _ => exact .inl hCall

theorem Follows.step {since : Nat} {e : Http.Exchange} (hk : k.Follows s.plan.request.url n since e)
    (hStep : Step s k l) : l.Follows s.plan.request.url n since e := by
  rcases hk with hSent | ⟨r, hWhere, hResult⟩
  · rcases hStep.call_cases hSent with hSame | ⟨a', requests, hLooks, hCall⟩ | ⟨r, hReturned, _⟩
    · exact .inl hSame
    · cases hLooks with
      | stops _ _ => exact .inr ⟨_, .inl hCall, .inl rfl⟩
      | receives hDue => exact .inr ⟨_, .inl hCall, .inr ⟨hDue, rfl⟩⟩
    · cases hReturned
  · refine .inr ⟨r, ?_, hResult.imp_right fun ⟨hDue, hOwn⟩ => ⟨hDue.trans hStep.now_le, hOwn⟩⟩
    rcases hWhere with hCall | hMem
    · rcases hStep.call_cases hCall with hSame | ⟨a', requests, hLooks, _⟩ | ⟨r', hReturned, hMem⟩
      · exact .inl hSame
      · cases hLooks with
        | stops hPending _ => cases hPending
      · cases hReturned
        exact .inr hMem
    · exact .inr (hStep.results_subset hMem)

theorem follows_of_leads {since : Nat} {e : Http.Exchange} (hCall : k.call = some (n, .sent since e))
    (hLeads : Leads s k l) : l.Follows s.plan.request.url n since e := by
  induction hLeads with
  | refl => exact .inl hCall
  | tail _ hStep ih => exact ih.step hStep

/-! ### The end of a cancelled group -/

/-- The steps that are left at most once the group is cancelled, when each message goes to some senders. -/
def work (senders : Nat) (k : Crawling) : Nat :=
  5 * k.group.work senders + (k.call.map fun (_, a) => a.stepsLeft).getD 0

theorem Reachable.work_of_step (h : Reachable s k) (hCancelled : k.group.cancelled = true)
    (hStep : Step s k l) : l.work s.senders < k.work s.senders := by
  cases hStep with
  | @turn stage time deliveries after notes _ hFree hDeliveries hTurn =>
      have hLess := Group.work_of_turn hCancelled hDeliveries hTurn
      rcases call_of_turn (fun hFetch => h.inStep.free (hFree hFetch)) hTurn with
        ⟨m, _, hFetch, _, _, _, hNew⟩ | ⟨_, _, _, hSame⟩
      · simp only [work, hNew, hFree hFetch, Option.map_some, Option.map_none, Option.getD_some,
          Option.getD_none, Http.Attempt.stepsLeft]
        simp only [take]
        omega
      · simp only [work, hSame]
        simp only [take]
        omega
  | look _ hCall hLook =>
      have hLess := (Http.Attempt.looks_of_look? hLook).stepsLeft_lt
      simp only [work, hCall, look, Option.map_some, Option.getD_some]
      omega
  | @finish _ n result _ hCall =>
      have hFetch := (h.inStep.busy _ _ hCall).1
      simp only [work, hCall, finish, Option.map_some, Option.map_none, Option.getD_some, Option.getD_none,
        Http.Attempt.stepsLeft]
      cases result <;>
        simp only [Group.work, Group.endFetch, Ending.guarded, hFetch, waitingFor, FetchState.work] <;> omega
  | @cancel i c hContext hOpen =>
      -- All tokens are cancelled already.
      obtain ⟨events, hReached⟩ := h.reached
      have hEvent := hReached.marked.group_iff.1 (h.groupCancelled_eq.trans hCancelled)
      cases hOpen.symm.trans ((hReached.isCancelled_iff hContext).2 (.inl hEvent))
  | shutdown hOpen => cases hOpen.symm.trans hCancelled

/-- A cancelled group can go on until all stages have stopped, whatever the crawler waits for. -/
theorem Reachable.exists_step (h : Reachable s k) (hCancelled : k.group.cancelled = true)
    (hCalls : k.group.dispatch.canEnd = true) (hRuns : k.group.isStopped = false) :
    ∃ l, Step s k l := by
  cases hCall : k.call with
  | some call =>
      obtain ⟨n, a⟩ := call
      cases a with
      | returned result => exact ⟨_, .finish le_rfl hCall⟩
      | _ => exact ⟨_, h.return_cancelled (.inl hCancelled) hCall rfl le_rfl⟩
  | none =>
      have hFetch : k.group.fetch.canEnd k.group.cancelled = true := by
        have hFree := h.inStep.free hCall
        cases hState : k.group.fetch <;> simp_all [FetchState.canEnd]
      have hReady := h.cascades.ready_of_cancelled k.now hCancelled
        (by rw [Group.callsCanEnd, hFetch, hCalls]; rfl) hRuns
      obtain ⟨stage, time, _, hTime, hCan⟩ := hReady
      obtain ⟨deliveries, hAllows⟩ := s.exists_allows
      rw [Group.canTurn_eq_isSome s.plan stage time openVisit deliveries] at hCan
      obtain ⟨⟨after, notes⟩, hTurn⟩ := Option.isSome_iff_exists.1 hCan
      exact ⟨_, .turn hTime (fun _ => hCall) hAllows hTurn⟩

/-- A cycle that waits in the fetch queue has no call that could have looked. -/
theorem Reachable.not_looked_of_queued (h : Reachable s k) (hn : n ∈ k.group.toFetch) : ¬ k.Looked n := by
  rintro ⟨hVisited, _⟩
  exact (List.nodup_append.1 h.accepted_nodup).2.2 n hVisited n hn rfl

/-- Of every worker group whose crawler sends requests, whatever happened so far:

Nothing comes of a cycle that is cancelled, or whose group is, before its call has looked at anything, be it
that the cycle is not even begun, or waits in the fetch queue, or that the call has just begun. At all times
from then on no request was sent for it, its call has not looked at anything or has returned as cancelled,
no stage has a page of it, and nothing is told of it but that its fetch was cancelled.

A call that waits returns as cancelled at any time after its cycle is cancelled. From a server that keeps
silent it gets nothing else before the client gives up, and then an error.

A cancelled group can go on, whatever its crawler waits for, until all stages have stopped, as long as calls of
senders end, and each step takes away some of the work that is left. -/
theorem cancelled_cycles_abandoned (h : Reachable s k) :
    ((∀ n ∈ k.group.toFetch, ¬ k.Looked n) ∧
      ∀ n l, k.Dropped n → ¬ k.Looked n → Leads s k l →
        (∀ r, (n, r) ∉ l.requests) ∧
        (∀ a, l.call = some (n, a) → a = .entered ∨ a = .returned (.error .cancelled)) ∧
        (∀ r, (n, r) ∈ l.results → r = .error .cancelled) ∧
        n ∉ l.group.pastFetch ∧
        ∀ note ∈ l.notes, note.cycle? = some n →
          note = .fetch n ∨ note = .event n (.fetchFailed .cancelled)) ∧
    ((∀ n a, k.Dropped n → k.call = some (n, a) → a.result? = none → ∀ time, k.now ≤ time →
        Step s k (k.look time n (.returned (.error .cancelled)) [])) ∧
      ∀ n since e l, k.call = some (n, .sent since e) → e.reply = .silence → Leads s k l →
        l.call = some (n, .sent since e) ∨
        ∃ r, (l.call = some (n, .returned r) ∨ (n, r) ∈ l.results) ∧
          (r = .error .cancelled ∨
            since + Http.requestTimeout ≤ l.now ∧ r = .error (Http.Exchange.givenUp s.plan.request.url))) ∧
    (k.group.cancelled = true → ∀ l, Leads s k l →
      (l.group.dispatch.canEnd = true → l.group.isStopped = false → ∃ m, Step s l m) ∧
      ∀ m, Step s l m → m.work s.senders < l.work s.senders) := by
  refine ⟨⟨fun n => h.not_looked_of_queued, fun n l hn hLooked hLeads => ?_⟩,
    ⟨fun n a hn hCall hPending time hTime => h.return_cancelled hn hCall hPending hTime,
      fun n since e l hCall hSilence hLeads => ?_⟩, fun hCancelled l hLeads => ?_⟩
  · have hNothing := h.nothingOf_dropped hn hLooked hLeads
    refine ⟨hNothing.request, hNothing.call, fun r hr => ?_, hNothing.page, fun note hNote hCycle => ?_⟩
    · obtain ⟨_, rfl, hResult⟩ := hNothing.result r hr
      exact hResult
    · refine (hNothing.note note hNote hCycle).imp_right fun ⟨_, hError, hEvent⟩ => ?_
      exact hError ▸ hEvent
  · have hFollows := follows_of_leads hCall hLeads
    obtain ⟨hWait, hResult⟩ := Http.Exchange.of_silence s.plan.request.url hSilence
    rwa [Follows, hWait, hResult] at hFollows
  · have hl := h.leads hLeads
    have hStill := cancelled_of_leads hLeads hCancelled
    exact ⟨hl.exists_step hStill, fun m => hl.work_of_step hStill⟩

end Crawling

namespace Sample

/-- A turn of a stage, when it is not known how calls of the crawler go. -/
def act (stage : Stage) (time : Nat) : Crawling.Move := .turn stage time deliveries

/-- The request for cycle 1 is sent to a server that keeps silent, and cycle 2 waits in the fetch queue. -/
def silence : List Crawling.Move :=
  [act .trigger 0, act .trigger 0, act .fetch 0, .look 0 .check, .look 0 (.send { reply := .silence }),
    act .trigger 10, act .trigger 10, act .trigger 10, .shutdown]

/-- After shutdown is called, both calls return as cancelled, and all stages stop. -/
def silenced : List Crawling.Move :=
  [.look 20 .cancellation, .finish 20, act .fetch 20, .look 21 .check, .finish 21, act .trigger 21,
    act .fetch 21, act .evaluate 21, act .dispatch 21]

def waiting : Crawling := (Crawling.follow? plan {} silence).getD {}

def abandoned : Crawling := (Crawling.follow? plan waiting silenced).getD {}

theorem permits_act (stage : Stage) (time : Nat) : Crawling.Permits setting (act stage time) :=
  allows_deliveries

theorem waiting_reachable : Crawling.Reachable setting waiting := by
  refine Crawling.leads_getD ?_ (by decide +kernel)
  simp only [silence, List.forall_mem_cons, permits_act, true_and]
  simp [Crawling.Permits]

theorem waiting_leads_abandoned : Crawling.Leads setting waiting abandoned := by
  refine Crawling.leads_getD ?_ (by decide +kernel)
  simp only [silenced, List.forall_mem_cons, permits_act, true_and]
  simp [Crawling.Permits]

end Sample

namespace Crawling

/-- Only the first cycle has a request, and both end as cancelled. -/
theorem silence_abandoned :
    Reachable Sample.setting Sample.waiting ∧ Sample.waiting.group.cancelled = true ∧
    Sample.waiting.call = some (1, .sent 0 { reply := .silence }) ∧
    2 ∈ Sample.waiting.group.toFetch ∧ ¬ Sample.waiting.Looked 2 ∧
    Leads Sample.setting Sample.waiting Sample.abandoned ∧
    Sample.abandoned.requests = [(1, Sample.plan.request)] ∧
    Sample.abandoned.results = [(1, .error .cancelled), (2, .error .cancelled)] ∧
    (∀ r, (2, r) ∉ Sample.abandoned.requests) ∧ 2 ∉ Sample.abandoned.group.pastFetch ∧
    Sample.abandoned.group.isStopped = true ∧
    ∀ m, Step Sample.setting Sample.waiting m →
      m.work Sample.setting.senders < Sample.waiting.work Sample.setting.senders := by
  have hCancelled : Sample.waiting.group.cancelled = true := by decide +kernel
  have hQueued : 2 ∈ Sample.waiting.group.toFetch := by decide +kernel
  obtain ⟨⟨hWaits, hNothing⟩, _, hEnds⟩ := cancelled_cycles_abandoned Sample.waiting_reachable
  obtain ⟨hRequests, _, _, hPages, _⟩ :=
    hNothing 2 _ (.inl hCancelled) (hWaits 2 hQueued) Sample.waiting_leads_abandoned
  refine ⟨Sample.waiting_reachable, hCancelled, ?_, hQueued, hWaits 2 hQueued,
    Sample.waiting_leads_abandoned, ?_, ?_, hRequests, hPages, ?_, (hEnds hCancelled _ .refl).2⟩
  · with_unfolding_all rfl
  · decide +kernel
  · with_unfolding_all rfl
  · decide +kernel

end Crawling

end Lookout.Pipeline
