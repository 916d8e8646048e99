import Lookout.Proofs.Pipeline.Stories
import Lookout.Proofs.Pipeline.Ticking
/-!
Pages that are refused. A response whose status blames the client or the server brings no page: its
cycle ends as one that could not be fetched, nobody evaluates it and no sender hears of it. Any other
status brings the page as it is, also those from 600 on.
-/
namespace Lookout

namespace Http

/-- The status of a response, if one begins. -/
def Reply.status? : Reply → Option Nat
  | cutOff code _ => some code
  | response r => some r.status
  | unreachable _ | silence => none

theorem isError_iff {code : Nat} :
    (isClientError code || isServerError code) = true ↔ 400 ≤ code ∧ code < 600 := by
  simp only [isClientError, isServerError, Bool.or_eq_true, Bool.and_eq_true, decide_eq_true_eq]
  omega

/-- The status is looked at before anything else of a response. -/
theorem page?_of_status {url : Url} {reply : Reply} {code : Nat} (hStatus : reply.status? = some code)
    (hLow : 400 ≤ code) (hHigh : code < 600) :
    reply.page? url = some (.error (.status code url)) := by
  have hError := isError_iff.2 ⟨hLow, hHigh⟩
  cases reply with
  | cutOff code' reason =>
      cases hStatus
      simp only [Reply.page?, hError, if_true]
  | response r =>
      cases hStatus
      simp only [Reply.page?, hError, if_true]
  | unreachable reason => cases hStatus
  | silence => cases hStatus

end Http

namespace Pipeline

/-- A call of the crawler that goes on after a turn went on before, or begins in it. -/
theorem Group.fetching_of_turn {p : Plan} {stage : Stage} {now n : Nat} {visit : Http.Visit}
    {deliveries : String → List Delivery} {g after : Group} {notes : List Note} {due : Option Nat}
    {cancellable : Bool} {ending : Ending (Except Http.FetchError Http.Page)}
    (h : g.turn p stage now visit deliveries = some (after, notes))
    (hAfter : after.fetch = .fetching n due cancellable ending) :
    g.fetch = .fetching n due cancellable ending ∨ n ∈ (Turn.mk stage now g after notes).visited := by
  cases stage with
  | trigger => cases triggerTurn_cases h <;> exact .inl hAfter
  | fetch =>
      cases fetchTurn_cases h with
      | call _ _ =>
          cases hAfter
          exact .inr (by simp [Turn.visited, Note.visited?])
      | _ => cases hAfter
  | evaluate => cases evaluateTurn_cases h <;> exact .inl hAfter
  | dispatch => cases dispatchTurn_cases h <;> exact .inl hAfter

/-- A sender is called only with a message that is handed to senders. -/
theorem Group.dispatching_of_sentTo {p : Plan} {stage : Stage} {now n sender : Nat} {text : String}
    {visit : Http.Visit} {deliveries : String → List Delivery} {g after : Group} {notes : List Note}
    (h : g.turn p stage now visit deliveries = some (after, notes))
    (hSent : (n, text) ∈ notes.filterMap (Note.sentTo? sender)) :
    n ∈ notes.filterMap Note.dispatching? := by
  have hSends (m : Matched) (called : Nat)
      (hMessage : (n, text) ∈ (sendNotes p deliveries m called).filterMap (Note.sentTo? sender)) :
      n = m.seq := by
    rw [sendNotes_sentTo] at hMessage
    split_ifs at hMessage
    · exact congrArg Prod.fst (List.mem_singleton.1 hMessage)
    · cases hMessage
  cases stage with
  | trigger => cases triggerTurn_cases h <;> simp at hSent
  | fetch => cases fetchTurn_cases h <;> simp at hSent
  | evaluate => cases evaluateTurn_cases h <;> simp at hSent
  | dispatch =>
      cases dispatchTurn_cases h with
      | send _ _ _ _ =>
          rw [sendNotes_dispatching, hSends _ _ hSent]
          exact List.mem_singleton_self _
      | crash _ _ _ _ =>
          rw [List.filterMap_append, List.mem_append] at hSent
          rw [List.filterMap_append, sendNotes_dispatching]
          rcases hSent with hMessage | hPanic
          · rw [hSends _ _ hMessage]
            exact List.mem_cons_self
          · simp at hPanic
      | finish _ _ =>
          unfold sendingNotes at hSent
          split at hSent <;> simp at hSent
      | _ => simp at hSent

namespace Course
variable {s : Setting} {c d : Course} {t : Turn} {n : Nat} {visit : Http.Visit}

/-- Whether the crawler has been called for a cycle with a call that goes like this. -/
def Fetches (c : Course) (n : Nat) (visit : Http.Visit) : Prop :=
  ∃ t ∈ c.turns, n ∈ t.visited ∧
    t.after.fetch = .fetching n (visit.delay.map (t.time + ·)) visit.cancellable visit.ending

/-- The results that a call can have: its own, or that it was cancelled. -/
def ResultOf (visit : Http.Visit) (cancelled : Bool) (r : FetchResult) : Prop :=
  r = visit.ending.guarded ∨ visit.cancellable = true ∧ cancelled = true ∧ r = .ok (.error .cancelled)

/-- What has become of the call for a cycle: as long as it goes on, it goes on as it began, and its
result is one that it can have. -/
structure Goes (c : Course) (n : Nat) (visit : Http.Visit) : Prop where
  fetching : ∀ due cancellable ending, c.group.fetch = .fetching n due cancellable ending →
    cancellable = visit.cancellable ∧ ending = visit.ending
  result : ∀ r, (n, r) ∈ c.results → ResultOf visit c.group.cancelled r

theorem fetches_take : (c.take t).Fetches n visit ↔ c.Fetches n visit ∨ n ∈ t.visited ∧
    t.after.fetch = .fetching n (visit.delay.map (t.time + ·)) visit.cancellable visit.ending := by
  simp [Fetches, take, or_and_right, exists_or]

theorem Fetches.mem_visited (h : c.Fetches n visit) : n ∈ c.visited := by
  obtain ⟨t, ht, hn, _⟩ := h
  rw [visited_eq, List.filterMap_flatMap]
  exact List.mem_flatMap.2 ⟨t, ht, hn⟩

theorem Reachable.visited_nodup (h : Reachable s c) : c.visited.Nodup := by
  rw [h.inOrder.visited_eq_range]
  exact List.nodup_range'

/-- Every call of the crawler has a result that it can have. -/
theorem Goes.resultOf {r : FetchResult} (hc : c.Goes n visit)
    (hResult : c.group.fetch.result? c.group.cancelled = some (n, r)) :
    ResultOf visit c.group.cancelled r := by
  cases hState : c.group.fetch with
  | fetching seq due cancellable ending =>
      rw [hState, FetchState.result?, Option.some.injEq, Prod.mk.injEq] at hResult
      obtain ⟨rfl, rfl⟩ := hResult
      obtain ⟨rfl, rfl⟩ := hc.fetching due cancellable ending hState
      split_ifs with hHeeded
      · rw [Bool.and_eq_true] at hHeeded
        exact .inr ⟨hHeeded.1, hHeeded.2, rfl⟩
      · exact .inl rfl
  | _ => simp [hState, FetchState.result?] at hResult

theorem Reachable.goes (h : Reachable s c) (hFetches : c.Fetches n visit) : c.Goes n visit := by
  induction h with
  | refl =>
      obtain ⟨t, ht, _⟩ := hFetches
      cases ht
  | @tail c d hPrior hStep ih =>
      have hReachable := Reachable.step hPrior hStep
      cases hStep with
      | @turn stage time _ _ after notes _ _ _ hTurn =>
          have hNodup := hReachable.visited_nodup
          rcases fetches_take.1 hFetches with hOld | ⟨_, hNew⟩
          · have hc := ih hOld
            constructor
            · intro due cancellable ending hAfter
              rcases Group.fetching_of_turn hTurn hAfter with hBefore | hVisited
              · exact hc.fetching due cancellable ending hBefore
              · -- The crawler is called for each cycle only once.
                rw [visited_take, List.nodup_append] at hNodup
                exact absurd rfl (hNodup.2.2 n hOld.mem_visited n hVisited)
            · intro r hr
              rw [take_group, Group.cancelled_of_turn hTurn]
              rw [results_take, List.mem_append, Option.mem_toList] at hr
              rcases hr with hBefore | hNow
              · exact hc.result r hBefore
              · cases stage with
                | fetch => exact hc.resultOf hNow
                | _ => cases hNow
          · constructor
            · intro due cancellable ending hAfter
              rw [take_group, hNew] at hAfter
              cases hAfter
              exact ⟨rfl, rfl⟩
            · intro r hr
              -- A call that has just begun has no result.
              rw [← hReachable.results_visiting, take_group, hNew, FetchState.visiting_fetching,
                List.nodup_append] at hNodup
              exact absurd rfl (hNodup.2.2 n (List.mem_map_of_mem hr) n (List.mem_singleton_self n))
      | shutdown _ =>
          have hc := ih hFetches
          refine ⟨hc.fetching, fun r hr => (hc.result r hr).imp_right fun hCancelled => ?_⟩
          exact ⟨hCancelled.1, rfl, hCancelled.2.2⟩
      | join _ _ =>
          have hc := ih hFetches
          exact ⟨hc.fetching, hc.result⟩

/-! ### Cycles whose fetch fails -/

/-- A cycle whose fetch fails ends with that. -/
theorem Reachable.fetchFailed_of_result {e : Http.FetchError} (h : Reachable s c)
    (hResult : (n, .ok (.error e)) ∈ c.results) : (n, .fetchFailed) ∈ c.fates := by
  induction h with
  | refl => cases hResult
  | tail hPrior hStep ih =>
      cases hStep with
      | @turn stage time _ _ after notes _ _ _ hTurn =>
          rw [results_take, List.mem_append, Option.mem_toList] at hResult
          rw [fates_take, List.mem_append]
          rcases hResult with hBefore | hNow
          · exact .inl (ih hBefore)
          · right
            cases stage with
            | fetch =>
                cases Group.fetchTurn_cases hTurn with
                | failed hOwn _ =>
                    obtain ⟨rfl, _⟩ := Prod.mk.inj (Option.some.inj (hOwn.symm.trans hNow))
                    rw [Turn.fates_eq_of_dispatch rfl]
                    simp [Note.fate?]
                | panicked hOwn _ => cases hOwn.symm.trans hNow
                | fetched hOwn _ => cases hOwn.symm.trans hNow
                | call hState _ => simp [Turn.result?, hState] at hNow
                | stop hState _ _ => simp [Turn.result?, hState] at hNow
                | hand hState _ _ => simp [Turn.result?, hState] at hNow
                | closed hState _ => simp [Turn.result?, hState] at hNow
            | _ => cases hNow
      | shutdown _ => exact ih hResult
      | join _ _ => exact ih hResult

/-- Who is called with a message has it handed to him. -/
theorem Reachable.dispatching_of_sentTo {sender : Nat} {text : String} (h : Reachable s c)
    (hSent : (n, text) ∈ c.sentTo sender) : n ∈ c.dispatching := by
  obtain ⟨_, _, hAnswered⟩ := h.exists_answered
  rw [sentTo_eq, List.filterMap_flatMap, List.mem_flatMap] at hSent
  obtain ⟨t, ht, hNote⟩ := hSent
  obtain ⟨_, hTurn⟩ := hAnswered t ht
  rw [dispatching, List.filterMap_flatMap]
  exact List.mem_flatMap.2 ⟨t, ht, Group.dispatching_of_sentTo hTurn hNote⟩

/-- A cycle that could not be fetched is at no place any more, and no sender is called for it. -/
theorem Reachable.not_sentTo_of_fetchFailed (h : Reachable s c) (hFate : (n, .fetchFailed) ∈ c.fates)
    (sender : Nat) (text : String) : (n, text) ∉ c.sentTo sender := by
  intro hSent
  have hFinished : n ∈ c.finished := List.mem_map_of_mem hFate
  have hPlaces := h.nodup_places
  rw [List.nodup_append] at hPlaces
  have hDispatching := h.dispatching_of_sentTo hSent
  rw [h.dispatching_eq, List.mem_append] at hDispatching
  rcases hDispatching with hDispatched | hHeld
  · obtain ⟨t, ht, hn⟩ := List.mem_flatMap.1 hDispatched
    obtain ⟨⟨_, fate⟩, hMem, rfl⟩ := List.mem_map.1 hn
    obtain ⟨hOther, hDispatch⟩ := List.mem_filter.1 hMem
    have hFates : (_, fate) ∈ c.fates := List.mem_flatMap.2 ⟨t, ht, hOther⟩
    -- No cycle ends twice.
    obtain ⟨_, rfl⟩ := Prod.mk.inj (List.inj_on_of_nodup_map hPlaces.1 hFates hFate rfl)
    cases hDispatch
  · have hWay : n ∈ c.group.onTheWay := by simp [Group.onTheWay, hHeld]
    exact hPlaces.2.2 n hFinished n hWay rfl

/-- A cycle whose call can only fail is with the crawler until that has ended, and then it could not be
fetched. -/
theorem Reachable.place_of_fails (h : Reachable s c) (hFetches : c.Fetches n visit)
    (hFails : ∀ r, ResultOf visit c.group.cancelled r → ∃ e, r = .ok (.error e)) (place : Place)
    (hPlace : n ∈ c.cyclesAt place) :
    place = .fetchStage ∨ place = .finished ∧ (n, .fetchFailed) ∈ c.fates := by
  have hOnly {other : Place} (hOther : n ∈ c.cyclesAt other) : place = other := by
    by_contra hne
    exact h.inOrder.nodup_places.2 place other hne hPlace hOther
  have hVisited := hFetches.mem_visited
  rw [← h.results_visiting, List.mem_append] at hVisited
  rcases hVisited with hResults | hVisiting
  · obtain ⟨⟨_, r⟩, hr, rfl⟩ := List.mem_map.1 hResults
    obtain ⟨e, rfl⟩ := hFails r ((h.goes hFetches).result r hr)
    have hFate := h.fetchFailed_of_result hr
    have hFinished : _ ∈ c.cyclesAt .finished := List.mem_map_of_mem hFate
    exact .inr ⟨hOnly hFinished, hFate⟩
  · left
    refine hOnly ?_
    cases hState : c.group.fetch <;> simp_all [cyclesAt, FetchState.held]

/-- Of a reply with a status that is an error the call of the crawler is one that fails with it. -/
theorem ofReply_of_status (url : Url) (delay : Nat) {code : Nat} {reply : Http.Reply}
    (hStatus : reply.status? = some code) (hLow : 400 ≤ code) (hHigh : code < 600) :
    Http.Visit.ofReply url delay reply =
      { delay := some delay, cancellable := true, ending := .returned (.error (.status code url)) } := by
  rw [Http.Visit.ofReply, Http.page?_of_status hStatus hLow hHigh]
  rfl

/-- A response is an error for its status alone: exactly when that is at least 400 and less than 600. In
every course of a worker group, whatever its stages do, a cycle whose call meets such a status fails
with it, or as cancelled once shutdown has been called; it is never with a stage behind the crawler, and
no sender is ever called for it. -/
theorem status_error_reaches_nobody (h : Reachable s c) :
    (∀ url r, Http.Reply.page? url (.response r) = some (if 400 ≤ r.status ∧ r.status < 600 then
      .error (.status r.status url) else .ok ⟨r.headers, r.body⟩)) ∧
    ∀ n url delay reply code, c.Fetches n (.ofReply url delay reply) → reply.status? = some code →
      400 ≤ code → code < 600 →
      Http.Visit.ofReply url delay reply =
        { delay := some delay, cancellable := true, ending := .returned (.error (.status code url)) } ∧
      (∀ r, (n, r) ∈ c.results → r = .ok (.error (.status code url)) ∨
        c.group.cancelled = true ∧ r = .ok (.error .cancelled)) ∧
      (∀ place, n ∈ c.cyclesAt place →
        place = .fetchStage ∨ place = .finished ∧ (n, .fetchFailed) ∈ c.fates) ∧
      ∀ sender text, (n, text) ∉ c.sentTo sender := by
  refine ⟨fun url r => ?_, fun n url delay reply code hFetches hStatus hLow hHigh => ?_⟩
  · simp only [Http.Reply.page?, Http.isError_iff]
  have hVisit := ofReply_of_status url delay hStatus hLow hHigh
  have hResult {r : FetchResult} (hr : ResultOf (.ofReply url delay reply) c.group.cancelled r) :
      r = .ok (.error (.status code url)) ∨ c.group.cancelled = true ∧ r = .ok (.error .cancelled) := by
    rw [hVisit] at hr
    exact hr.imp id fun hCancelled => hCancelled.2
  have hPlace := h.place_of_fails hFetches fun r hr =>
    (hResult hr).elim (fun hOwn => ⟨_, hOwn⟩) fun hCancelled => ⟨_, hCancelled.2⟩
  refine ⟨hVisit, fun r hr => hResult ((h.goes hFetches).result r hr), hPlace, fun sender text hSent => ?_⟩
  rcases List.mem_append.1 (h.mem_of_dispatching (h.dispatching_of_sentTo hSent)) with hFinished | hHeld
  · rcases hPlace .finished hFinished with hFetch | ⟨_, hFate⟩
    · cases hFetch
    · exact h.not_sentTo_of_fetchFailed hFate sender text hSent
  · rcases hPlace .dispatchStage hHeld with hFetch | ⟨hEnd, _⟩
    · cases hFetch
    · cases hEnd

end Course

namespace Sample

/-- The call of the crawler for a page that comes with a status. -/
def replied (status : Nat) : Http.Visit :=
  .ofReply plan.request.url 0 (.response ⟨status, [], ⟨#[0x37]⟩⟩)

/-- A cycle whose page comes with a status: up to its failure, or up to its message. -/
def answering (status : Nat) : List Move :=
  [turn .trigger 0, turn .trigger 0, turn .fetch 0 (replied status), turn .fetch 0] ++
    if status < 600 then [] else
      [turn .fetch 0, turn .evaluate 0, turn .evaluate 0, turn .evaluate 0, turn .dispatch 0]

def answered (status : Nat) : Course := (Course.follow? plan {} (answering status)).getD {}

theorem answered_reachable (status : Nat)
    (hFollow : (Course.follow? plan {} (answering status)).isSome = true) :
    Course.Reachable setting (answered status) := by
  refine Course.leads_getD ?_ hFollow
  unfold answering
  split_ifs <;> simp [permits_turn]

end Sample

namespace Course

theorem answered_reaches_nobody :
    Reachable Sample.setting (Sample.answered 404) ∧
    (Sample.answered 404).Fetches 1 (Sample.replied 404) ∧
    (∀ r, (1, r) ∈ (Sample.answered 404).results →
      r = .ok (.error (.status 404 Sample.plan.request.url))) ∧
    (Sample.answered 404).finished = [1] ∧ (1, .fetchFailed) ∈ (Sample.answered 404).fates ∧
    ∀ sender text, (1, text) ∉ (Sample.answered 404).sentTo sender := by
  have hReachable := Sample.answered_reachable 404 (by decide +kernel)
  have hFetches : (Sample.answered 404).Fetches 1 (Sample.replied 404) :=
    ⟨_, List.mem_of_getElem? (i := 2) (by with_unfolding_all rfl), by decide +kernel,
      by with_unfolding_all rfl⟩
  obtain ⟨_, hRefused⟩ := status_error_reaches_nobody hReachable
  obtain ⟨_, hResult, hPlace, hNone⟩ := hRefused 1 _ _ _ 404 hFetches rfl (by decide) (by decide)
  have hOpen : (Sample.answered 404).group.cancelled = false := by decide +kernel
  have hFinished : (Sample.answered 404).finished = [1] := by decide +kernel
  refine ⟨hReachable, hFetches, fun r hr => ?_, hFinished, ?_, hNone⟩
  · exact (hResult r hr).resolve_right fun hCancelled => by simp [hOpen] at hCancelled
  · have hMem : 1 ∈ (Sample.answered 404).cyclesAt .finished := by
      rw [cyclesAt, hFinished]
      exact List.mem_singleton_self 1
    exact ((hPlace .finished hMem).resolve_left (by decide)).2

/-- A page that comes with a status beyond 599 is evaluated and sent. -/
theorem answered_is_sent :
    Http.Reply.page? Sample.plan.request.url (.response ⟨600, [], ⟨#[0x37]⟩⟩) =
      some (.ok ⟨[], ⟨#[0x37]⟩⟩) ∧
    Reachable Sample.setting (Sample.answered 600) ∧
    (Sample.answered 600).Fetches 1 (Sample.replied 600) ∧
    (Sample.answered 600).sentTo 0 = [(1, "found 7")] := by
  refine ⟨rfl, Sample.answered_reachable 600 (by decide +kernel), ?_, by decide +kernel⟩
  exact ⟨_, List.mem_of_getElem? (i := 2) (by with_unfolding_all rfl), by decide +kernel,
    by with_unfolding_all rfl⟩

end Course

end Pipeline

end Lookout
