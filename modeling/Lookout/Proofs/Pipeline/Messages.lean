import Lookout.Proofs.Pipeline.Matching
/-!
The messages of a worker group. However its stages take turns, each sender gets the messages that
come of the fetch results when these are evaluated and rendered one after the other: at any time a
first part of them, and all of them once shutdown has returned. These are the messages of the cycles
that the dispatch stage takes from its queue, and those still to be sent are of those still to be
taken.
-/
namespace Lookout.Pipeline

namespace Plan
variable (p : Plan)

/-- The message that a response is worth, with the cycle it is for. -/
def messageOfFetched? (f : Fetched) : Option (Nat × String) :=
  (p.messageOf? f.body).map fun text => (f.seq, text)

/-- The message that the result of a fetch is worth: none unless it is a page whose body can be
evaluated, matches and is rendered as a text that is not empty. -/
def messageOfResult? : Nat × FetchResult → Option (Nat × String)
  | (seq, .ok (.ok page)) => p.messageOfFetched? ⟨seq, page.body⟩
  | _ => none

/-- The message that a matched response is worth. -/
def messageOfMatched? (m : Matched) : Option (Nat × String) :=
  if (p.textOf m).isEmpty then none else some (m.seq, p.textOf m)

variable {p}

/-- A message is for the cycle that its page was fetched in. -/
theorem messageOfResult?_eq_some_iff {r : Nat × FetchResult} {seq : Nat} {text : String} :
    p.messageOfResult? r = some (seq, text) ↔
      ∃ page, r = (seq, .ok (.ok page)) ∧ p.messageOf? page.body = some text := by
  constructor
  · intro h
    match r with
    | (seq', .ok (.ok page)) =>
        obtain ⟨_, hText, hEq⟩ := Option.map_eq_some_iff.1 h
        cases hEq
        exact ⟨page, rfl, hText⟩
    | (_, .ok (.error _)) | (_, .error _) => cases h
  · rintro ⟨page, rfl, hText⟩
    simp [messageOfResult?, messageOfFetched?, hText]

/-- A response is worth what its matched cycle is worth. -/
theorem messageOfFetched?_eq (f : Fetched) :
    p.messageOfFetched? f = (p.matchedOfFetched? f).bind p.messageOfMatched? := by
  unfold messageOfFetched? messageOf? matchedOfFetched?
  cases hApply : p.condition.apply f.body with
  | error e => rfl
  | ok o =>
      by_cases hMatch : o.isMatch = true
      · by_cases hText : (Template.render p.message o.bindings).isEmpty = true
        · simp [hMatch, hText, messageOfMatched?, textOf]
        · simp [hMatch, hText, messageOfMatched?, textOf]
      · simp [hMatch]

theorem messageOfResult?_eq (r : Nat × FetchResult) :
    p.messageOfResult? r = (p.matchedOfResult? r).bind p.messageOfMatched? := by
  match r with
  | (seq, .ok (.ok page)) => exact messageOfFetched?_eq ⟨seq, page.body⟩
  | (_, .ok (.error _)) | (_, .error _) => rfl

end Plan

/-! ### Messages on their way -/

/-- The messages that are still to be sent of the cycles that have been fetched. -/
def Group.pending (p : Plan) (g : Group) : List (Nat × String) :=
  (g.toDispatch ++ g.evaluate.matched).filterMap p.messageOfMatched? ++
    (g.evaluate.fetched ++ g.toEvaluate ++ g.fetch.fetched).filterMap p.messageOfFetched?

/-- The cycle that the crawler is being called for. -/
def FetchState.visiting : FetchState → List Nat
  | fetching seq _ _ _ => [seq]
  | _ => []

namespace FetchState

@[simp] theorem visiting_idle : idle.visiting = [] := rfl
@[simp] theorem visiting_offering (f : Fetched) : (offering f).visiting = [] := rfl
@[simp] theorem visiting_stopped : stopped.visiting = [] := rfl

@[simp] theorem visiting_fetching (seq : Nat) (due : Option Nat) (cancellable : Bool)
    (ending : Ending (Except Http.FetchError Http.Page)) :
    (fetching seq due cancellable ending).visiting = [seq] := rfl

theorem visiting_of_result? {f : FetchState} {cancelled : Bool} {seq : Nat} {r : FetchResult}
    (h : f.result? cancelled = some (seq, r)) : f.visiting = [seq] := by
  cases f <;> simp_all [result?]

end FetchState

/-! ### Calls of senders -/

/-- Whether no call of a sender ever panics. -/
def Setting.Calm (s : Setting) : Prop :=
  ∀ d : Delivery, s.mayDeliver d → ∃ result, d.ending = .returned result

/-- When no call panics, it is never found to have panicked. -/
theorem startCalls_of_returned (now : Nat) {ds : List Delivery}
    (h : ∀ d ∈ ds, ∃ result, d.ending = .returned result) :
    ∃ calls, startCalls now ds = (ds.length, .ok calls) := by
  induction ds with
  | nil => exact ⟨[], rfl⟩
  | cons d rest ih =>
      obtain ⟨calls, hCalls⟩ := ih fun d' hd => h d' (List.mem_cons_of_mem _ hd)
      obtain ⟨result, hResult⟩ := h d List.mem_cons_self
      have hPoll : ∃ c, (Call.start now d).poll now = .ok c := by
        simp only [Call.start, Call.poll, hResult, Ending.guarded]
        split
        · cases result with
          | ok => exact ⟨_, rfl⟩
          | error chain => exact ⟨_, rfl⟩
        · exact ⟨_, rfl⟩
      obtain ⟨c, hc⟩ := hPoll
      exact ⟨c :: calls, by simp [startCalls, hc, hCalls]⟩

namespace Group
variable {p : Plan} {stage : Stage} {now : Nat} {visit : Http.Visit}
  {deliveries : String → List Delivery} {g after : Group} {notes : List Note} {sender : Nat}

/-- Of the notes on a message one is the call of a given sender, when it is called at all. -/
theorem sendNotes_sentTo (p : Plan) (deliveries : String → List Delivery) (m : Matched)
    (called sender : Nat) :
    (sendNotes p deliveries m called).filterMap (Note.sentTo? sender) =
      if sender < called then [(m.seq, p.textOf m)] else [] := by
  have hRange : (List.range called).filterMap
      (fun i => Note.sentTo? sender (.send m.seq i (p.textOf m))) =
      if sender < called then [(m.seq, p.textOf m)] else [] := by
    induction called with
    | zero => rfl
    | succ called ih =>
        rw [List.range_succ, List.filterMap_append, ih]
        by_cases hEq : called = sender
        · simp [Note.sentTo?, hEq]
        · have hLt : sender < called + 1 ↔ sender < called := by omega
          simp [Note.sentTo?, hEq, hLt]
  simpa [sendNotes, List.filterMap_cons, Note.sentTo?, List.filterMap_map, Function.comp_def]
    using hRange

/-- The messages to be sent are those of the cycles that are to be taken. -/
theorem pending_eq (p : Plan) (g : Group) :
    g.pending p = (g.matching p).filterMap p.messageOfMatched? := by
  have hFetched : p.messageOfFetched? = fun f => (p.matchedOfFetched? f).bind p.messageOfMatched? :=
    funext Plan.messageOfFetched?_eq
  rw [matching, List.filterMap_append, List.filterMap_filterMap, ← hFetched]
  rfl

/-- When no call panics, the message of a cycle that is taken leaves for all senders at once. -/
theorem sentTo_of_dispatchTurn {s : Setting} (hCalm : s.Calm) (hAllows : s.Allows deliveries)
    (hSender : sender < s.senders) (h : DispatchTurn p now deliveries g after notes) :
    notes.filterMap (Note.sentTo? sender) =
      (Turn.mk .dispatch now g after notes).taken?.toList.filterMap p.messageOfMatched? := by
  cases h with
  | @empty m rest hState hQueue hText =>
      have hWorth : p.messageOfMatched? m = none := by simp [Plan.messageOfMatched?, hText]
      simp [Turn.taken?, hState, hQueue, hWorth]
  | @send m rest called calls hState hQueue hText hCalls =>
      have hCalled : called = s.senders := by
        rw [(length_of_startCalls hCalls).1, (hAllows _).1]
      have hWorth : p.messageOfMatched? m = some (m.seq, p.textOf m) := by
        simp [Plan.messageOfMatched?, hText]
      simp [Turn.taken?, hState, hQueue, hWorth, sendNotes_sentTo, hCalled, hSender]
  | @crash m rest called message _ _ _ hCalls =>
      obtain ⟨_, hMay⟩ := hAllows (p.textOf m)
      obtain ⟨_, hAll⟩ := startCalls_of_returned now fun d hd => hCalm d (hMay d hd)
      rw [hCalls] at hAll
      cases congrArg Prod.snd hAll
  | stop hState hQueue _ => simp [Turn.taken?, hState, hQueue]
  | finish hState _ =>
      unfold sendingNotes
      split <;> simp [Turn.taken?, hState]
  | poll hState _ _ => simp [Turn.taken?, hState]
  | panicked hState _ _ => simp [Turn.taken?, hState]

/-- No other stage calls a sender, or takes a matched cycle. -/
theorem sentTo_of_turn {s : Setting} (hCalm : s.Calm) (hAllows : s.Allows deliveries)
    (hSender : sender < s.senders) (h : g.turn p stage now visit deliveries = some (after, notes)) :
    notes.filterMap (Note.sentTo? sender) =
      (Turn.mk stage now g after notes).taken?.toList.filterMap p.messageOfMatched? := by
  cases stage with
  | trigger => cases triggerTurn_cases h <;> simp [Turn.taken?]
  | fetch => cases fetchTurn_cases h <;> simp [Turn.taken?]
  | evaluate => cases evaluateTurn_cases h <;> simp [Turn.taken?]
  | dispatch => exact sentTo_of_dispatchTurn hCalm hAllows hSender (dispatchTurn_cases h)

/-- The calls of the crawler end one after the other, in the order in which they began. -/
theorem visiting_of_turn (h : g.turn p stage now visit deliveries = some (after, notes)) :
    (Turn.mk stage now g after notes).result?.toList.map Prod.fst ++ after.fetch.visiting =
      g.fetch.visiting ++ notes.filterMap Note.visited? := by
  cases stage with
  | trigger => cases triggerTurn_cases h <;> simp [Turn.result?, Note.visited?]
  | fetch =>
      cases fetchTurn_cases h with
      | call hState _ => simp [Turn.result?, hState, Note.visited?]
      | stop hState _ _ => simp [Turn.result?, hState, Note.visited?]
      | panicked hResult _ =>
          simp [Turn.result?, hResult, FetchState.visiting_of_result? hResult, Note.visited?]
      | failed hResult _ =>
          simp [Turn.result?, hResult, FetchState.visiting_of_result? hResult, Note.visited?]
      | fetched hResult _ =>
          simp [Turn.result?, hResult, FetchState.visiting_of_result? hResult, Note.visited?]
      | hand hState _ _ => simp [Turn.result?, hState]
      | closed hState _ => simp [Turn.result?, hState, Note.visited?]
  | evaluate => cases evaluateTurn_cases h <;> simp [Turn.result?, Note.visited?]
  | dispatch =>
      cases dispatchTurn_cases h with
      | finish _ _ =>
          unfold sendingNotes
          split <;> simp [Turn.result?, Note.visited?]
      | _ => simp [Turn.result?, sendNotes_visited, Note.visited?]

end Group

namespace Course
variable {s : Setting} {c : Course} {sender : Nat}

theorem Reachable.results_visiting (h : Reachable s c) :
    c.results.map Prod.fst ++ c.group.fetch.visiting = c.visited := by
  induction h with
  | refl => rfl
  | tail _ hStep ih =>
      cases hStep with
      | turn _ _ _ hTurn =>
          rw [results_take, List.map_append, List.append_assoc, take_group,
            Group.visiting_of_turn hTurn, ← List.append_assoc, ih, visited_take]
      | shutdown _ =>
          rw [visited_beginShutdown]
          exact ih
      | join _ _ => simpa using ih

/-- A sender has been called with the messages of the cycles that have been taken. -/
theorem Reachable.sentTo_eq_taken (h : Reachable s c) (hCalm : s.Calm) (hSender : sender < s.senders) :
    c.sentTo sender = c.taken.filterMap s.plan.messageOfMatched? := by
  induction h with
  | refl => rfl
  | tail _ hStep ih =>
      cases hStep with
      | turn _ _ hDeliveries hTurn =>
          rw [sentTo_take, taken_take, List.filterMap_append, ih,
            Group.sentTo_of_turn hCalm hDeliveries hSender hTurn]
      | shutdown _ =>
          rw [sentTo_beginShutdown]
          exact ih
      | join _ _ =>
          rw [sentTo_join]
          exact ih

/-- What a sender has been called with and what it is still to be called with is what the results
of the fetches are worth. -/
theorem Reachable.sentTo_pending (h : Reachable s c) (hCalm : s.Calm) (hSender : sender < s.senders) :
    c.sentTo sender ++ c.group.pending s.plan = c.results.filterMap s.plan.messageOfResult? := by
  have hResult : s.plan.messageOfResult? =
      fun r => (s.plan.matchedOfResult? r).bind s.plan.messageOfMatched? :=
    funext Plan.messageOfResult?_eq
  rw [h.sentTo_eq_taken hCalm hSender, Group.pending_eq, ← List.filterMap_append, h.taken_matching,
    List.filterMap_filterMap, hResult]

/-- The results of the fetches are those of the first cycles, in order. -/
theorem Reachable.results_seq (h : Reachable s c) :
    c.results.map Prod.fst = List.range' 1 c.results.length := by
  have hPrefix : c.results.map Prod.fst <+: List.range' 1 c.visited.length := by
    rw [← h.inOrder.visited_eq_range, ← h.results_visiting]
    exact List.prefix_append _ _
  simpa using eq_range_of_prefix hPrefix

/-- When shutdown has returned, all cycles that were accepted have been fetched. -/
theorem Reachable.results_of_returned (h : Reachable s c) (hReturned : c.HasReturned) :
    c.results.map Prod.fst = c.accepted := by
  have hVisited := h.inOrder.visited
  have hResults := h.results_visiting
  rw [h.eq_ended hReturned] at hVisited hResults
  calc c.results.map Prod.fst
    _ = c.results.map Prod.fst ++ FetchState.stopped.visiting := (List.append_nil _).symm
    _ = c.visited := hResults
    _ = c.visited ++ [] := (List.append_nil _).symm
    _ = c.accepted := hVisited

/-- The messages of a sender are for different cycles, in order. -/
theorem sorted_of_prefix {results : List (Nat × FetchResult)} {messages : List (Nat × String)}
    {p : Plan} (hSeq : results.map Prod.fst = List.range' 1 results.length)
    (hPrefix : messages <+: results.filterMap p.messageOfResult?) :
    (messages.map Prod.fst).Pairwise (· < ·) := by
  have hResults : results.Pairwise fun a b => a.1 < b.1 := by
    rw [← List.pairwise_map, hSeq]
    exact List.pairwise_lt_range'
  have hWorth : (results.filterMap p.messageOfResult?).Pairwise fun a b => a.1 < b.1 := by
    refine hResults.filterMap _ fun a b hLt x hx y hy => ?_
    obtain ⟨_, rfl, _⟩ := Plan.messageOfResult?_eq_some_iff.1 hx
    obtain ⟨_, rfl, _⟩ := Plan.messageOfResult?_eq_some_iff.1 hy
    exact hLt
  exact List.pairwise_map.2 (hWorth.sublist hPrefix.sublist)

end Course

end Lookout.Pipeline
