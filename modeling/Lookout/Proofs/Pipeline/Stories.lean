import Lookout.Proofs.Pipeline.Answers
/-!
What is told of each cycle. The events of a cycle that has ended are one of eight stories, and which
one it is follows from the result of its fetch, from what its page is worth, and from how the calls
of its senders ended; the other cycles have no part in it. What is still to be told of a cycle can be
read off the place where it is, and every turn keeps the sum of both.
-/
namespace Lookout.Pipeline

/-- What is told of a cycle from its fetch to its end. -/
inductive Story where
  | fetchFailed
  | fetchPanicked
  | queryFailed
  | notMatched
  | emptyMessage
  | sent
  | sendFailed
  | sendPanicked
  deriving DecidableEq, Repr

namespace Story

/-- The texts of the events that make up a story. -/
def texts : Story → List String
  | fetchFailed => ["Failed to crawl"]
  | fetchPanicked => ["Recovered from panic while fetching"]
  | queryFailed => ["Fetched response", "Failed to apply query"]
  | notMatched => ["Fetched response", "query result does not match"]
  | emptyMessage =>
    ["Fetched response", "Query matched", "Rendered message is empty, nothing to send"]
  | sent => ["Fetched response", "Query matched", "Sending message"]
  | sendFailed =>
    ["Fetched response", "Query matched", "Sending message", "failed to send message"]
  | sendPanicked =>
    ["Fetched response", "Query matched", "Sending message",
      "Recovered from panic while dispatching"]

/-- No two stories are told alike. -/
theorem texts_injective : Function.Injective texts := by
  intro a b h
  cases a <;> cases b <;> simp [texts] at h ⊢

/-- The story of a message by the ends of the calls of its senders: one that panics counts for more
than one that fails, whichever is first. -/
def ofSends (endings : List SendEnding) : Story :=
  if endings.any SendEnding.panics then .sendPanicked
  else if endings.any SendEnding.fails then .sendFailed
  else .sent

end Story

/-- What is told of a message after it has been handed to senders. -/
def tellSends (endings : List SendEnding) : List String :=
  if endings.any SendEnding.panics then ["Recovered from panic while dispatching"]
  else if endings.any SendEnding.fails then ["failed to send message"]
  else []

namespace Plan
variable (p : Plan) (endings : String → List SendEnding)

/-- The story of a cycle by the result of its fetch and by the ends of the calls of its senders. -/
def storyOf : FetchResult → Story
  | .error _ => .fetchPanicked
  | .ok (.error _) => .fetchFailed
  | .ok (.ok page) =>
    match p.condition.apply page.body with
    | .error _ => .queryFailed
    | .ok o =>
      if o.isMatch then
        let text := Template.render p.message o.bindings
        if text.isEmpty then .emptyMessage else .ofSends (endings text)
      else .notMatched

/-- What is told of a cycle after its response has matched. -/
def tellMatched (m : Matched) : List String :=
  if (p.textOf m).isEmpty then ["Rendered message is empty, nothing to send"]
  else "Sending message" :: tellSends (endings (p.textOf m))

/-- What is told of a cycle after its response has been fetched. -/
def tellFetched (f : Fetched) : List String :=
  match p.condition.apply f.body with
  | .error _ => ["Failed to apply query"]
  | .ok o =>
    if o.isMatch then "Query matched" :: p.tellMatched endings ⟨f.seq, f.body, o.bindings⟩
    else ["query result does not match"]

variable {p endings}

theorem texts_storyOf_page (seq : Nat) (page : Http.Page) :
    (p.storyOf endings (.ok (.ok page))).texts =
      "Fetched response" :: p.tellFetched endings ⟨seq, page.body⟩ := by
  cases hApply : p.condition.apply page.body with
  | error e => simp only [storyOf, tellFetched, hApply, Story.texts]
  | ok o =>
      simp only [storyOf, tellFetched, hApply]
      by_cases hMatch : o.isMatch = true
      · simp only [hMatch, if_true, tellMatched, textOf]
        by_cases hText : (Template.render p.message o.bindings).isEmpty = true
        · simp only [hText, if_true, Story.texts]
        · simp only [hText, tellSends, Story.ofSends]
          split_ifs <;> rfl
      · simp only [hMatch]
        rfl

end Plan

/-! ### What has been told and what is still to be told -/

/-- What a list of notes tells of a cycle. -/
def Note.eventOf? (n : Nat) : Note → Option Event
  | event seq e => if seq = n then some e else none
  | _ => none

/-- The texts of the events of a cycle in a list of notes. -/
def toldOf (n : Nat) (notes : List Note) : List String :=
  (notes.filterMap (Note.eventOf? n)).map Event.message

/-- What is to be told of the entry of a cycle in a list, if it is there. -/
def pick {α : Type} (n : Nat) (key : α → Nat) (tell : α → List String) (l : List α) : List String :=
  l.flatMap fun a => if key a = n then tell a else []

section Lists
variable {α : Type} {n seq : Nat} {key : α → Nat} {tell : α → List String} {l : List α}

@[simp] theorem pick_nil : pick n key tell [] = [] := rfl

@[simp] theorem pick_cons (a : α) :
    pick n key tell (a :: l) = (if key a = n then tell a else []) ++ pick n key tell l := by
  simp [pick]

@[simp] theorem pick_append (l' : List α) :
    pick n key tell (l ++ l') = pick n key tell l ++ pick n key tell l' := by
  simp [pick]

theorem pick_eq_nil (h : n ∉ l.map key) : pick n key tell l = [] := by
  refine List.flatMap_eq_nil_iff.2 fun a ha => if_neg fun hKey => ?_
  exact h (List.mem_map.2 ⟨a, ha, hKey⟩)

theorem pick_eq_of_mem {a : α} (hNodup : (l.map key).Nodup) (ha : a ∈ l) :
    pick (key a) key tell l = tell a := by
  induction l with
  | nil => cases ha
  | cons b l ih =>
      rw [List.map_cons, List.nodup_cons] at hNodup
      rw [pick_cons]
      rcases List.mem_cons.1 ha with rfl | ha
      · rw [if_pos rfl, pick_eq_nil hNodup.1, List.append_nil]
      · have hNe : key b ≠ key a := fun hEq => hNodup.1 (hEq ▸ List.mem_map_of_mem ha)
        rw [if_neg hNe, List.nil_append, ih hNodup.2 ha]

@[simp] theorem toldOf_nil : toldOf n [] = [] := rfl

@[simp] theorem toldOf_append (notes notes' : List Note) :
    toldOf n (notes ++ notes') = toldOf n notes ++ toldOf n notes' := by
  simp [toldOf]

@[simp] theorem toldOf_event (e : Event) (notes : List Note) :
    toldOf n (.event seq e :: notes) = (if seq = n then [e.message] else []) ++ toldOf n notes := by
  by_cases h : seq = n <;> simp [toldOf, Note.eventOf?, h]

@[simp] theorem toldOf_notice (told : Notice) (notes : List Note) :
    toldOf n (.notice told :: notes) = toldOf n notes := rfl

@[simp] theorem toldOf_fetch (notes : List Note) :
    toldOf n (.fetch seq :: notes) = toldOf n notes := rfl

end Lists

/-- What is still to be told of a cycle that the dispatch stage has in hand. -/
def DispatchState.untold (n : Nat) : DispatchState → List String
  | sending seq calls => if seq = n then tellSends (calls.map Call.ending) else []
  | idle | stopped => []

/-- What is still to be told of a cycle that has been fetched. -/
def Group.untold (p : Plan) (endings : Nat → String → List SendEnding) (g : Group) (n : Nat) :
    List String :=
  g.dispatch.untold n ++
    pick n Matched.seq (p.tellMatched (endings n)) (g.toDispatch ++ g.evaluate.matched) ++
    pick n Fetched.seq (p.tellFetched (endings n))
      (g.evaluate.fetched ++ g.toEvaluate ++ g.fetch.fetched)

namespace DispatchState

@[simp] theorem untold_idle (n : Nat) : idle.untold n = [] := rfl
@[simp] theorem untold_stopped (n : Nat) : stopped.untold n = [] := rfl

theorem untold_eq_nil {d : DispatchState} {n : Nat} (h : n ∉ d.held) : d.untold n = [] := by
  cases d with
  | sending seq calls => exact if_neg fun hEq => h (by simp [hEq])
  | idle => rfl
  | stopped => rfl

end DispatchState

/-- The notes on a message tell how the calls ended when none of them waits any more. -/
theorem toldOf_sendingNotes {seq n : Nat} {calls : List Call} (h : calls.any Call.isWaiting = false) :
    toldOf n (Group.sendingNotes seq calls) =
      if seq = n then tellSends (calls.map Call.ending) else [] := by
  unfold tellSends Group.sendingNotes
  rw [panics_of_ended h, fails_of_ended h]
  cases calls.filterMap Call.failure? with
  | nil => simp
  | cons chain failures => simp [Event.message]

/-! ### Turns -/

namespace Group
variable {p : Plan} {stage : Stage} {now n : Nat} {visit : Http.Visit}
  {deliveries : String → List Delivery} {endings : Nat → String → List SendEnding} {g after : Group}
  {notes : List Note}

theorem toldOf_sendNotes (m : Matched) (called : Nat) :
    toldOf n (sendNotes p deliveries m called) = if m.seq = n then ["Sending message"] else [] := by
  have hCalls : toldOf n ((List.range called).map fun sender => .send m.seq sender (p.textOf m)) = [] := by
    simp [toldOf, Note.eventOf?, Function.comp_def]
  rw [sendNotes, toldOf_event, hCalls, List.append_nil]
  rfl

/-- Nothing is left to be told of a cycle that no stage behind the crawler has. -/
theorem untold_eq_nil (hDispatch : n ∉ g.dispatch.held) (hToDispatch : n ∉ g.toDispatch.map Matched.seq)
    (hEvaluate : n ∉ g.evaluate.held) (hToEvaluate : n ∉ g.toEvaluate.map Fetched.seq)
    (hFetch : n ∉ g.fetch.fetched.map Fetched.seq) : g.untold p endings n = [] := by
  have hFetched : n ∉ g.evaluate.fetched.map Fetched.seq := by
    cases hState : g.evaluate <;> simp_all
  have hMatched : n ∉ g.evaluate.matched.map Matched.seq := by
    cases hState : g.evaluate <;> simp_all
  simp only [untold, pick_append, DispatchState.untold_eq_nil hDispatch, pick_eq_nil hToDispatch,
    pick_eq_nil hMatched, pick_eq_nil hFetched, pick_eq_nil hToEvaluate, pick_eq_nil hFetch,
    List.append_nil]

/-- When a call of the crawler ends, the story of its cycle begins: nothing of it has been told, and
what is not told at once is still to be told. -/
theorem untold_of_result {seq : Nat} {r : FetchResult} {first : String} {rest : List String}
    (hResult : g.fetch.result? g.cancelled = some (seq, r)) (hWay : g.onTheWay.Nodup)
    (hTexts : (p.storyOf (endings n) r).texts = first :: rest)
    (hAfter : after.untold p endings n = g.untold p endings n ++ if seq = n then rest else []) :
    (if seq = n then [first] else []) ++ after.untold p endings n =
      g.untold p endings n ++ pick n Prod.fst (fun r => (p.storyOf (endings n) r.2).texts)
        (g.fetch.result? g.cancelled).toList := by
  rw [hAfter, hResult]
  by_cases hSeq : seq = n
  · subst hSeq
    -- A cycle whose call ends is at no place farther on.
    have hFresh : g.untold p endings seq = [] := by
      rw [onTheWay, FetchState.held_of_result? hResult] at hWay
      simp only [List.nodup_append, List.mem_append] at hWay
      refine untold_eq_nil ?_ ?_ ?_ ?_ (by simp [FetchState.fetched_of_result? hResult])
      all_goals grind
    simp [hFresh, hTexts]
  · simp [hSeq]

/-- What the result of a fetch makes of its cycle is told, or is still to be told. -/
theorem untold_of_fetchTurn (hg : g.Cascades) (hRuns : g.fetch.isStopped = false)
    (hWay : g.onTheWay.Nodup) (h : FetchTurn now visit g after notes) :
    toldOf n notes ++ after.untold p endings n =
      g.untold p endings n ++ pick n Prod.fst (fun r => (p.storyOf (endings n) r.2).texts)
        (g.fetch.result? g.cancelled).toList := by
  cases h with
  | call hState _ => simp [untold, hState]
  | stop hState _ _ => simp [untold, hState]
  | panicked hResult _ =>
      rw [toldOf_event, toldOf_nil, List.append_nil]
      refine untold_of_result hResult hWay rfl ?_
      simp [untold, FetchState.fetched_of_result? hResult]
  | failed hResult _ =>
      rw [toldOf_event, toldOf_nil, List.append_nil]
      refine untold_of_result hResult hWay rfl ?_
      simp [untold, FetchState.fetched_of_result? hResult]
  | @fetched seq page hResult _ =>
      rw [toldOf_event, toldOf_nil, List.append_nil]
      refine untold_of_result hResult hWay (Plan.texts_storyOf_page seq page) ?_
      simp [untold, FetchState.fetched_of_result? hResult]
  | hand hState _ _ => simp [untold, hState]
  | closed _ hStopped => simp [hg.evaluate_runs hRuns] at hStopped

/-- What an evaluation makes of a cycle was to be told. -/
theorem untold_of_evaluateTurn (hg : g.Cascades) (hRuns : g.evaluate.isStopped = false)
    (hWay : g.onTheWay.Nodup) (h : EvaluateTurn p g after notes) :
    toldOf n notes ++ after.untold p endings n = g.untold p endings n := by
  -- A cycle that is evaluated is not yet with the dispatch stage.
  have hFresh {f : Fetched} (hState : g.evaluate = .evaluating f) (hSeq : f.seq = n) :
      g.dispatch.untold n = [] ∧
        pick n Matched.seq (p.tellMatched (endings n)) g.toDispatch = [] := by
    rw [onTheWay, hState, EvaluateState.held_evaluating, hSeq] at hWay
    simp only [List.nodup_append, List.mem_append] at hWay
    exact ⟨DispatchState.untold_eq_nil (by grind), pick_eq_nil (by grind)⟩
  cases h with
  | take hState hQueue => simp [untold, hState, hQueue]
  | stop hState hQueue _ => simp [untold, hState, hQueue]
  | @failed f e hState hApply =>
      by_cases hSeq : f.seq = n
      · simp [untold, hState, hFresh hState hSeq, hSeq, Plan.tellFetched, hApply, Event.message]
      · simp [untold, hState, hSeq]
  | @matched f o hState hApply hMatch =>
      by_cases hSeq : f.seq = n
      · simp [untold, hState, hFresh hState hSeq, hSeq, Plan.tellFetched, hApply, hMatch,
          Event.message]
      · simp [untold, hState, hSeq]
  | @unmatched f o hState hApply hMatch =>
      by_cases hSeq : f.seq = n
      · simp [untold, hState, hFresh hState hSeq, hSeq, Plan.tellFetched, hApply, hMatch,
          Event.message]
      · simp [untold, hState, hSeq]
  | hand hState _ _ => simp [untold, hState]
  | closed _ hStopped => simp [hg.dispatch_runs hRuns] at hStopped

/-- What becomes of a message was to be told. -/
theorem untold_of_dispatchTurn
    (hEndings : ∀ m rest, g.toDispatch = m :: rest → ∀ text,
      endings m.seq text = (deliveries text).map Delivery.ending)
    (h : DispatchTurn p now deliveries g after notes) :
    toldOf n notes ++ after.untold p endings n = g.untold p endings n := by
  cases h with
  | empty hState hQueue hText =>
      simp [untold, hState, hQueue, Plan.tellMatched, hText, Event.message]
  | @send m rest called calls hState hQueue hText hCalls =>
      have hSends : tellSends (endings m.seq (p.textOf m)) = tellSends (calls.map Call.ending) := by
        rw [hEndings m rest hQueue, ending_of_startCalls hCalls]
      by_cases hSeq : m.seq = n
      · subst hSeq
        simp [untold, hState, hQueue, Plan.tellMatched, hText, toldOf_sendNotes, hSends,
          DispatchState.untold]
      · simp [untold, hState, hQueue, toldOf_sendNotes, DispatchState.untold, hSeq]
  | @crash m rest called message hState hQueue hText hCalls =>
      have hSends : tellSends (endings m.seq (p.textOf m)) =
          ["Recovered from panic while dispatching"] := by
        rw [hEndings m rest hQueue, tellSends, panics_of_startCalls hCalls, if_pos rfl]
      by_cases hSeq : m.seq = n
      · subst hSeq
        simp [untold, hState, hQueue, Plan.tellMatched, hText, toldOf_sendNotes, hSends,
          Event.message]
      · simp [untold, hState, hQueue, toldOf_sendNotes, hSeq]
  | stop hState hQueue _ => simp [untold, hState, hQueue]
  | finish hState hEnded =>
      simp [untold, hState, toldOf_sendingNotes hEnded, DispatchState.untold]
  | poll hState _ hPoll => simp [untold, hState, DispatchState.untold, ending_of_pollCalls hPoll]
  | panicked hState _ hPoll =>
      simp [untold, hState, DispatchState.untold, tellSends, panics_of_pollCalls hPoll, Event.message]

/-- Each turn tells what was to be told, or leaves it to be told. -/
theorem untold_of_turn (hg : g.Cascades) (hWay : g.onTheWay.Nodup)
    (hEndings : ∀ m rest, g.toDispatch = m :: rest → ∀ text,
      endings m.seq text = (deliveries text).map Delivery.ending)
    (h : g.turn p stage now visit deliveries = some (after, notes)) :
    toldOf n notes ++ after.untold p endings n =
      g.untold p endings n ++ pick n Prod.fst (fun r => (p.storyOf (endings n) r.2).texts)
        (Turn.mk stage now g after notes).result?.toList := by
  have hRuns := hasStopped_eq_false_of_turn h
  cases stage with
  | trigger => cases triggerTurn_cases h <;> simp [Turn.result?, untold]
  | fetch => exact untold_of_fetchTurn hg hRuns hWay (fetchTurn_cases h)
  | evaluate =>
      simpa [Turn.result?] using untold_of_evaluateTurn hg hRuns hWay (evaluateTurn_cases h)
  | dispatch => simpa [Turn.result?] using untold_of_dispatchTurn hEndings (dispatchTurn_cases h)

end Group

/-! ### Courses -/

namespace Course
variable {s : Setting} {c d : Course} {n : Nat} {answers : Nat → String → List Delivery}

/-- The events of a cycle, in order. -/
def eventsOf (c : Course) (n : Nat) : List Event := c.notes.filterMap (Note.eventOf? n)

theorem message_eventsOf : (c.eventsOf n).map Event.message = toldOf n (c.turns.flatMap Turn.notes) := by
  unfold eventsOf notes toldOf
  split_ifs <;> simp [List.filterMap_cons, Note.eventOf?]

/-- What has been told of a cycle and what is still to be told of it is what the result of its fetch
makes of it. -/
theorem Reachable.toldOf_untold (h : Reachable s c) (hAnswered : c.Answered s.plan answers) :
    toldOf n (c.turns.flatMap Turn.notes) ++ c.group.untold s.plan (endingsOf answers) n =
      pick n Prod.fst (fun r => (s.plan.storyOf (endingsOf answers n) r.2).texts) c.results := by
  induction h with
  | refl => rfl
  | @tail c d hPrior hStep ih =>
      cases hStep with
      | @turn stage time visit deliveries after notes _ _ _ hTurn =>
          obtain ⟨visit', hSame⟩ := hAnswered _ (List.mem_append_right _ (List.mem_singleton_self _))
          have hWay : c.group.onTheWay.Nodup := (List.nodup_append.1 (Reachable.nodup_places hPrior)).2.1
          have hEndings : ∀ m rest, c.group.toDispatch = m :: rest → ∀ text,
              endingsOf answers m.seq text =
                (answers c.group.nextDispatched text).map Delivery.ending := by
            intro m rest hQueue text
            simp [endingsOf, Group.nextDispatched, hQueue]
          have hNow := Group.untold_of_turn (n := n) (Reachable.cascades hPrior) hWay hEndings hSame
          have hBefore := ih fun t ht => hAnswered t (List.mem_append_left _ ht)
          rw [results_take, pick_append, ← hBefore, List.append_assoc]
          simp only [take, List.flatMap_append, List.flatMap_singleton, toldOf_append,
            List.append_assoc]
          rw [hNow]
      | shutdown _ => exact ih hAnswered
      | join _ _ => exact ih hAnswered

/-- A cycle has ended when the crawler has been called for it and it is on its way no more. -/
theorem Reachable.mem_finished_iff (h : Reachable s c) :
    n ∈ c.finished ↔ n ∈ c.visited ∧ n ∉ c.group.onTheWay := by
  have hPlaces := h.nodup_places
  rw [List.nodup_append] at hPlaces
  have hAccepted : n ∈ c.finished ∨ n ∈ c.group.onTheWay ↔ n ∈ c.visited ∨ n ∈ c.group.toFetch := by
    rw [← List.mem_append, h.inOrder.conserved.mem_iff, ← h.inOrder.visited, List.mem_append]
  have hQueue : n ∈ c.group.toFetch → n ∈ c.group.onTheWay := fun hn => List.mem_append_right _ hn
  constructor
  · intro hn
    have hGone : n ∉ c.group.onTheWay := fun hWay => hPlaces.2.2 n hn n hWay rfl
    exact ⟨(hAccepted.1 (.inl hn)).resolve_right fun hFetch => hGone (hQueue hFetch), hGone⟩
  · rintro ⟨hVisited, hGone⟩
    exact (hAccepted.2 (.inl hVisited)).resolve_right hGone

/-- The call of the crawler for a cycle that has ended has had one result. -/
theorem Reachable.exists_result (h : Reachable s c) (hn : n ∈ c.finished) :
    ∃ r, (n, r) ∈ c.results := by
  obtain ⟨hVisited, hGone⟩ := h.mem_finished_iff.1 hn
  rw [← h.results_visiting, List.mem_append] at hVisited
  have hVisiting : n ∉ c.group.fetch.visiting := by
    intro hVisiting
    refine hGone ?_
    cases hState : c.group.fetch <;> simp_all [Group.onTheWay, FetchState.held]
  obtain ⟨⟨_, r⟩, hr, rfl⟩ := List.mem_map.1 (hVisited.resolve_right hVisiting)
  exact ⟨r, hr⟩

theorem Reachable.results_nodup (h : Reachable s c) : (c.results.map Prod.fst).Nodup := by
  rw [h.results_seq]
  exact List.nodup_range'

/-- All that is told of a cycle that has ended is the story of the result of its fetch. -/
theorem Reachable.message_eventsOf_eq (h : Reachable s c) (hAnswered : c.Answered s.plan answers)
    (hn : n ∈ c.finished) {r : FetchResult} (hr : (n, r) ∈ c.results) :
    (c.eventsOf n).map Event.message = (s.plan.storyOf (endingsOf answers n) r).texts := by
  have hGone := (h.mem_finished_iff.1 hn).2
  simp only [Group.onTheWay, List.mem_append, not_or] at hGone
  obtain ⟨⟨⟨⟨⟨hDispatch, hToDispatch⟩, hEvaluate⟩, hToEvaluate⟩, hFetch⟩, _⟩ := hGone
  have hFetched : n ∉ c.group.fetch.fetched.map Fetched.seq := by
    cases hState : c.group.fetch <;> simp_all
  have hSum := h.toldOf_untold (n := n) hAnswered
  rwa [Group.untold_eq_nil hDispatch hToDispatch hEvaluate hToEvaluate hFetched, List.append_nil,
    pick_eq_of_mem h.results_nodup hr, ← message_eventsOf] at hSum

end Course

end Lookout.Pipeline
