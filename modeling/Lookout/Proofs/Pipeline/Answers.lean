import Lookout.Proofs.Pipeline.Backlog
/-!
How the calls of senders end. Polling a call never changes how it ends, so that what becomes of a
message can be read off the ends of its calls from the moment at which they begin. A message is
handed to senders only once, so that in each course the senders have answered every cycle in one way.
-/
namespace Lookout.Pipeline

/-- How the call of a sender ends. -/
abbrev SendEnding := Ending (Except (List String) Unit)

def SendEnding.panics : SendEnding → Bool
  | .panicked _ => true
  | .returned _ => false

def SendEnding.fails : SendEnding → Bool
  | .returned (.error _) => true
  | _ => false

/-- How a call ends or has ended. -/
def Call.ending : Call → SendEnding
  | waiting _ ending => ending
  | succeeded => .returned (.ok ())
  | failed chain => .returned (.error chain)

theorem Call.Polled.ending {now : Nat} {call done : Call} (h : call.Polled now done) :
    done.ending = call.ending := by
  cases h <;> rfl

/-- The message of a call that is found to have panicked is that of its panic. -/
theorem Call.exists_panicked_of_poll {now : Nat} {call : Call} {message : String}
    (h : call.poll now = .error message) :
    ∃ p, call.ending = .panicked p ∧ p.message = message := by
  cases call with
  | waiting due ending =>
      simp only [poll] at h
      split_ifs at h with hDue
      cases ending with
      | panicked p => exact ⟨p, rfl, Except.error.inj h⟩
      | returned result => cases result <;> cases h
  | succeeded => cases h
  | failed chain => cases h

theorem Call.panics_of_poll {now : Nat} {call : Call} {message : String}
    (h : call.poll now = .error message) : SendEnding.panics call.ending = true := by
  obtain ⟨p, hEnding, _⟩ := exists_panicked_of_poll h
  rw [hEnding]
  rfl

theorem ending_of_pollCalls {now : Nat} {calls done : List Call} (h : pollCalls now calls = .ok done) :
    done.map Call.ending = calls.map Call.ending := by
  have hPolls := polled_of_pollCalls h
  clear h
  induction hPolls with
  | nil => rfl
  | cons hFirst _ ih => rw [List.map_cons, List.map_cons, hFirst.ending, ih]

theorem exists_panicked_of_pollCalls {now : Nat} {calls : List Call} {message : String}
    (h : pollCalls now calls = .error message) :
    ∃ call ∈ calls, ∃ p, call.ending = .panicked p ∧ p.message = message := by
  induction calls with
  | nil => cases h
  | cons call rest ih =>
      simp only [pollCalls] at h
      split at h
      · rename_i hFirst
        cases h
        exact ⟨call, List.mem_cons_self, Call.exists_panicked_of_poll hFirst⟩
      · split at h
        · rename_i hRest
          cases h
          obtain ⟨other, hOther, hPanicked⟩ := ih hRest
          exact ⟨other, List.mem_cons_of_mem _ hOther, hPanicked⟩
        · cases h

theorem panics_of_pollCalls {now : Nat} {calls : List Call} {message : String}
    (h : pollCalls now calls = .error message) :
    (calls.map Call.ending).any SendEnding.panics = true := by
  obtain ⟨call, hCall, p, hEnding, _⟩ := exists_panicked_of_pollCalls h
  exact List.any_eq_true.2 ⟨call.ending, List.mem_map_of_mem hCall, by rw [hEnding]; rfl⟩

theorem ending_of_startCalls {now called : Nat} {ds : List Delivery} {calls : List Call}
    (h : startCalls now ds = (called, .ok calls)) :
    calls.map Call.ending = ds.map Delivery.ending := by
  have hPolls := (polled_of_startCalls h).2
  clear h
  induction hPolls with
  | nil => rfl
  | cons hFirst _ ih =>
      rw [List.map_cons, List.map_cons, hFirst.ending, ih]
      rfl

theorem panics_of_startCalls {now called : Nat} {ds : List Delivery} {message : String}
    (h : startCalls now ds = (called, .error message)) :
    (ds.map Delivery.ending).any SendEnding.panics = true := by
  induction ds generalizing called with
  | nil => cases h
  | cons d rest ih =>
      simp only [startCalls] at h
      split at h
      · rename_i hFirst
        have hPanics : SendEnding.panics d.ending = true := Call.panics_of_poll hFirst
        simp [hPanics]
      · split at h
        · rename_i hRest
          cases h
          simp [ih hRest]
        · cases h

/-- A call that has ended did not panic. -/
theorem panics_of_ended {calls : List Call} (h : calls.any Call.isWaiting = false) :
    (calls.map Call.ending).any SendEnding.panics = false := by
  induction calls with
  | nil => rfl
  | cons call rest ih =>
      rw [List.any_cons, Bool.or_eq_false_iff] at h
      cases call with
      | waiting due ending => cases h.1
      | _ => simpa [Call.ending, SendEnding.panics] using ih h.2

theorem fails_of_ended {calls : List Call} (h : calls.any Call.isWaiting = false) :
    (calls.map Call.ending).any SendEnding.fails = !(calls.filterMap Call.failure?).isEmpty := by
  induction calls with
  | nil => rfl
  | cons call rest ih =>
      rw [List.any_cons, Bool.or_eq_false_iff] at h
      cases call with
      | waiting due ending => cases h.1
      | succeeded =>
          simpa [Call.ending, SendEnding.fails, Call.failure?, List.filterMap_cons] using ih h.2
      | failed chain => simp [Call.ending, SendEnding.fails, Call.failure?]

namespace Group
variable {p : Plan} {stage : Stage} {now : Nat} {visit : Http.Visit}
  {deliveries : String → List Delivery} {g after : Group} {notes : List Note}

/-- A message is handed to senders from the head of its queue. -/
theorem dispatching_eq_nextDispatched (h : g.turn p stage now visit deliveries = some (after, notes)) :
    notes.filterMap Note.dispatching? = [] ∨
      notes.filterMap Note.dispatching? = [g.nextDispatched] ∧
        g.nextDispatched ∈ g.toDispatch.map Matched.seq := by
  cases stage with
  | trigger => cases triggerTurn_cases h <;> exact .inl rfl
  | fetch => cases fetchTurn_cases h <;> exact .inl rfl
  | evaluate => cases evaluateTurn_cases h <;> exact .inl rfl
  | dispatch =>
      cases dispatchTurn_cases h with
      | send _ hQueue _ _ =>
          exact .inr ⟨by simp [sendNotes_dispatching, nextDispatched, hQueue], by
            simp [nextDispatched, hQueue]⟩
      | crash _ hQueue _ _ =>
          refine .inr ⟨?_, by simp [nextDispatched, hQueue]⟩
          rw [List.filterMap_append, sendNotes_dispatching]
          simp [nextDispatched, hQueue, Note.dispatching?]
      | finish _ _ =>
          left
          unfold sendingNotes
          split <;> rfl
      | _ => exact .inl rfl

/-- A turn in which no message is handed to senders goes alike whatever they are like. -/
theorem turn_eq_of_dispatching_eq_nil (others : String → List Delivery)
    (h : g.turn p stage now visit deliveries = some (after, notes))
    (hNone : notes.filterMap Note.dispatching? = []) :
    g.turn p stage now visit others = some (after, notes) := by
  cases stage with
  | dispatch =>
      cases hState : g.dispatch with
      | idle =>
          cases dispatchTurn_cases h with
          | empty _ hQueue hText =>
              have hRender := hText
              unfold Plan.textOf at hRender
              simp [turn, dispatchTurn, hState, hQueue, startSending, hRender]
          | send _ _ _ _ => simp [sendNotes_dispatching] at hNone
          | crash _ _ _ _ => simp [sendNotes_dispatching] at hNone
          | stop _ hQueue hClosed => simp [turn, dispatchTurn, hState, hQueue, hClosed]
          | finish hSending _ => simp [hState] at hSending
          | poll hSending _ _ => simp [hState] at hSending
          | panicked hSending _ _ => simp [hState] at hSending
      | sending seq calls => simpa only [turn, dispatchTurn, hState] using h
      | stopped => simpa only [turn, dispatchTurn, hState] using h
  | _ => exact h

end Group

namespace Course
variable {s : Setting} {c : Course} {n : Nat} {answers : Nat → String → List Delivery}

/-- Whether the calls of the senders have gone as is said for each cycle and text. -/
def Answered (p : Plan) (answers : Nat → String → List Delivery) (c : Course) : Prop :=
  ∀ t ∈ c.turns, ∃ visit,
    t.before.turn p t.stage t.time visit (answers t.before.nextDispatched) = some (t.after, t.notes)

/-- How the calls of the senders end that are handed the text of a cycle. -/
def endingsOf (answers : Nat → String → List Delivery) (n : Nat) (text : String) : List SendEnding :=
  (answers n text).map Delivery.ending

/-- A cycle whose message was handed to senders has ended or is with the dispatch stage. -/
theorem Reachable.mem_of_dispatching (h : Reachable s c) (hn : n ∈ c.dispatching) :
    n ∈ c.finished ++ c.group.dispatch.held := by
  rw [h.dispatching_eq] at hn
  rcases List.mem_append.1 hn with hDispatched | hHeld
  · obtain ⟨t, ht, hn⟩ := List.mem_flatMap.1 hDispatched
    obtain ⟨fate, hFate, rfl⟩ := List.mem_map.1 hn
    have hFates : fate ∈ c.fates := List.mem_flatMap.2 ⟨t, ht, List.mem_of_mem_filter hFate⟩
    exact List.mem_append_left _ (List.mem_map_of_mem hFates)
  · exact List.mem_append_right _ hHeld

theorem Reachable.nodup_places (h : Reachable s c) : (c.finished ++ c.group.onTheWay).Nodup :=
  h.inOrder.conserved.nodup_iff.2 h.inOrder.accepted_nodup

/-- The message of a cycle is handed to senders only once. -/
theorem Reachable.not_mem_dispatching (h : Reachable s c) (hn : n ∈ c.group.toDispatch.map Matched.seq) :
    n ∉ c.dispatching := by
  intro hDispatching
  have hPlaces := h.nodup_places
  have hMem := h.mem_of_dispatching hDispatching
  simp only [Group.onTheWay, List.nodup_append, List.mem_append] at hPlaces hMem
  grind

theorem Answered.take {p : Plan} {t : Turn} {visit : Http.Visit} (hc : c.Answered p answers)
    (ht : t.before.turn p t.stage t.time visit (answers t.before.nextDispatched) =
      some (t.after, t.notes)) : (c.take t).Answered p answers := by
  intro t' ht'
  rcases List.mem_append.1 ht' with ht' | ht'
  · exact hc t' ht'
  · obtain rfl := List.mem_singleton.1 ht'
    exact ⟨visit, ht⟩

/-- How the calls go for the message at the head of its queue makes no difference to what has
happened. -/
theorem Answered.update (hc : c.Answered s.plan answers) (h : Reachable s c)
    (hHead : c.group.nextDispatched ∈ c.group.toDispatch.map Matched.seq)
    (deliveries : String → List Delivery) :
    c.Answered s.plan (Function.update answers c.group.nextDispatched deliveries) := by
  intro t ht
  obtain ⟨visit, hTurn⟩ := hc t ht
  refine ⟨visit, ?_⟩
  rcases Group.dispatching_eq_nextDispatched hTurn with hNone | ⟨hSame, _⟩
  · exact Group.turn_eq_of_dispatching_eq_nil _ hTurn hNone
  · have hNe : t.before.nextDispatched ≠ c.group.nextDispatched := by
      intro hEq
      refine h.not_mem_dispatching hHead ?_
      rw [dispatching, List.filterMap_flatMap, List.mem_flatMap]
      exact ⟨t, ht, by simp [hSame, hEq]⟩
    rw [Function.update_of_ne hNe]
    exact hTurn

/-- The calls of the senders always go in some way, and for each cycle in one way only. -/
theorem Reachable.exists_answered (h : Reachable s c) :
    ∃ answers : Nat → String → List Delivery, (∀ m, s.Allows (answers m)) ∧ c.Answered s.plan answers := by
  induction h with
  | refl =>
      obtain ⟨deliveries, hAllows⟩ := s.exists_allows
      exact ⟨fun _ => deliveries, fun _ => hAllows, fun _ ht => nomatch ht⟩
  | @tail c d hPrior hStep ih =>
      obtain ⟨answers, hAllows, hAnswered⟩ := ih
      cases hStep with
      | @turn stage time visit deliveries after notes _ _ hDeliveries hTurn =>
          rcases Group.dispatching_eq_nextDispatched hTurn with hNone | ⟨_, hHead⟩
          · exact ⟨answers, hAllows,
              hAnswered.take (Group.turn_eq_of_dispatching_eq_nil _ hTurn hNone)⟩
          · refine ⟨Function.update answers c.group.nextDispatched deliveries, fun m => ?_, ?_⟩
            · by_cases hm : m = c.group.nextDispatched
              · rw [hm, Function.update_self]
                exact hDeliveries
              · rw [Function.update_of_ne hm]
                exact hAllows m
            · have hSame : c.group.turn s.plan stage time visit
                  (Function.update answers c.group.nextDispatched deliveries c.group.nextDispatched) =
                  some (after, notes) := by
                rw [Function.update_self]
                exact hTurn
              exact (hAnswered.update hPrior hHead deliveries).take hSame
      | shutdown _ => exact ⟨answers, hAllows, hAnswered⟩
      | join _ _ => exact ⟨answers, hAllows, hAnswered⟩

end Course

namespace Sample

/-- In each step of a list the calls of the senders go alike. -/
def Sends (answers : String → List Delivery) (moves : List Move) : Prop :=
  ∀ stage time visit ds, Move.turn stage time visit ds ∈ moves → ds = answers

theorem answered_of_follow {p : Plan} {answers : String → List Delivery} {c d : Course}
    {moves : List Move} (hc : c.Answered p fun _ => answers) (hSends : Sends answers moves)
    (h : c.follow? p moves = some d) : d.Answered p fun _ => answers := by
  induction moves generalizing c with
  | nil =>
      cases h
      exact hc
  | cons m moves ih =>
      obtain ⟨e, hMove, hRest⟩ := Option.bind_eq_some_iff.1 h
      have hRestSends : Sends answers moves := fun stage time visit ds hm =>
        hSends stage time visit ds (List.mem_cons_of_mem _ hm)
      refine ih ?_ hRestSends hRest
      cases m with
      | turn stage time visit ds =>
          obtain rfl := hSends stage time visit ds List.mem_cons_self
          simp only [Course.move?] at hMove
          split_ifs at hMove
          obtain ⟨⟨after, notes⟩, hTurn, rfl⟩ := Option.map_eq_some_iff.1 hMove
          exact hc.take hTurn
      | shutdown =>
          simp only [Course.move?] at hMove
          split_ifs at hMove
          cases hMove
          exact hc
      | join =>
          simp only [Course.move?] at hMove
          split at hMove
          · split_ifs at hMove
            cases hMove
            exact hc
          · cases hMove

theorem opened_answered : opened.Answered plan fun _ => deliveries := by
  have hFollow : Course.follow? plan {} opening = some opened := by
    obtain ⟨d, hd⟩ := Option.isSome_iff_exists.1 (show (Course.follow? plan {} opening).isSome by
      decide +kernel)
    simp [opened, hd]
  refine answered_of_follow (fun t ht => by cases ht) ?_ hFollow
  intro stage time visit ds hm
  simp only [opening, turn, List.mem_cons, List.not_mem_nil, Move.turn.injEq, or_false] at hm
  grind

theorem closed_answered : closed.Answered plan fun _ => deliveries := by
  have hFollow : Course.follow? plan opened.beginShutdown closing = some closed := by
    obtain ⟨d, hd⟩ := Option.isSome_iff_exists.1
      (show (Course.follow? plan opened.beginShutdown closing).isSome by decide +kernel)
    simp [closed, hd]
  have hShut : opened.beginShutdown.Answered plan fun _ => deliveries := opened_answered
  refine answered_of_follow hShut ?_ hFollow
  intro stage time visit ds hm
  simp only [closing, turn, List.mem_cons, List.not_mem_nil, Move.turn.injEq, or_false,
    reduceCtorEq, false_or] at hm
  grind

end Sample

end Lookout.Pipeline
