import Lookout.Proofs.Pipeline.Closing
/-!
How a cancelled worker group comes to its end. As long as calls can end, some stage can go on: a
stage that cannot hand on its cycle has one behind it that can make room. Every step takes away some
of the work that is left, so that the group ends after no more steps than that.
-/
namespace Lookout.Pipeline

/-- The place of a stage in the pipeline. -/
def Stage.rank : Stage → Nat
  | trigger => 0
  | fetch => 1
  | evaluate => 2
  | dispatch => 3

/-! ### Calls that can end -/

/-- Whether a call that has not ended ever does. -/
def Call.canEnd : Call → Bool
  | waiting due _ => due.isSome
  | _ => true

/-- Whether a call in progress ever ends, or does because its cycle is cancelled. -/
def FetchState.canEnd (cancelled : Bool) : FetchState → Bool
  | fetching _ due cancellable _ => (cancellable && cancelled) || due.isSome
  | _ => true

def DispatchState.canEnd : DispatchState → Bool
  | sending _ calls => calls.all Call.canEnd
  | _ => true

namespace Group

/-- Whether all calls in progress ever end. -/
def callsCanEnd (g : Group) : Bool := g.fetch.canEnd g.cancelled && g.dispatch.canEnd

/-- Whether a stage cannot hand on its cycle because the queue behind it is full. -/
def IsBlocked (g : Group) : Stage → Prop
  | .trigger => (∃ n, g.trigger = .offering n) ∧ depth ≤ g.toFetch.length
  | .fetch => (∃ f, g.fetch = .offering f) ∧ depth ≤ g.toEvaluate.length
  | .evaluate => (∃ m, g.evaluate = .offering m) ∧ depth ≤ g.toDispatch.length
  | .dispatch => False

/-- Whether one of the stages from a place on can go on, now or later. -/
def Ready (g : Group) (now rank : Nat) : Prop :=
  ∃ stage : Stage, ∃ time, rank ≤ stage.rank ∧ now ≤ time ∧ g.canTurn stage time = true

variable {g : Group}

theorem Ready.mono {now rank least : Nat} (h : g.Ready now rank) (hLeast : least ≤ rank) :
    g.Ready now least := by
  obtain ⟨stage, time, hRank, hTime, hCan⟩ := h
  exact ⟨stage, time, Nat.le_trans hLeast hRank, hTime, hCan⟩

theorem ready_now {stage : Stage} {now : Nat} (h : g.canTurn stage now = true) :
    g.Ready now stage.rank :=
  ⟨stage, now, Nat.le_refl _, Nat.le_refl _, h⟩

theorem ne_nil_of_full {α : Type} {queue : List α} (h : ¬ queue.length < depth) : queue ≠ [] := by
  rintro rfl
  exact h Nat.one_pos

/-- A dispatch stage with something to do goes on when one of its calls ends, at the latest. -/
theorem dispatch_ready (now : Nat) (hCalls : g.dispatch.canEnd = true)
    (hRuns : g.dispatch.isStopped = false)
    (hWork : g.toDispatch ≠ [] ∨ g.evaluate.isStopped = true) : g.Ready now Stage.dispatch.rank := by
  cases hState : g.dispatch with
  | idle =>
      refine ready_now ?_
      rcases hWork with hQueue | hClosed
      · simp [canTurn, hState, hQueue]
      · simp [canTurn, hState, hClosed]
  | sending seq calls =>
      by_cases hWaiting : calls.any Call.isWaiting = true
      · obtain ⟨call, hCall, hWaits⟩ := List.any_eq_true.1 hWaiting
        simp only [hState, DispatchState.canEnd, List.all_eq_true] at hCalls
        have hEnds := hCalls call hCall
        cases call with
        | waiting due ending =>
            obtain ⟨time, rfl⟩ := Option.isSome_iff_exists.1 hEnds
            refine ⟨.dispatch, max now time, Nat.le_refl _, Nat.le_max_left _ _, ?_⟩
            have hDue : calls.any (Call.isDue (max now time)) = true :=
              List.any_eq_true.2 ⟨_, hCall, by simp [Call.isDue, Nat.le_max_right]⟩
            simp [canTurn, hState, hDue]
        | succeeded => cases hWaits
        | failed chain => cases hWaits
      · exact ready_now (by simp [canTurn, hState, eq_false_of_ne_true hWaiting])
  | stopped => simp [hState, DispatchState.isStopped] at hRuns

namespace Cascades
variable (hg : g.Cascades)
include hg

/-- An evaluate stage with something to do goes on unless the dispatch queue is full, and then the
dispatch stage does. -/
theorem evaluate_ready (now : Nat) (hCalls : g.dispatch.canEnd = true)
    (hRuns : g.evaluate.isStopped = false)
    (hWork : g.toEvaluate ≠ [] ∨ g.fetch.isStopped = true) : g.Ready now Stage.evaluate.rank := by
  cases hState : g.evaluate with
  | idle =>
      refine ready_now ?_
      rcases hWork with hQueue | hClosed
      · simp [canTurn, hState, hQueue]
      · simp [canTurn, hState, hClosed]
  | evaluating f => exact ready_now (by simp [canTurn, hState])
  | offering m =>
      by_cases hRoom : g.toDispatch.length < depth
      · exact ready_now (by simp [canTurn, hState, hRoom])
      · have hReady := dispatch_ready now hCalls (hg.dispatch_runs hRuns) (.inl (ne_nil_of_full hRoom))
        exact hReady.mono (by decide)
  | stopped => simp [hState, EvaluateState.isStopped] at hRuns

/-- A fetch stage with something to do goes on unless the evaluate queue is full, and then a stage
behind it does. -/
theorem fetch_ready (now : Nat) (hCalls : g.callsCanEnd = true) (hRuns : g.fetch.isStopped = false)
    (hWork : g.toFetch ≠ [] ∨ g.trigger.isStopped = true) : g.Ready now Stage.fetch.rank := by
  obtain ⟨hFetch, hDispatch⟩ := Bool.and_eq_true_iff.1 hCalls
  cases hState : g.fetch with
  | idle =>
      refine ready_now ?_
      rcases hWork with hQueue | hClosed
      · simp [canTurn, hState, hQueue]
      · simp [canTurn, hState, hClosed]
  | fetching seq due cancellable ending =>
      simp only [hState, FetchState.canEnd, Bool.or_eq_true] at hFetch
      rcases hFetch with hHeeded | hDue
      · exact ready_now (by simp [canTurn, hState, hHeeded])
      · obtain ⟨time, rfl⟩ := Option.isSome_iff_exists.1 hDue
        refine ⟨.fetch, max now time, Nat.le_refl _, Nat.le_max_left _ _, ?_⟩
        simp [canTurn, hState, Nat.le_max_right]
  | offering f =>
      by_cases hRoom : g.toEvaluate.length < depth
      · exact ready_now (by simp [canTurn, hState, hRoom])
      · have hReady := hg.evaluate_ready now hDispatch (hg.evaluate_runs hRuns)
          (.inl (ne_nil_of_full hRoom))
        exact hReady.mono (by decide)
  | stopped => simp [hState, FetchState.isStopped] at hRuns

/-- Behind a stage that cannot hand on its cycle there is one that can go on. -/
theorem ready_of_blocked (now : Nat) (hCalls : g.callsCanEnd = true) {stage : Stage}
    (hBlocked : g.IsBlocked stage) :
    g.Ready now (stage.rank + 1) := by
  have hDispatch : g.dispatch.canEnd = true := (Bool.and_eq_true_iff.1 hCalls).2
  cases stage with
  | trigger =>
      have hQueue : g.toFetch ≠ [] := ne_nil_of_full (Nat.not_lt.2 hBlocked.2)
      refine hg.fetch_ready now hCalls (eq_false_of_ne_true fun hStopped => ?_) (.inl hQueue)
      exact hQueue (hg.fetch hStopped).2
  | fetch =>
      have hQueue : g.toEvaluate ≠ [] := ne_nil_of_full (Nat.not_lt.2 hBlocked.2)
      refine hg.evaluate_ready now hDispatch (eq_false_of_ne_true fun hStopped => ?_) (.inl hQueue)
      exact hQueue (hg.evaluate hStopped).2
  | evaluate =>
      have hQueue : g.toDispatch ≠ [] := ne_nil_of_full (Nat.not_lt.2 hBlocked.2)
      refine dispatch_ready now hDispatch (eq_false_of_ne_true fun hStopped => ?_) (.inl hQueue)
      exact hQueue (hg.dispatch hStopped).2
  | dispatch => exact hBlocked.elim

/-- The first stage that has not stopped, or one behind it, can go on once the group is cancelled. -/
theorem ready_of_cancelled (now : Nat) (hCancelled : g.cancelled = true)
    (hCalls : g.callsCanEnd = true) (hRuns : g.isStopped = false) : g.Ready now 0 := by
  have hDispatch : g.dispatch.canEnd = true := (Bool.and_eq_true_iff.1 hCalls).2
  by_cases hTrigger : g.trigger.isStopped = true
  · by_cases hFetch : g.fetch.isStopped = true
    · by_cases hEvaluate : g.evaluate.isStopped = true
      · have hLast : g.dispatch.isStopped = false := by
          simpa [isStopped, hTrigger, hFetch, hEvaluate] using hRuns
        exact (dispatch_ready now hDispatch hLast (.inr hEvaluate)).mono (Nat.zero_le _)
      · have hReady := hg.evaluate_ready now hDispatch (eq_false_of_ne_true hEvaluate) (.inr hFetch)
        exact hReady.mono (Nat.zero_le _)
    · have hReady := hg.fetch_ready now hCalls (eq_false_of_ne_true hFetch) (.inr hTrigger)
      exact hReady.mono (Nat.zero_le _)
  · have hCan : g.canTurn .trigger now = true := by
      cases hState : g.trigger <;> simp_all [canTurn, TriggerState.isStopped]
    exact ready_now hCan

end Cascades

end Group

/-! ### The work that is left -/

/-- The steps that a stage can still take with what it has in hand, at most. -/
def TriggerState.work : TriggerState → Nat
  | firing _ => 2
  | offering _ | resting _ _ => 1
  | stopped => 0

/-- The steps that a stage can still take with what it has in hand, at most, and those behind it,
when each message goes to some senders. -/
def FetchState.work (senders : Nat) : FetchState → Nat
  | fetching _ _ _ _ => senders + 8
  | offering _ => senders + 7
  | idle => 1
  | stopped => 0

/-- The steps that a stage can still take with what it has in hand, at most, and the one behind it,
when each message goes to some senders. -/
def EvaluateState.work (senders : Nat) : EvaluateState → Nat
  | evaluating _ => senders + 5
  | offering _ => senders + 4
  | idle => 1
  | stopped => 0

/-- The steps that a stage can still take with what it has in hand, at most. -/
def DispatchState.work : DispatchState → Nat
  | sending _ calls => calls.countP Call.isWaiting + 2
  | idle => 1
  | stopped => 0

/-- The turns that a cancelled group can still take at most: each cycle has as many as it takes from
where it is to its end, and each stage has those in which it stops. -/
def Group.work (senders : Nat) (g : Group) : Nat :=
  g.trigger.work + g.toFetch.length * (senders + 8) + g.fetch.work senders +
    g.toEvaluate.length * (senders + 5) + g.evaluate.work senders +
    g.toDispatch.length * (senders + 2) + g.dispatch.work

theorem FetchState.work_of_result? {f : FetchState} {cancelled : Bool} {seq : Nat} {r : FetchResult}
    (senders : Nat) (h : f.result? cancelled = some (seq, r)) : f.work senders = senders + 8 := by
  cases f <;> simp_all [result?, work]

/-- A call that is due ends, and the others stay as they are. -/
theorem Call.Polled.isWaiting {now : Nat} {call done : Call} (h : call.Polled now done) :
    (if done.isWaiting then 1 else 0) + (if call.isDue now then 1 else 0) =
      if call.isWaiting then 1 else 0 := by
  cases h with
  | waits hWaits => simp [hWaits]
  | succeeds hDue => simp [Call.isWaiting, isDue, hDue]
  | fails hDue => simp [Call.isWaiting, isDue, hDue]

theorem countP_of_pollCalls {now : Nat} {calls done : List Call} (h : pollCalls now calls = .ok done) :
    done.countP Call.isWaiting + calls.countP (Call.isDue now) = calls.countP Call.isWaiting := by
  have hPolls := polled_of_pollCalls h
  clear h
  induction hPolls with
  | nil => rfl
  | cons hFirst _ ih =>
      have hCall := hFirst.isWaiting
      simp only [List.countP_cons]
      omega

namespace Group
variable {g after : Group} {stage : Stage} {now : Nat} {visit : Http.Visit}
  {deliveries : String → List Delivery} {notes : List Note}

/-- Every turn of a cancelled group takes away some of its work. -/
theorem work_of_turn {s : Setting} (hCancelled : g.cancelled = true) (hAllows : s.Allows deliveries)
    (h : g.turn s.plan stage now visit deliveries = some (after, notes)) :
    after.work s.senders < g.work s.senders := by
  cases stage with
  | trigger =>
      cases triggerTurn_cases h with
      | fire hState => simp [work, hState, TriggerState.work]
      | abandon hState _ => simp [work, hState, TriggerState.work]
      | closed hState _ _ => simp [work, hState, TriggerState.work]
      | accept _ hOpen _ _ => simp [hCancelled] at hOpen
      | rise _ hOpen _ => simp [hCancelled] at hOpen
      | quit hState _ => simp [work, hState, TriggerState.work]
  | fetch =>
      cases fetchTurn_cases h with
      | call hState hQueue =>
          simp only [work, hState, hQueue, FetchState.work, List.length_cons, Nat.succ_mul]
          omega
      | stop hState _ _ => simp [work, hState, FetchState.work]
      | panicked hResult _ =>
          simp only [work, FetchState.work_of_result? s.senders hResult]
          simp only [FetchState.work]
          omega
      | failed hResult _ =>
          simp only [work, FetchState.work_of_result? s.senders hResult]
          simp only [FetchState.work]
          omega
      | fetched hResult _ =>
          simp only [work, FetchState.work_of_result? s.senders hResult]
          simp only [FetchState.work]
          omega
      | hand hState _ _ =>
          simp only [work, hState, FetchState.work, List.length_append, List.length_singleton,
            Nat.succ_mul]
          omega
      | closed hState _ => simp [work, hState, FetchState.work]
  | evaluate =>
      cases evaluateTurn_cases h with
      | take hState hQueue =>
          simp only [work, hState, hQueue, EvaluateState.work, List.length_cons, Nat.succ_mul]
          omega
      | stop hState _ _ => simp [work, hState, EvaluateState.work]
      | failed hState _ => simp [work, hState, EvaluateState.work]
      | matched hState _ _ => simp [work, hState, EvaluateState.work]
      | unmatched hState _ _ => simp [work, hState, EvaluateState.work]
      | hand hState _ _ =>
          simp only [work, hState, EvaluateState.work, List.length_append, List.length_singleton,
            Nat.succ_mul]
          omega
      | closed hState _ => simp [work, hState, EvaluateState.work]
  | dispatch =>
      cases dispatchTurn_cases h with
      | empty _ hQueue _ =>
          simp only [work, hQueue, List.length_cons, Nat.succ_mul]
          omega
      | @send m rest called calls hState hQueue _ hCalls =>
          have hFew : calls.countP Call.isWaiting ≤ s.senders := by
            rw [← (hAllows (s.plan.textOf m)).1, ← (length_of_startCalls hCalls).2]
            exact List.countP_le_length
          simp only [work, hState, hQueue, DispatchState.work, List.length_cons, Nat.succ_mul]
          omega
      | crash _ hQueue _ _ =>
          simp only [work, hQueue, List.length_cons, Nat.succ_mul]
          omega
      | stop hState _ _ => simp [work, hState, DispatchState.work]
      | finish hState _ => simp [work, hState, DispatchState.work]
      | poll hState hDue hPoll =>
          have hCount := countP_of_pollCalls hPoll
          have hSome : 0 < List.countP (Call.isDue now) _ :=
            List.countP_pos_iff.2 (List.any_eq_true.1 hDue)
          simp only [work, hState, DispatchState.work]
          omega
      | panicked hState _ _ => simp [work, hState, DispatchState.work]

end Group

namespace Course
variable {s : Setting} {c d : Course}

/-- The steps that are left at most once shutdown has been called, when each message goes to some
senders. -/
def work (senders : Nat) (c : Course) : Nat := c.group.work senders + (c.awaited.getD []).length

/-- Every step after the cancellation takes away some of the work that is left. -/
theorem Reachable.work_of_step (h : Reachable s c) (hCancelled : c.group.cancelled = true)
    (hStep : Step s c d) : d.work s.senders < c.work s.senders := by
  cases hStep with
  | turn _ _ hDeliveries hTurn =>
      have hLess := Group.work_of_turn hCancelled hDeliveries hTurn
      simp only [work, take_group, take_awaited]
      omega
  | shutdown hFirst =>
      have hCalled := h.cancelled_iff.1 hCancelled
      simp [hFirst] at hCalled
  | join hAwaited _ => simp [work, hAwaited]

/-- A stage that can go on does so however the calls go that begin in its turn. -/
theorem exists_step_of_ready (hReady : c.group.Ready c.now 0) : ∃ d, Step s c d := by
  obtain ⟨stage, time, _, hTime, hCan⟩ := hReady
  obtain ⟨visit, hVisit⟩ := s.exists_visit
  obtain ⟨deliveries, hAllows⟩ := s.exists_allows
  rw [Group.canTurn_eq_isSome s.plan stage time visit deliveries] at hCan
  obtain ⟨⟨after, notes⟩, hTurn⟩ := Option.isSome_iff_exists.1 hCan
  exact ⟨_, .turn hTime hVisit hAllows hTurn⟩

/-- A course of a cancelled group whose calls can end goes on until shutdown has returned. -/
theorem Reachable.ended_of_not_step (h : Reachable s c) (hCancelled : c.group.cancelled = true)
    (hCalls : c.group.callsCanEnd = true) (hLast : ∀ d, ¬ Step s c d) :
    c.group.isStopped = true ∧ c.HasReturned := by
  have hStopped : c.group.isStopped = true := by
    refine eq_true_of_ne_false fun hRuns => ?_
    have hReady := h.cascades.ready_of_cancelled c.now hCancelled hCalls hRuns
    obtain ⟨d, hStep⟩ := exists_step_of_ready (s := s) hReady
    exact hLast d hStep
  refine ⟨hStopped, ?_⟩
  obtain ⟨stages, hAwaited⟩ := Option.isSome_iff_exists.1 (h.cancelled_iff.1 hCancelled)
  cases stages with
  | nil => exact hAwaited
  | cons stage rest =>
      exact absurd (.join hAwaited (Group.isStopped_iff.1 hStopped stage)) (hLast (c.join rest))

/-- The work that is left has gone down by at least the number of steps taken. -/
theorem Reachable.work_add_le {run : Nat → Course} {n : Nat} (h : Reachable s (run 0))
    (hCancelled : (run 0).group.cancelled = true) (hRun : ∀ i < n, Step s (run i) (run (i + 1))) :
    Leads s (run 0) (run n) ∧ (run n).work s.senders + n ≤ (run 0).work s.senders := by
  induction n with
  | zero => exact ⟨.refl, Nat.le_refl _⟩
  | succ n ih =>
      obtain ⟨hLeads, hWork⟩ := ih fun i hi => hRun i (Nat.lt_succ_of_lt hi)
      have hStep := hRun n (Nat.lt_succ_self n)
      have hStill := cancelled_of_leads hCancelled hLeads
      have hLess := (h.leads hLeads).work_of_step hStill hStep
      exact ⟨hLeads.tail hStep, by omega⟩

end Course

end Lookout.Pipeline
