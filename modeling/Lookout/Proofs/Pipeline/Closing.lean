import Lookout.Proofs.Pipeline.Course
/-!
In which order the stages of a worker group stop. A stage stops only when the one in front of it
has stopped and its queue is empty, so that none ever finds the queue behind it closed.
-/
namespace Lookout.Pipeline

theorem TriggerState.isStopped_iff {t : TriggerState} : t.isStopped = true ↔ t = stopped := by
  cases t <;> simp [isStopped]

theorem FetchState.isStopped_iff {f : FetchState} : f.isStopped = true ↔ f = stopped := by
  cases f <;> simp [isStopped]

theorem EvaluateState.isStopped_iff {e : EvaluateState} : e.isStopped = true ↔ e = stopped := by
  cases e <;> simp [isStopped]

theorem DispatchState.isStopped_iff {d : DispatchState} : d.isStopped = true ↔ d = stopped := by
  cases d <;> simp [isStopped]

namespace Group

theorem hasStopped_eq_false_of_turn {p : Plan} {stage : Stage} {now : Nat} {visit : Http.Visit}
    {deliveries : String → List Delivery} {g after : Group} {notes : List Note}
    (h : g.turn p stage now visit deliveries = some (after, notes)) : g.hasStopped stage = false := by
  cases stage with
  | trigger =>
      cases hState : g.trigger <;>
        simp_all [turn, triggerTurn, hasStopped, TriggerState.isStopped]
  | fetch =>
      cases hState : g.fetch <;> simp_all [turn, fetchTurn, hasStopped, FetchState.isStopped]
  | evaluate =>
      cases hState : g.evaluate <;>
        simp_all [turn, evaluateTurn, hasStopped, EvaluateState.isStopped]
  | dispatch =>
      cases hState : g.dispatch <;>
        simp_all [turn, dispatchTurn, hasStopped, DispatchState.isStopped]

/-- A stage that has stopped stays so. -/
theorem hasStopped_of_turn {p : Plan} {stage other : Stage} {now : Nat} {visit : Http.Visit}
    {deliveries : String → List Delivery} {g after : Group} {notes : List Note}
    (h : g.turn p stage now visit deliveries = some (after, notes))
    (hOther : g.hasStopped other = true) : after.hasStopped other = true := by
  have hne : other ≠ stage := by
    rintro rfl
    simp [hasStopped_eq_false_of_turn h] at hOther
  cases stage with
  | trigger =>
      cases other with
      | trigger => exact absurd rfl hne
      | _ => cases triggerTurn_cases h <;> exact hOther
  | fetch =>
      cases other with
      | fetch => exact absurd rfl hne
      | _ => cases fetchTurn_cases h <;> exact hOther
  | evaluate =>
      cases other with
      | evaluate => exact absurd rfl hne
      | _ => cases evaluateTurn_cases h <;> exact hOther
  | dispatch =>
      cases other with
      | dispatch => exact absurd rfl hne
      | _ => cases dispatchTurn_cases h <;> exact hOther

theorem cancelled_of_turn {p : Plan} {stage : Stage} {now : Nat} {visit : Http.Visit}
    {deliveries : String → List Delivery} {g after : Group} {notes : List Note}
    (h : g.turn p stage now visit deliveries = some (after, notes)) :
    after.cancelled = g.cancelled := by
  cases stage with
  | trigger => cases triggerTurn_cases h <;> rfl
  | fetch => cases fetchTurn_cases h <;> rfl
  | evaluate => cases evaluateTurn_cases h <;> rfl
  | dispatch => cases dispatchTurn_cases h <;> rfl

theorem isStopped_iff {g : Group} : g.isStopped = true ↔ ∀ stage, g.hasStopped stage = true := by
  constructor
  · intro h stage
    simp only [isStopped, Bool.and_eq_true] at h
    cases stage <;> simp [hasStopped, h]
  · intro h
    simp only [isStopped, Bool.and_eq_true]
    exact ⟨⟨⟨h .trigger, h .fetch⟩, h .evaluate⟩, h .dispatch⟩

/-- The group in which nothing is left. -/
def ended (cancelled : Bool) : Group where
  cancelled := cancelled
  trigger := .stopped
  fetch := .stopped
  evaluate := .stopped
  dispatch := .stopped

/-- Each stage that has stopped has the one in front of it stopped, and nothing in its queue. -/
structure Cascades (g : Group) : Prop where
  fetch : g.fetch.isStopped = true → g.trigger.isStopped = true ∧ g.toFetch = []
  evaluate : g.evaluate.isStopped = true → g.fetch.isStopped = true ∧ g.toEvaluate = []
  dispatch : g.dispatch.isStopped = true → g.evaluate.isStopped = true ∧ g.toDispatch = []

namespace Cascades
variable {g : Group} (hg : g.Cascades)
include hg

theorem fetch_runs (h : g.trigger.isStopped = false) : g.fetch.isStopped = false := by
  refine eq_false_of_ne_true fun hStopped => ?_
  simp [(hg.fetch hStopped).1] at h

theorem evaluate_runs (h : g.fetch.isStopped = false) : g.evaluate.isStopped = false := by
  refine eq_false_of_ne_true fun hStopped => ?_
  simp [(hg.evaluate hStopped).1] at h

theorem dispatch_runs (h : g.evaluate.isStopped = false) : g.dispatch.isStopped = false := by
  refine eq_false_of_ne_true fun hStopped => ?_
  simp [(hg.dispatch hStopped).1] at h

/-- No turn lets a stage stop before its time: the stage that takes it runs, hence all behind it
do, and it stops only when its queue is closed and empty. -/
theorem turn {p : Plan} {stage : Stage} {now : Nat} {visit : Http.Visit}
    {deliveries : String → List Delivery} {after : Group} {notes : List Note}
    (h : g.turn p stage now visit deliveries = some (after, notes)) : after.Cascades := by
  have hRuns := hasStopped_eq_false_of_turn h
  cases stage with
  | trigger =>
      have hFetch := hg.fetch_runs hRuns
      cases triggerTurn_cases h <;> exact ⟨by simp [hFetch], hg.evaluate, hg.dispatch⟩
  | fetch =>
      have hEvaluate := hg.evaluate_runs hRuns
      cases fetchTurn_cases h with
      | stop _ hQueue hClosed =>
          exact ⟨fun _ => ⟨hClosed, hQueue⟩, by simp [hEvaluate], hg.dispatch⟩
      | closed _ hStopped => simp [hEvaluate] at hStopped
      | _ => exact ⟨by simp [FetchState.isStopped], by simp [hEvaluate], hg.dispatch⟩
  | evaluate =>
      have hDispatch := hg.dispatch_runs hRuns
      cases evaluateTurn_cases h with
      | stop _ hQueue hClosed =>
          exact ⟨hg.fetch, fun _ => ⟨hClosed, hQueue⟩, by simp [hDispatch]⟩
      | closed _ hStopped => simp [hDispatch] at hStopped
      | _ => exact ⟨hg.fetch, by simp [EvaluateState.isStopped], by simp [hDispatch]⟩
  | dispatch =>
      have hDispatch : g.dispatch.isStopped = false := hRuns
      cases dispatchTurn_cases h with
      | stop _ hQueue hClosed => exact ⟨hg.fetch, hg.evaluate, fun _ => ⟨hClosed, hQueue⟩⟩
      | empty _ _ _ => exact ⟨hg.fetch, hg.evaluate, by simp [hDispatch]⟩
      | crash _ _ _ _ => exact ⟨hg.fetch, hg.evaluate, by simp [hDispatch]⟩
      | _ => exact ⟨hg.fetch, hg.evaluate, by simp [DispatchState.isStopped]⟩

/-- When all stages have stopped, nothing is left in the group. -/
theorem eq_ended (h : g.isStopped = true) : g = ended g.cancelled := by
  have hStages := isStopped_iff.1 h
  have hTrigger : g.trigger = .stopped := TriggerState.isStopped_iff.1 (hStages .trigger)
  have hFetch : g.fetch = .stopped := FetchState.isStopped_iff.1 (hStages .fetch)
  have hEvaluate : g.evaluate = .stopped := EvaluateState.isStopped_iff.1 (hStages .evaluate)
  have hDispatch : g.dispatch = .stopped := DispatchState.isStopped_iff.1 (hStages .dispatch)
  obtain ⟨-, hToFetch⟩ := hg.fetch (hStages .fetch)
  obtain ⟨-, hToEvaluate⟩ := hg.evaluate (hStages .evaluate)
  obtain ⟨-, hToDispatch⟩ := hg.dispatch (hStages .dispatch)
  obtain ⟨cancelled, trigger, toFetch, fetch, toEvaluate, evaluate, toDispatch, dispatch⟩ := g
  simp only at hTrigger hFetch hEvaluate hDispatch hToFetch hToEvaluate hToDispatch
  subst hTrigger hFetch hEvaluate hDispatch hToFetch hToEvaluate hToDispatch
  rfl

end Cascades

end Group

namespace Course

theorem Reachable.cascades {s : Setting} {c : Course} (h : Reachable s c) : c.group.Cascades := by
  induction h with
  | refl =>
      exact ⟨by simp [FetchState.isStopped], by simp [EvaluateState.isStopped],
        by simp [DispatchState.isStopped]⟩
  | tail _ hStep ih =>
      cases hStep with
      | turn _ _ _ hTurn => exact ih.turn hTurn
      | shutdown _ => exact ⟨ih.fetch, ih.evaluate, ih.dispatch⟩
      | join _ _ => exact ih

/-- The group is cancelled exactly when shutdown has been called. -/
theorem Reachable.cancelled_iff {s : Setting} {c : Course} (h : Reachable s c) :
    c.group.cancelled = true ↔ c.awaited.isSome = true := by
  induction h with
  | refl => decide
  | tail _ hStep ih =>
      cases hStep with
      | turn _ _ _ hTurn =>
          rw [take_group, take_awaited, Group.cancelled_of_turn hTurn]
          exact ih
      | shutdown _ => exact iff_of_true rfl rfl
      | join hAwaited _ =>
          rw [hAwaited] at ih
          exact iff_of_true (ih.2 rfl) rfl

theorem cancelled_of_leads {s : Setting} {c d : Course} (hCancelled : c.group.cancelled = true)
    (hLeads : Leads s c d) : d.group.cancelled = true := by
  induction hLeads with
  | refl => exact hCancelled
  | tail _ hStep ih =>
      cases hStep with
      | turn _ _ _ hTurn => exact (Group.cancelled_of_turn hTurn).trans ih
      | shutdown _ => rfl
      | join _ _ => exact ih

/-- The trigger stops only when the group is cancelled. -/
theorem Reachable.cancelled_of_stopped {s : Setting} {c : Course} (h : Reachable s c)
    (hStopped : c.group.trigger.isStopped = true) : c.group.cancelled = true := by
  induction h with
  | refl => simp [TriggerState.isStopped] at hStopped
  | tail hPrior hStep ih =>
      cases hStep with
      | @turn stage _ _ _ _ _ _ _ _ hTurn =>
          rw [take_group, Group.cancelled_of_turn hTurn]
          cases stage with
          | trigger =>
              have hRuns := Group.hasStopped_eq_false_of_turn hTurn
              cases Group.triggerTurn_cases hTurn with
              | abandon _ hCancelled => exact hCancelled
              | quit _ hCancelled => exact hCancelled
              | closed _ _ hClosed =>
                  simp [(Reachable.cascades hPrior).fetch_runs hRuns] at hClosed
              | _ => simp [TriggerState.isStopped] at hStopped
          | fetch => cases Group.fetchTurn_cases hTurn <;> exact ih hStopped
          | evaluate => cases Group.evaluateTurn_cases hTurn <;> exact ih hStopped
          | dispatch => cases Group.dispatchTurn_cases hTurn <;> exact ih hStopped
      | shutdown _ => rfl
      | join _ _ => exact ih hStopped

/-- Once all stages have stopped, shutdown sees one after the other and returns. -/
theorem leads_join {s : Setting} {c : Course} {stages : List Stage} (hAwaited : c.awaited = some stages)
    (hStopped : c.group.isStopped = true) : Leads s c (c.join []) := by
  induction stages generalizing c with
  | nil =>
      have hSame : c.join [] = c := by rw [join, ← hAwaited]
      rw [hSame]
  | cons stage rest ih =>
      have hStep : Step s c (c.join rest) := .join hAwaited (Group.isStopped_iff.1 hStopped stage)
      exact .head hStep (ih rfl hStopped)

/-- A stage that shutdown does not wait for any more has stopped. -/
def Joins (c : Course) : Prop :=
  ∀ stages, c.awaited = some stages → ∀ stage, stage ∈ stages ∨ c.group.hasStopped stage = true

theorem Reachable.joins {s : Setting} {c : Course} (h : Reachable s c) : c.Joins := by
  induction h with
  | refl => exact fun _ hAwaited => nomatch hAwaited
  | tail _ hStep ih =>
      cases hStep with
      | turn _ _ _ hTurn =>
          intro stages hAwaited stage
          exact (ih stages hAwaited stage).imp_right (Group.hasStopped_of_turn hTurn)
      | shutdown _ =>
          intro stages hAwaited stage
          cases hAwaited
          left
          cases stage <;> decide
      | @join stage rest hAwaited hStopped =>
          intro stages hRest other
          cases hRest
          rcases ih _ hAwaited other with hMem | hOther
          · rcases List.mem_cons.1 hMem with rfl | hMem
            · exact .inr hStopped
            · exact .inl hMem
          · exact .inr hOther

theorem Reachable.isStopped {s : Setting} {c : Course} (h : Reachable s c) (hReturned : c.HasReturned) :
    c.group.isStopped = true := by
  refine Group.isStopped_iff.2 fun stage => ?_
  rcases h.joins [] hReturned stage with hMem | hStopped
  · cases hMem
  · exact hStopped

/-- When shutdown returns, nothing is left in the group. -/
theorem Reachable.eq_ended {s : Setting} {c : Course} (h : Reachable s c) (hReturned : c.HasReturned) :
    c.group = Group.ended true := by
  have hCalled : c.awaited.isSome = true := by rw [hReturned, Option.isSome_some]
  have hCancelled : c.group.cancelled = true := h.cancelled_iff.2 hCalled
  rw [h.cascades.eq_ended (h.isStopped hReturned), hCancelled]

end Course

end Lookout.Pipeline
