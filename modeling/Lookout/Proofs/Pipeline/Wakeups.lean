import Lookout.Proofs.Pipeline.Rest
import Mathlib.Data.List.Nodup
/-!
Who can go on after a turn. A turn changes the stage that takes it and the queues beside it, so that
only the stages beside it can go on because of it; and a stage that waits for a time goes on by itself
only when one of the times has come. A schedule that wakes the stages beside a stage, and sets a timer
for each wait, therefore forgets no stage.
-/
namespace Lookout.Pipeline

/-! ### Stages of a group -/

/-- A call that is polled keeps its time or has none any more. -/
theorem Call.Polled.due {now : Nat} {call done : Call} (h : call.Polled now done) :
    done.due? = call.due? ∨ done.due? = none := by
  cases h with
  | waits _ => exact .inl rfl
  | _ => exact .inr rfl

theorem due_of_pollCalls {now due : Nat} {calls done : List Call} (h : pollCalls now calls = .ok done)
    (hDue : due ∈ done.filterMap Call.due?) : due ∈ calls.filterMap Call.due? := by
  have hPolls := polled_of_pollCalls h
  clear h
  induction hPolls with
  | nil => exact hDue
  | cons hFirst _ ih =>
      simp only [List.mem_filterMap, List.mem_cons, exists_eq_or_imp] at hDue ih ⊢
      rcases hDue with hNow | hRest
      · rcases hFirst.due with hSame | hNone
        · exact .inl (hSame ▸ hNow)
        · cases hNone.symm.trans hNow
      · exact .inr (ih hRest)

/-- A call is due once its time has come. -/
theorem Call.due_of_isDue {now later : Nat} {call : Call} (hLater : call.isDue later = true)
    (hNow : call.isDue now = false) : ∃ due, call.due? = some due ∧ now < due ∧ due ≤ later := by
  cases call with
  | waiting due ending =>
      cases due with
      | none => cases hLater
      | some due =>
          simp only [isDue, Option.any_some, decide_eq_true_eq, decide_eq_false_iff_not,
            Nat.not_le] at hLater hNow
          exact ⟨due, rfl, hNow, hLater⟩
  | succeeded => cases hLater
  | failed chain => cases hLater

namespace Group
variable {p : Plan} {stage other : Stage} {now later due : Nat} {visit : Http.Visit}
  {deliveries : String → List Delivery} {g after : Group} {notes : List Note}

/-- A turn is no matter for a stage that is not beside its own. -/
theorem canTurn_of_far (h : g.turn p stage now visit deliveries = some (after, notes))
    (hOther : other ≠ stage) (hFar : other ∉ Schedule.neighbours stage) :
    after.canTurn other later = g.canTurn other later := by
  cases stage with
  | trigger => cases triggerTurn_cases h <;> cases other <;> simp_all [Schedule.neighbours, canTurn]
  | fetch => cases fetchTurn_cases h <;> cases other <;> simp_all [Schedule.neighbours, canTurn]
  | evaluate => cases evaluateTurn_cases h <;> cases other <;> simp_all [Schedule.neighbours, canTurn]
  | dispatch => cases dispatchTurn_cases h <;> cases other <;> simp_all [Schedule.neighbours, canTurn]

/-- The other stages wait for what they waited for. -/
theorem dues_of_other (h : g.turn p stage now visit deliveries = some (after, notes))
    (hOther : other ≠ stage) : after.dues other = g.dues other := by
  cases stage with
  | trigger => cases triggerTurn_cases h <;> cases other <;> first | rfl | exact absurd rfl hOther
  | fetch => cases fetchTurn_cases h <;> cases other <;> first | rfl | exact absurd rfl hOther
  | evaluate => cases evaluateTurn_cases h <;> cases other <;> rfl
  | dispatch => cases dispatchTurn_cases h <;> cases other <;> first | rfl | exact absurd rfl hOther

/-- A stage begins to wait for a time only when it waits for none. -/
theorem dues_of_turn (h : g.turn p stage now visit deliveries = some (after, notes))
    (hDue : due ∈ after.dues stage) : due ∈ g.dues stage ∨ g.dues stage = [] := by
  cases stage with
  | trigger =>
      cases triggerTurn_cases h with
      | accept hState _ _ _ => exact .inr (by simp [dues, hState])
      | _ => simp [dues] at hDue
  | fetch =>
      cases fetchTurn_cases h with
      | call hState _ => exact .inr (by simp [dues, hState])
      | _ => simp [dues] at hDue
  | evaluate => exact .inr rfl
  | dispatch =>
      cases dispatchTurn_cases h with
      | poll hState _ hPoll =>
          simp only [dues, hState] at hDue ⊢
          exact .inl (due_of_pollCalls hPoll hDue)
      | send hState _ _ _ => exact .inr (by simp [dues, hState])
      | crash hState _ _ _ => exact .inr (by simp [dues, hState])
      | empty hState _ _ => exact .inr (by simp [dues, hState])
      | _ => simp [dues] at hDue

/-- As time passes, a stage can go on only because a time has come that it waits for. -/
theorem canTurn_of_later (now : Nat) (h : g.canTurn stage later = true) :
    g.canTurn stage now = true ∨ ∃ due ∈ g.dues stage, now < due ∧ due ≤ later := by
  by_cases hNow : g.canTurn stage now = true
  · exact .inl hNow
  right
  -- Only the three states that wait for a time look at the clock.
  cases stage with
  | trigger =>
      cases hState : g.trigger with
      | resting next due =>
          simp only [canTurn, hState, Bool.or_eq_true, decide_eq_true_eq, not_or, Nat.not_le] at h hNow
          exact ⟨due, by simp [dues, hState], hNow.2, h.resolve_left hNow.1⟩
      | _ =>
          refine absurd ?_ hNow
          rw [← h]
          simp only [canTurn, hState]
  | fetch =>
      cases hState : g.fetch with
      | fetching seq due cancellable ending =>
          simp only [canTurn, hState, Bool.or_eq_true, not_or] at h hNow
          cases due with
          | none => exact absurd (h.resolve_left hNow.1) (by simp)
          | some due =>
              simp only [Option.any_some, decide_eq_true_eq, Nat.not_le] at h hNow
              exact ⟨due, by simp [dues, hState], hNow.2, h.resolve_left hNow.1⟩
      | _ =>
          refine absurd ?_ hNow
          rw [← h]
          simp only [canTurn, hState]
  | evaluate => exact absurd h hNow
  | dispatch =>
      cases hState : g.dispatch with
      | sending seq calls =>
          simp only [canTurn, hState, Bool.or_eq_true, not_or] at h hNow
          obtain ⟨call, hCall, hDue⟩ := List.any_eq_true.1 (h.resolve_left hNow.1)
          have hStill : call.isDue now = false := by
            simpa using List.any_eq_false.1 (eq_false_of_ne_true hNow.2) call hCall
          obtain ⟨due, hWaits, hLater, hTime⟩ := Call.due_of_isDue hDue hStill
          refine ⟨due, ?_, hLater, hTime⟩
          simp only [dues, hState]
          exact List.mem_filterMap.2 ⟨call, hCall, hWaits⟩
      | _ =>
          refine absurd ?_ hNow
          rw [← h]
          simp only [canTurn, hState]

end Group

/-! ### The queue and the timers -/

namespace Schedule
variable {s : Schedule} {i : Nat} {g : Group} {t : Task}

/-- What it means for the queue to have grown by tasks of a worker. -/
structure Woken (now i : Nat) (g : Group) (stages : List Stage) (before after : List Task) : Prop where
  keeps : ∀ t ∈ before, t ∈ after
  wakes : ∀ stage ∈ stages, g.canTurn stage now = true → ⟨i, stage⟩ ∈ after
  only : ∀ t ∈ after, t ∈ before ∨ t.worker = i
  nodup : before.Nodup → after.Nodup
  length : after.length ≤ before.length + stages.length

theorem enqueue_spec (s : Schedule) (t : Task) :
    ∃ queue, s.enqueue t = { s with queue := queue } ∧ (∀ u, u ∈ queue ↔ u ∈ s.queue ∨ u = t) ∧
      (s.queue.Nodup → queue.Nodup) ∧ queue.length ≤ s.queue.length + 1 := by
  unfold enqueue
  split_ifs with hThere
  · have hMem : t ∈ s.queue := by simpa using hThere
    refine ⟨s.queue, rfl, fun u => ⟨.inl, ?_⟩, id, Nat.le_succ _⟩
    rintro (hu | rfl)
    · exact hu
    · exact hMem
  · have hMem : t ∉ s.queue := by simpa using hThere
    refine ⟨s.queue ++ [t], rfl, fun u => by simp, fun hNodup => ?_, by simp⟩
    exact List.nodup_append.2 ⟨hNodup, List.nodup_singleton t, by
      rintro u hu v hv rfl
      exact hMem (List.mem_singleton.1 hv ▸ hu)⟩

theorem Woken.refl (now i : Nat) (g : Group) (queue : List Task) : Woken now i g [] queue queue :=
  ⟨fun _ ht => ht, fun _ h => absurd h List.not_mem_nil, fun _ => .inl, id, Nat.le_refl _⟩

theorem Woken.append {now : Nat} {stages rest : List Stage} {before mid after : List Task}
    (h : Woken now i g stages before mid) (h' : Woken now i g rest mid after) :
    Woken now i g (stages ++ rest) before after := by
  refine ⟨fun t ht => h'.keeps t (h.keeps t ht), fun stage hStage hCan => ?_, fun t ht => ?_,
    fun hNodup => h'.nodup (h.nodup hNodup), ?_⟩
  · rcases List.mem_append.1 hStage with hFirst | hRest
    · exact h'.keeps _ (h.wakes stage hFirst hCan)
    · exact h'.wakes stage hRest hCan
  · rcases h'.only t ht with hMid | hOwn
    · exact h.only t hMid
    · exact .inr hOwn
  · have hFirst := h.length
    have hRest := h'.length
    rw [List.length_append]
    omega

theorem woken_wake (hGroup : s.group? i = some g) (stage : Stage) :
    ∃ queue, s.wake ⟨i, stage⟩ = { s with queue := queue } ∧ Woken s.now i g [stage] s.queue queue := by
  unfold wake
  simp only [hGroup]
  split_ifs with hCan
  · obtain ⟨queue, hQueue, hMem, hNodup, hLength⟩ := enqueue_spec s ⟨i, stage⟩
    refine ⟨queue, hQueue, fun t ht => (hMem t).2 (.inl ht), fun other hOther _ => ?_, fun t ht => ?_,
      hNodup, hLength⟩
    · rw [List.mem_singleton.1 hOther]
      exact (hMem _).2 (.inr rfl)
    · rcases (hMem t).1 ht with hOld | rfl
      · exact .inl hOld
      · exact .inr rfl
  · refine ⟨s.queue, rfl, fun _ ht => ht, fun other hOther hCan' => ?_, fun _ => .inl, id, Nat.le_succ _⟩
    rw [List.mem_singleton.1 hOther] at hCan'
    exact absurd hCan' hCan

theorem foldl_wake (hGroup : s.group? i = some g) (stages : List Stage) :
    ∃ queue, stages.foldl (fun s stage => s.wake ⟨i, stage⟩) s = { s with queue := queue } ∧
      Woken s.now i g stages s.queue queue := by
  induction stages generalizing s with
  | nil => exact ⟨s.queue, rfl, .refl _ _ _ _⟩
  | cons stage stages ih =>
      obtain ⟨first, hFirst, hWoken⟩ := woken_wake hGroup stage
      obtain ⟨queue, hRest, hMore⟩ := ih (s := { s with queue := first }) hGroup
      exact ⟨queue, by rw [List.foldl_cons, hFirst, hRest], hWoken.append hMore⟩

/-- A timer of another stage stays. -/
theorem mem_retime_of_ne {timer : Nat × Task} (h : timer ∈ s.timers) (hne : timer.2 ≠ t)
    (before after : List Nat) : timer ∈ (s.retime t before after).timers := by
  unfold retime
  split_ifs
  · exact List.mem_append_left _ h
  · exact List.mem_filter.2 ⟨h, by simpa using hne⟩
  · exact h

/-- A stage that still waits, or begins to wait, for a time has a timer for it. -/
theorem mem_retime {due : Nat} {before after : List Nat} (hDue : due ∈ after) (hLater : s.now < due)
    (hBefore : due ∈ before → (due, t) ∈ s.timers) (hWaits : due ∈ before ∨ before = []) :
    (due, t) ∈ (s.retime t before after).timers := by
  unfold retime
  split_ifs with hNone hOver
  · refine List.mem_append_right _ (List.mem_map.2 ⟨due, List.mem_filter.2 ⟨hDue, ?_⟩, rfl⟩)
    simpa using hLater
  · simp [List.isEmpty_iff.1 hOver] at hDue
  · refine hBefore (hWaits.resolve_right fun hEmpty => hNone ?_)
    rw [hEmpty]
    rfl

theorem worker_of_mem_retime {timer : Nat × Task} {before after : List Nat}
    (h : timer ∈ (s.retime t before after).timers) : timer ∈ s.timers ∨ timer.2 = t := by
  unfold retime at h
  split_ifs at h
  · rcases List.mem_append.1 h with hOld | hNew
    · exact .inl hOld
    · obtain ⟨due, _, rfl⟩ := List.mem_map.1 hNew
      exact .inr rfl
  · exact .inl (List.mem_filter.1 h).1
  · exact .inl h

end Schedule

end Lookout.Pipeline
