import Lookout.Proofs.Pipeline.Ticking
/-!
When the cycles of a worker group start. The trigger waits for one interval after a cycle has been
accepted, so that each cycle starts an interval after the one before was accepted and none comes too
early. As long as fetches take no longer than that and sending takes no time, every cycle is accepted
and fetched at the instant at which it starts, and cycles never fall behind.
-/
namespace Lookout.Pipeline

/-! ### Turns of the trigger -/

/-- What a turn does to the trigger of a group that is not cancelled. -/
inductive Turn.Beats (p : Plan) (t : Turn) : Prop where
  | other (hTrigger : t.after.trigger = t.before.trigger) (hFired : t.fired = [])
      (hAccepted : t.accepted = [])
  | fires (n : Nat) (hBefore : t.before.trigger = .firing n) (hAfter : t.after.trigger = .offering n)
      (hFired : t.fired = [n]) (hAccepted : t.accepted = [])
  | accepts (n : Nat) (hBefore : t.before.trigger = .offering n)
      (hAfter : t.after.trigger = .resting (n + 1) (t.time + p.interval)) (hFired : t.fired = [])
      (hAccepted : t.accepted = [n])
  | rises (n due : Nat) (hBefore : t.before.trigger = .resting n due) (hDue : due ≤ t.time)
      (hAfter : t.after.trigger = .firing n) (hFired : t.fired = []) (hAccepted : t.accepted = [])

theorem Group.beats_of_turn {p : Plan} {stage : Stage} {now : Nat} {visit : Http.Visit}
    {deliveries : String → List Delivery} {g after : Group} {notes : List Note}
    (hOpen : g.cancelled = false) (hFetch : g.fetch.isStopped = false)
    (h : g.turn p stage now visit deliveries = some (after, notes)) :
    (Turn.mk stage now g after notes).Beats p := by
  have hOther (hTrigger : after.trigger = g.trigger) (hQueue : after.toFetch.length ≤ g.toFetch.length) :
      (Turn.mk stage now g after notes).Beats p :=
    .other hTrigger (Turn.fired_eq_nil hTrigger).1 (Turn.accepted_eq_nil hQueue)
  cases stage with
  | trigger =>
      cases triggerTurn_cases h with
      | @fire n hState =>
          exact .fires n hState rfl (by simp [Turn.fired, hState]) (Turn.accepted_eq_nil le_rfl)
      | @accept n hState _ _ _ =>
          exact .accepts n hState rfl (by simp [Turn.fired, hState]) (by simp [Turn.accepted])
      | @rise next due hState _ hDue =>
          exact .rises next due hState hDue rfl (by simp [Turn.fired, hState]) (Turn.accepted_eq_nil le_rfl)
      | closed _ _ hStopped => simp [hFetch] at hStopped
      | abandon _ hCancelled => simp [hOpen] at hCancelled
      | quit _ hCancelled => simp [hOpen] at hCancelled
  | fetch =>
      cases fetchTurn_cases h with
      | call _ hQueue => exact hOther rfl (by simp [hQueue])
      | _ => exact hOther rfl le_rfl
  | evaluate => cases evaluateTurn_cases h <;> exact hOther rfl le_rfl
  | dispatch => cases dispatchTurn_cases h <;> exact hOther rfl le_rfl

namespace Course
variable {s : Setting} {started : Nat} {c d : Course} {t : Turn} {n m time time' : Nat}

theorem OnClock.beats {stage : Stage} {visit : Http.Visit} {deliveries : String → List Delivery}
    {after : Group} {notes : List Note} (h : OnClock s started c)
    (hTurn : c.group.turn s.plan stage c.now visit deliveries = some (after, notes)) :
    (Turn.mk stage c.now c.group after notes).Beats s.plan :=
  Group.beats_of_turn h.cancelled (h.hasStopped_eq_false .fetch) hTurn

@[simp] theorem fired_take : (c.take t).fired = c.fired ++ t.fired := by
  simp [fired, take]

/-- What the trigger has started has been accepted, or is being handed on. -/
theorem OnClock.fired_eq (h : OnClock s started c) : c.fired = c.accepted ++ c.group.trigger.held := by
  induction h with
  | refl => rfl
  | tail hPrior hTick ih =>
      cases hTick with
      | turn _ _ hTurn =>
          rw [fired_take, accepted_take, take_group, ih]
          cases OnClock.beats hPrior hTurn with
          | other hTrigger hFired hAccepted => simp_all
          | fires n hBefore hAfter hFired hAccepted => simp_all
          | accepts n hBefore hAfter hFired hAccepted => simp_all
          | rises n due hBefore _ hAfter hFired hAccepted => simp_all
      | pass _ => exact ih

/-- The trigger starts the cycles in order, and each of them once. -/
theorem OnClock.fired_eq_range (h : OnClock s started c) : c.fired = List.range' 1 c.fired.length := by
  refine eq_range_of_prefix (n := c.accepted.length + 1) ?_
  rw [h.fired_eq, h.inOrder.accepted, List.length_range', List.range'_1_concat, Nat.add_comm 1]
  refine (List.prefix_append_right_inj _).2 ?_
  cases hState : c.group.trigger with
  | offering n =>
      rw [h.inOrder.next n (by rw [hState]; rfl)]
      exact List.prefix_rfl
  | _ => exact List.nil_prefix

theorem OnClock.time_le (h : OnClock s started c) : ∀ t ∈ c.turns, t.time ≤ c.now := by
  induction h with
  | refl => simp [startedAt]
  | tail _ hTick ih =>
      cases hTick with
      | turn _ _ _ =>
          intro t ht
          rcases List.mem_append.1 ht with hOld | hNew
          · exact ih t hOld
          · rw [List.mem_singleton.1 hNew]
            exact le_rfl
      | pass _ => exact fun t ht => Nat.le_succ_of_le (ih t ht)

theorem OnClock.le_now {what : Turn → List Nat} (h : OnClock s started c)
    (hTime : (n, time) ∈ c.timesOf what) : time ≤ c.now := by
  obtain ⟨t, ht, hn⟩ := List.mem_flatMap.1 hTime
  obtain ⟨_, _, hPair⟩ := List.mem_map.1 hn
  cases hPair
  exact h.time_le t ht

/-- The cycle that is handed on has been started. -/
theorem OnClock.exists_fired_of_offering (h : OnClock s started c)
    (hState : c.group.trigger = .offering n) : ∃ time ≤ c.now, (n, time) ∈ c.firedAt := by
  have hFired : n ∈ c.fired := by simp [h.fired_eq, hState]
  obtain ⟨time, hTime⟩ := mem_timesOf_of_mem hFired
  exact ⟨time, h.le_now hTime, hTime⟩

/-- The trigger has started all cycles that are accepted, and starts the next one. -/
theorem OnClock.fired_or_next (h : OnClock s started c) (hn : 0 < n)
    (hLe : n ≤ c.accepted.length + 1) :
    n ∈ c.fired ∨ c.group.trigger = .firing n ∨ ∃ due, c.group.trigger = .resting n due := by
  have hNext := h.inOrder.next
  rcases hLe.lt_or_eq with hLess | rfl
  · refine .inl (h.fired_eq ▸ List.mem_append_left _ ?_)
    rw [h.inOrder.accepted, List.mem_range'_1]
    omega
  · cases hState : c.group.trigger with
    | firing k =>
        rw [← hNext k (by rw [hState]; rfl)]
        exact .inr (.inl rfl)
    | offering k =>
        rw [← hNext k (by rw [hState]; rfl)]
        exact .inl (by simp [h.fired_eq, hState])
    | resting k due =>
        rw [← hNext k (by rw [hState]; rfl)]
        exact .inr (.inr ⟨due, rfl⟩)
    | stopped =>
        have hRuns : c.group.trigger.isStopped = false := h.hasStopped_eq_false .trigger
        simp [hState, TriggerState.isStopped] at hRuns

/-! ### An interval after the cycle before was accepted -/

/-- When a cycle is due: the first one at the start, and every other one an interval after the one
before it was accepted. -/
inductive Due (s : Setting) (started : Nat) (c : Course) : Nat → Nat → Prop where
  | first : Due s started c 1 started
  | next {n time : Nat} (hAccepted : (n, time) ∈ c.acceptedAt) :
      Due s started c (n + 1) (time + s.plan.interval)

theorem mem_acceptedAt_take : (n, time) ∈ (c.take t).acceptedAt ↔
    (n, time) ∈ c.acceptedAt ∨ n ∈ t.accepted ∧ time = t.time := mem_timesOf_take

theorem mem_firedAt_take : (n, time) ∈ (c.take t).firedAt ↔
    (n, time) ∈ c.firedAt ∨ n ∈ t.fired ∧ time = t.time := mem_timesOf_take

theorem Due.take (h : Due s started c n time) : Due s started (c.take t) n time := by
  cases h with
  | first => exact .first
  | next hAccepted => exact .next (mem_acceptedAt_take.2 (.inl hAccepted))

theorem OnClock.accepted_pos (h : OnClock s started c) (hn : n ∈ c.accepted) : 0 < n := by
  rw [h.inOrder.accepted, List.mem_range'_1] at hn
  exact hn.1

theorem OnClock.acceptedAt_unique (h : OnClock s started c) (hTime : (n, time) ∈ c.acceptedAt)
    (hTime' : (n, time') ∈ c.acceptedAt) : time = time' :=
  time_unique h.inOrder.accepted_nodup hTime hTime'

/-- No cycle is due at two times. -/
theorem Due.unique (h : OnClock s started c) (hDue : Due s started c n time)
    (hDue' : Due s started c n time') : time = time' := by
  cases hDue with
  | first =>
      cases hDue' with
      | first => rfl
      | next hAccepted => exact absurd (h.accepted_pos (mem_of_mem_timesOf hAccepted)) (lt_irrefl 0)
  | next hAccepted =>
      cases hDue' with
      | first => exact absurd (h.accepted_pos (mem_of_mem_timesOf hAccepted)) (lt_irrefl 0)
      | next hAccepted' => rw [h.acceptedAt_unique hAccepted hAccepted']

/-- The trigger starts cycles when they are due, and hands them on after that. -/
structure Punctual (s : Setting) (started : Nat) (c : Course) : Prop where
  fired : ∀ n time, (n, time) ∈ c.firedAt → Due s started c n time
  accepted : ∀ n time, (n, time) ∈ c.acceptedAt → ∃ fired ≤ time, (n, fired) ∈ c.firedAt
  firing : ∀ n, c.group.trigger = .firing n → Due s started c n c.now
  resting : ∀ n due, c.group.trigger = .resting n due → Due s started c n due ∧ c.now ≤ due

theorem Punctual.take (hc : c.Punctual s started) (h : OnClock s started c)
    (hBefore : t.before = c.group) (hTime : t.time = c.now) (hBeats : t.Beats s.plan) :
    (c.take t).Punctual s started where
  fired n time hFiredAt := by
    rcases mem_firedAt_take.1 hFiredAt with hOld | ⟨hNew, rfl⟩
    · exact (hc.fired n time hOld).take
    · cases hBeats with
      | fires m hState _ hFired _ =>
          rw [hFired, List.mem_singleton] at hNew
          subst hNew
          exact hTime ▸ (hc.firing n (hBefore ▸ hState)).take
      | _ => simp_all
  accepted n time hAcceptedAt := by
    rcases mem_acceptedAt_take.1 hAcceptedAt with hOld | ⟨hNew, rfl⟩
    · obtain ⟨fired, hLe, hFiredAt⟩ := hc.accepted n time hOld
      exact ⟨fired, hLe, mem_firedAt_take.2 (.inl hFiredAt)⟩
    · cases hBeats with
      | accepts m hState _ _ hAccepted =>
          rw [hAccepted, List.mem_singleton] at hNew
          subst hNew
          obtain ⟨fired, hLe, hFiredAt⟩ := h.exists_fired_of_offering (hBefore ▸ hState)
          exact ⟨fired, hTime ▸ hLe, mem_firedAt_take.2 (.inl hFiredAt)⟩
      | _ => simp_all
  firing n hFiring := by
    have hNow : (c.take t).now = c.now := hTime
    rw [take_group] at hFiring
    rw [hNow]
    cases hBeats with
    | other hTrigger _ _ => exact (hc.firing n (hBefore ▸ hTrigger ▸ hFiring)).take
    | rises m due hState hDue hAfter _ _ =>
        rw [hAfter] at hFiring
        cases hFiring
        obtain ⟨hOwn, hLe⟩ := hc.resting n due (hBefore ▸ hState)
        exact (hLe.antisymm (hTime ▸ hDue)) ▸ hOwn.take
    | _ => simp_all
  resting n due hResting := by
    have hNow : (c.take t).now = c.now := hTime
    rw [take_group] at hResting
    rw [hNow]
    cases hBeats with
    | other hTrigger _ _ =>
        obtain ⟨hOwn, hLe⟩ := hc.resting n due (hBefore ▸ hTrigger ▸ hResting)
        exact ⟨hOwn.take, hLe⟩
    | accepts m hState hAfter _ hAccepted =>
        rw [hAfter] at hResting
        cases hResting
        refine ⟨.next (mem_acceptedAt_take.2 (.inr ⟨by simp [hAccepted], rfl⟩)), ?_⟩
        rw [hTime]
        exact Nat.le_add_right _ _
    | _ => simp_all

/-- Time does not pass a cycle that is due. -/
theorem Punctual.pass (hc : c.Punctual s started) (hRest : c.group.AtRest c.now) :
    Punctual s started { c with now := c.now + 1 } where
  fired n time hFiredAt := by
    cases hc.fired n time hFiredAt with
    | first => exact .first
    | next hAccepted => exact .next hAccepted
  accepted := hc.accepted
  firing n hFiring := absurd hFiring hRest.not_firing
  resting n due hResting := by
    refine ⟨?_, hRest.lt_of_resting hResting⟩
    cases (hc.resting n due hResting).1 with
    | first => exact .first
    | next hAccepted => exact .next hAccepted

theorem OnClock.punctual (h : OnClock s started c) : c.Punctual s started := by
  induction h with
  | refl =>
      refine ⟨?_, ?_, ?_, ?_⟩
      · simp [firedAt, timesOf, startedAt]
      · simp [acceptedAt, timesOf, startedAt]
      · intro n hFiring
        cases hFiring
        exact .first
      · intro n due hResting
        cases hResting
  | tail hPrior hTick ih =>
      cases hTick with
      | turn _ _ hTurn => exact ih.take hPrior rfl rfl (OnClock.beats hPrior hTurn)
      | pass hRest => exact ih.pass hRest

/-- What is due by an instant that is over has been started. -/
theorem OnClock.fired_of_due (h : OnClock s started c) (hDue : Due s started c n time)
    (hOver : c.Over time) : (n, time) ∈ c.firedAt := by
  have hc := h.punctual
  have hBound : 0 < n ∧ n ≤ c.accepted.length + 1 := by
    cases hDue with
    | first => omega
    | next hAccepted =>
        have hMem := mem_of_mem_timesOf hAccepted
        rw [← accepted, h.inOrder.accepted, List.mem_range'_1] at hMem
        omega
  rcases h.fired_or_next hBound.1 hBound.2 with hFired | hFiring | ⟨due, hResting⟩
  · obtain ⟨fired, hFiredAt⟩ := mem_timesOf_of_mem hFired
    exact (hc.fired n fired hFiredAt).unique h hDue ▸ hFiredAt
  -- Otherwise the trigger is still to start it, which it would have done before the instant was over.
  · have hNow := (hc.firing n hFiring).unique h hDue
    rcases hOver with hLater | ⟨_, hRest⟩
    · omega
    · exact absurd hFiring hRest.not_firing
  · obtain ⟨hOwn, hLe⟩ := hc.resting n due hResting
    have hNow := hOwn.unique h hDue
    rcases hOver with hLater | ⟨_, hRest⟩
    · omega
    · have hLater := hRest.lt_of_resting hResting
      omega

end Course

end Lookout.Pipeline
