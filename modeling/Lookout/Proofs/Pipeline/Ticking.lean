import Lookout.Proofs.Pipeline.Backlog
import Lookout.Proofs.Pipeline.Interleaving
/-!
Courses on the clock, until shutdown is called. What a group does takes no time, in whichever order
its stages take turns, and time passes only when none of them can do anything. Every course can go on
in this way to any later time, and the groups of a schedule are on such courses.
-/
namespace Lookout.Pipeline

/-- Whether no stage of a group can do anything at a time. -/
def Group.AtRest (now : Nat) (g : Group) : Prop := ∀ stage, g.canTurn stage now = false

theorem Group.AtRest.not_firing {now n : Nat} {g : Group} (h : g.AtRest now) : g.trigger ≠ .firing n := by
  intro hFiring
  have hStill := h .trigger
  simp [canTurn, hFiring] at hStill

theorem Group.AtRest.lt_of_resting {now n due : Nat} {g : Group} (h : g.AtRest now)
    (hResting : g.trigger = .resting n due) : now < due := by
  have hStill := h .trigger
  simp only [canTurn, hResting, Bool.or_eq_false_iff, decide_eq_false_iff_not, not_le] at hStill
  exact hStill.2

/-- The cycles that the crawler is called for in a turn. -/
def Turn.visited (t : Turn) : List Nat := t.notes.filterMap Note.visited?

namespace Course

/-- A course at its beginning, when its group is started at a time. -/
def startedAt (started : Nat) : Course := { now := started }

/-- A stage takes a turn at once, or time passes because no stage can. -/
inductive Tick (s : Setting) : Course → Course → Prop where
  | turn {c : Course} {stage : Stage} {visit : Http.Visit} {deliveries : String → List Delivery}
      {after : Group} {notes : List Note} (hVisit : s.mayVisit visit)
      (hDeliveries : s.Allows deliveries)
      (hTurn : c.group.turn s.plan stage c.now visit deliveries = some (after, notes)) :
      Tick s c (c.take ⟨stage, c.now, c.group, after, notes⟩)
  | pass {c : Course} (hRest : c.group.AtRest c.now) : Tick s c { c with now := c.now + 1 }

/-- The courses on the clock of a group that is started at a time. -/
def OnClock (s : Setting) (started : Nat) (c : Course) : Prop :=
  Relation.ReflTransGen (Tick s) (startedAt started) c

/-- Whether an instant is over: time has passed since, or nothing more can be done at it. -/
def Over (c : Course) (time : Nat) : Prop := time < c.now ∨ time = c.now ∧ c.group.AtRest c.now

/-! ### When something happened -/

/-- The cycles that something happens to in the turns, each with the time of its turn. -/
def timesOf (what : Turn → List Nat) (c : Course) : List (Nat × Nat) :=
  c.turns.flatMap fun t => (what t).map fun n => (n, t.time)

/-- The cycles that the trigger has started. -/
def firedAt (c : Course) : List (Nat × Nat) := c.timesOf Turn.fired

/-- The cycles that have been accepted into the fetch queue. -/
def acceptedAt (c : Course) : List (Nat × Nat) := c.timesOf Turn.accepted

/-- The cycles that the crawler has been called for. -/
def visitedAt (c : Course) : List (Nat × Nat) := c.timesOf Turn.visited

/-- All that has been told of a group that was started at a time. -/
def seen (started : Nat) (c : Course) : List (Nat × Note) :=
  (started, .notice .started) :: c.turns.flatMap fun t => t.notes.map fun n => (t.time, n)

section Times
variable {what : Turn → List Nat} {c : Course} {t : Turn} {n time time' : Nat}

theorem mem_timesOf_take :
    (n, time) ∈ (c.take t).timesOf what ↔ (n, time) ∈ c.timesOf what ∨ n ∈ what t ∧ time = t.time := by
  simp [timesOf, take, eq_comm]

theorem mem_timesOf_of_mem (h : n ∈ c.turns.flatMap what) : ∃ time, (n, time) ∈ c.timesOf what := by
  obtain ⟨t, ht, hn⟩ := List.mem_flatMap.1 h
  exact ⟨t.time, List.mem_flatMap.2 ⟨t, ht, List.mem_map_of_mem hn⟩⟩

theorem map_fst_timesOf : (c.timesOf what).map Prod.fst = c.turns.flatMap what := by
  simp [timesOf, List.map_flatMap, Function.comp_def]

theorem mem_of_mem_timesOf (h : (n, time) ∈ c.timesOf what) : n ∈ c.turns.flatMap what := by
  rw [← map_fst_timesOf]
  exact List.mem_map_of_mem h

/-- What happens to no cycle twice has one time for each cycle. -/
theorem time_unique (hNodup : (c.turns.flatMap what).Nodup) (h : (n, time) ∈ c.timesOf what)
    (h' : (n, time') ∈ c.timesOf what) : time = time' := by
  rw [← map_fst_timesOf] at hNodup
  exact congrArg Prod.snd (List.inj_on_of_nodup_map hNodup h h' rfl)

end Times

/-! ### Courses on the clock are courses -/

variable {s : Setting} {started : Nat} {c d : Course}

theorem OnClock.tick (h : OnClock s started c) (hTick : Tick s c d) : OnClock s started d :=
  Relation.ReflTransGen.tail h hTick

/-- Time apart, a course on the clock is one that the group can take. -/
theorem OnClock.exists_reachable (h : OnClock s started c) :
    ∃ last ≤ c.now, Reachable s { c with now := last } := by
  induction h with
  | refl => exact ⟨0, Nat.zero_le _, .refl⟩
  | tail _ hTick ih =>
      obtain ⟨last, hLast, hReachable⟩ := ih
      cases hTick with
      | turn hVisit hDeliveries hTurn =>
          exact ⟨_, Nat.le_refl _, hReachable.step (.turn hLast hVisit hDeliveries hTurn)⟩
      | pass _ => exact ⟨last, Nat.le_succ_of_le hLast, hReachable⟩

theorem OnClock.cascades (h : OnClock s started c) : c.group.Cascades := by
  obtain ⟨_, _, hReachable⟩ := h.exists_reachable
  exact hReachable.cascades

theorem OnClock.inOrder (h : OnClock s started c) : c.InOrder := by
  obtain ⟨_, _, hReachable⟩ := h.exists_reachable
  have hOrder := hReachable.inOrder
  exact ⟨hOrder.next, hOrder.accepted, hOrder.conserved, hOrder.sublist, hOrder.visited⟩

theorem OnClock.cancelled (h : OnClock s started c) : c.group.cancelled = false := by
  induction h with
  | refl => rfl
  | tail _ hTick ih =>
      cases hTick with
      | turn _ _ hTurn => exact (Group.cancelled_of_turn hTurn).trans ih
      | pass _ => exact ih

/-- Until shutdown is called all stages run. -/
theorem OnClock.hasStopped_eq_false (h : OnClock s started c) (stage : Stage) :
    c.group.hasStopped stage = false := by
  obtain ⟨_, _, hReachable⟩ := h.exists_reachable
  have hTrigger : c.group.trigger.isStopped = false := by
    refine eq_false_of_ne_true fun hStopped => ?_
    have hCancelled : c.group.cancelled = true := hReachable.cancelled_of_stopped hStopped
    simp [h.cancelled] at hCancelled
  have hFetch := h.cascades.fetch_runs hTrigger
  have hEvaluate := h.cascades.evaluate_runs hFetch
  cases stage with
  | trigger => exact hTrigger
  | fetch => exact hFetch
  | evaluate => exact hEvaluate
  | dispatch => exact h.cascades.dispatch_runs hEvaluate

/-! ### Courses go on -/

/-- The course after a turn of the first stage that can take one, or after time has passed. -/
def onward (p : Plan) (visit : Http.Visit) (deliveries : String → List Delivery) (c : Course) : Course :=
  let turns := Stage.inOrder.findSome? fun stage =>
    (c.group.turn p stage c.now visit deliveries).map fun (after, notes) =>
      c.take ⟨stage, c.now, c.group, after, notes⟩
  turns.getD { c with now := c.now + 1 }

theorem tick_onward {visit : Http.Visit} {deliveries : String → List Delivery} (hVisit : s.mayVisit visit)
    (hDeliveries : s.Allows deliveries) (c : Course) : Tick s c (c.onward s.plan visit deliveries) := by
  unfold onward
  cases hTurns : Stage.inOrder.findSome? fun stage =>
      (c.group.turn s.plan stage c.now visit deliveries).map fun (after, notes) =>
        c.take ⟨stage, c.now, c.group, after, notes⟩ with
  | some d =>
      obtain ⟨stage, _, hStage⟩ := List.exists_of_findSome?_eq_some hTurns
      obtain ⟨⟨after, notes⟩, hTurn, rfl⟩ := Option.map_eq_some_iff.1 hStage
      exact .turn hVisit hDeliveries hTurn
  | none =>
      refine .pass fun stage => ?_
      have hNone := List.findSome?_eq_none_iff.1 hTurns stage (by cases stage <;> decide)
      rw [Group.canTurn_eq_isSome s.plan stage c.now visit deliveries, Option.map_eq_none_iff.1 hNone]
      rfl

theorem onClock_iterate_onward {visit : Http.Visit} {deliveries : String → List Delivery}
    (hVisit : s.mayVisit visit) (hDeliveries : s.Allows deliveries) (started turns : Nat) :
    OnClock s started ((onward s.plan visit deliveries)^[turns] (startedAt started)) := by
  induction turns with
  | zero => exact .refl
  | succ turns ih =>
      rw [Function.iterate_succ_apply']
      exact ih.tick (tick_onward hVisit hDeliveries _)

/-- A group that is not at rest can take a turn, and each turn leaves fewer of them at its instant. -/
theorem exists_turn (hInterval : 0 < s.plan.interval) (hBusy : ¬ c.group.AtRest c.now) :
    ∃ d, Tick s c d ∧ d.now = c.now ∧ d.group.unrest d.now < c.group.unrest c.now := by
  obtain ⟨visit, hVisit⟩ := s.exists_visit
  obtain ⟨deliveries, hAllows⟩ := s.exists_allows
  simp only [Group.AtRest, not_forall, Bool.not_eq_false] at hBusy
  obtain ⟨stage, hCan⟩ := hBusy
  rw [Group.canTurn_eq_isSome s.plan stage c.now visit deliveries, Option.isSome_iff_exists] at hCan
  obtain ⟨⟨after, notes⟩, hTurn⟩ := hCan
  exact ⟨_, .turn hVisit hAllows hTurn, rfl, Group.unrest_of_turn hInterval hTurn⟩

/-- Every course comes to rest at its instant. -/
theorem exists_rest (hInterval : 0 < s.plan.interval) (c : Course) :
    ∃ d, Relation.ReflTransGen (Tick s) c d ∧ d.now = c.now ∧ d.group.AtRest d.now := by
  -- No turn leads back: each one lowers the unrest of the group.
  induction hUnrest : c.group.unrest c.now using Nat.strong_induction_on generalizing c with
  | h unrest ih =>
      by_cases hRest : c.group.AtRest c.now
      · exact ⟨c, .refl, rfl, hRest⟩
      · obtain ⟨mid, hTick, hNow, hLess⟩ := exists_turn hInterval hRest
        obtain ⟨d, hSteps, hThen, hAfter⟩ := ih _ (hUnrest ▸ hLess) mid rfl
        exact ⟨d, .head hTick hSteps, hThen.trans hNow, hAfter⟩

/-- Every course can go on to any later time. -/
theorem exists_later (hInterval : 0 < s.plan.interval) (c : Course) (later : Nat) :
    ∃ d, Relation.ReflTransGen (Tick s) c d ∧ d.now = c.now + later ∧ d.group.AtRest d.now := by
  induction later with
  | zero => exact exists_rest hInterval c
  | succ later ih =>
      obtain ⟨mid, hSteps, hNow, hRest⟩ := ih
      obtain ⟨d, hMore, hThen, hAfter⟩ := exists_rest hInterval { mid with now := mid.now + 1 }
      refine ⟨d, (hSteps.tail (.pass hRest)).trans hMore, ?_, hAfter⟩
      rw [hThen, hNow, Nat.add_assoc]

end Course

/-! ### Schedules -/

/-- Whether what is seen of a worker is what is told on a course on the clock. -/
def Worker.Ticks (w : World) (now : Nat) (seen : List (Nat × Note)) (own : Worker) : Prop :=
  match own.phase with
  | .ready => seen = []
  | .running g => ∃ started c, Course.OnClock (w.setting own.plan) started c ∧ c.group = g ∧
      c.now = now ∧ c.seen started = seen
  | .ended => False

namespace Schedule
variable {w : World} {s after : Schedule}

/-- Whether every worker is on a course on the clock. -/
def Ticks (w : World) (s : Schedule) : Prop :=
  ∀ i (own : Worker), s.workers[i]? = some own → own.Ticks w s.now (s.seenOf i)

theorem Ticks.turn {t : Task} (h : s.Ticks w) (hTurn : s.takeTurn w t = some after) : after.Ticks w := by
  obtain ⟨i, stage⟩ := t
  obtain ⟨p, g, next, told, hWorker, hGroup, hTakes⟩ := turn_of_takeTurn hTurn
  have hAll := hTakes.forall_worker (P := fun own seen => own.Ticks w s.now seen) hWorker h ?_
  · rw [← hTakes.now] at hAll
    exact hAll
  · obtain ⟨started, c, hClock, rfl, hNow, hSeen⟩ := h i _ hWorker
    rw [← hNow] at hGroup
    refine ⟨started, _, hClock.tick (.turn ⟨_, rfl⟩ (allows_nextDeliveries w s p _) hGroup), rfl, hNow, ?_⟩
    rw [← hSeen, ← hNow]
    simp [Course.seen, Course.take]

theorem Ticks.pass (h : s.Ticks w) (hRest : s.AtRest) : Ticks w { s with now := s.now + 1 } := by
  rintro i ⟨p, phase⟩ hi
  have hOwn := h i _ hi
  cases phase with
  | ready => exact hOwn
  | running g =>
      obtain ⟨started, c, hClock, rfl, hNow, hSeen⟩ := hOwn
      have hStill : c.group.AtRest c.now := hNow ▸ hRest _ (List.mem_of_getElem? hi) _ rfl
      exact ⟨started, _, hClock.tick (.pass hStill), rfl, congrArg Nat.succ hNow, hSeen⟩
  | ended => exact hOwn

theorem Ticks.start (h : s.Ticks w) : s.start.Ticks w := by
  intro i own hi
  obtain ⟨v, hBefore, hNow, rfl, hSeen⟩ := exists_of_view (view_start s) hi
  obtain ⟨⟨p, phase⟩, hWorker, rfl⟩ := Option.map_eq_some_iff.1 hBefore
  have hOwn := h i _ hWorker
  rw [← hNow, ← hSeen]
  cases phase with
  | ready =>
      have hSilent : s.seenOf i = [] := hOwn
      simp only [View.start, hSilent]
      exact ⟨s.now, _, .refl, rfl, rfl, rfl⟩
  | running g => exact hOwn
  | ended => exact hOwn.elim

theorem ticks_ofPlans (w : World) (plans : List Plan) : (ofPlans plans).Ticks w := by
  intro i own hi
  obtain ⟨p, rfl⟩ := eq_ready_of_ofPlans hi
  rfl

theorem Ticks.steps (h : s.Ticks w) (hSteps : Relation.ReflTransGen (Step w .patient) s after) :
    after.Ticks w := by
  induction hSteps with
  | refl => exact h
  | tail _ hStep ih =>
      cases hStep with
      | turn hTurn => exact ih.turn hTurn
      | pass hRest => exact ih.pass (hRest rfl)

theorem Ticks.runs {commands : List Command} (h : s.Ticks w)
    (hRuns : (motion w .patient).Runs commands s after) : after.Ticks w := by
  induction hRuns with
  | nil => exact h
  | cons hFirst _ ih =>
      cases hFirst with
      | run => exact ih h.start
      | advance hSteps _ => exact ih (h.steps hSteps)

/-- However groups go on together, each waiting for the others before time passes: what is seen of one
that runs is what is told on a course on the clock, from the time at which it was started. -/
theorem ticks_of_runs {plans : List Plan} {commands : List Command}
    (hRuns : (motion w .patient).Runs commands (ofPlans plans) s) : s.Ticks w :=
  (ticks_ofPlans w plans).runs hRuns

end Schedule

end Lookout.Pipeline
