import Lookout.Proofs.Pipeline.Neighbours
/-!
The life of all groups together under any commands. A group is started at most once: when it is told
to run for the first time, unless shutdown was called before. The first shutdown that returns leaves
every group ended, and from then on nothing can be done: no stage takes a turn any more, and further
commands are only told of. In between stages may take turns in any order and at any time.
-/
namespace Lookout.Pipeline

/-! ### Groups that are shut down -/

namespace View

/-- Cancels the group of the worker; one that does not run never will. -/
def cancel (v : View) : View :=
  match v.worker with
  | { plan := p, phase := .running g } =>
    { v with worker := { plan := p, phase := .running { g with cancelled := true } } }
  | { plan := p, phase := _ } => { v with worker := { plan := p, phase := .ended } }

/-- Ends the worker if its group has stopped. -/
def finish (v : View) : View :=
  match v.worker with
  | { plan := p, phase := .running g } =>
    if g.isStopped then
      { v with
        worker := { plan := p, phase := .ended }
        seen := v.seen ++ [(v.now, .notice .stopped)] }
    else v
  | _ => v

end View

namespace Schedule
variable {w : World} {s mid after : Schedule} {i : Nat} {p : Plan} {commands : List Command}
  {command : Command}

theorem view_setPhase_self {old : Phase} (hWorker : s.workers[i]? = some ⟨p, old⟩) (phase : Phase) :
    (s.setPhase i phase).view? i =
      some ⟨s.now, ⟨p, phase⟩, countOf s.visits p.name, s.seenOf i⟩ := by
  rw [view?, setPhase_self hWorker]
  rfl

theorem view_setPhase_other {k : Nat} (hne : k ≠ i) (s : Schedule) (phase : Phase) :
    (s.setPhase k phase).view? i = s.view? i := by
  rw [view?, setPhase_other hne]
  rfl

theorem view_wake (s : Schedule) (t : Task) (i : Nat) : (s.wake t).view? i = s.view? i := by
  obtain ⟨queue, hQueue⟩ := wake_eq s t
  rw [hQueue]
  rfl

theorem view_cancel (s : Schedule) (i : Nat) : s.cancel.view? i = (s.view? i).map View.cancel := by
  unfold cancel
  refine view_foldl_range View.cancel ?_ ?_ s
  · intro s
    simp only
    split
    · rename_i p g hWorker
      rw [view_wake, view_wake, view_setPhase_self hWorker]
      simp [view?, hWorker, View.cancel]
    · rename_i hIdle
      cases hWorker : s.workers[i]? with
      | none => simp [view?, setPhase, hWorker]
      | some own =>
          obtain ⟨p, phase⟩ := own
          rw [view_setPhase_self hWorker]
          cases phase with
          | running g => exact absurd hWorker (hIdle p g)
          | ready => simp [view?, hWorker, View.cancel]
          | ended => simp [view?, hWorker, View.cancel]
  · intro s k hk
    simp only
    split
    · rw [view_wake, view_wake, view_setPhase_other hk]
    · rw [view_setPhase_other hk]

theorem view_see_note (s : Schedule) (k i : Nat) (n : Note) :
    (s.see (.ofWorker k n)).view? i = (s.view? i).map fun v =>
      { v with seen := v.seen ++ if k = i then [(v.now, n)] else [] } := by
  by_cases hk : k = i
  · simp [view?, see, seenOf, Sight.noteOf?, hk, Function.comp_def]
  · simp [view?, see, seenOf, Sight.noteOf?, hk, Function.comp_def]

theorem view_finish (s : Schedule) (i : Nat) : s.finish.view? i = (s.view? i).map View.finish := by
  unfold finish
  rw [view_see fun _ => rfl]
  refine view_foldl_range View.finish ?_ ?_ s
  · intro s
    split
    · rename_i p g hWorker
      split_ifs with hStopped
      · refine (view_see_note _ i i _).trans ?_
        rw [view_setPhase_self hWorker]
        simp [view?, hWorker, View.finish, hStopped]
      · simp [view?, hWorker, View.finish, hStopped]
    · rename_i hIdle
      cases hWorker : s.workers[i]? with
      | none => simp [view?, hWorker]
      | some own =>
          obtain ⟨p, phase⟩ := own
          cases phase with
          | running g => exact absurd hWorker (hIdle p g)
          | ready => simp [view?, hWorker, View.finish]
          | ended => simp [view?, hWorker, View.finish]
  · intro s k hk
    split
    · split_ifs
      · refine (view_see_note _ k i _).trans ?_
        rw [view_setPhase_other hk]
        simp [hk]
      · rfl
    · rfl

/-! ### Commands that are carried out -/

/-- Whether no worker has anything left to do. -/
def AllDone (s : Schedule) : Prop := s.workers.all Worker.isDone = true

/-- A stage of a worker takes a turn, or the time changes. Nothing is assumed of the order of turns, nor
of what is kept in mind of turns to come. -/
inductive Act (w : World) : Schedule → Schedule → Prop where
  | turn {s after : Schedule} {t : Task} (hTurn : s.takeTurn w t = some after) : Act w s after
  | pass {s : Schedule} {now : Nat} {queue : List Task} {timers : List (Nat × Task)} :
      Act w s { s with now := now, queue := queue, timers := timers }

/-- What happens while shutdown waits. As soon as all workers are done it does not wait any longer. -/
def Drains (w : World) (s after : Schedule) : Prop := Act w s after ∧ (s.AllDone → after.now = s.now)

/-- A command is carried out. -/
inductive Obeys (w : World) : Command → Schedule → Schedule → Prop where
  | run {s : Schedule} : Obeys w .run s s.start
  | advance {ms : Nat} {s after : Schedule} (hActs : Relation.ReflTransGen (Act w) s after)
      (hTime : after.now = s.now + ms) : Obeys w (.advance ms) s after
  | shutdown {s drained : Schedule} (hDrains : Relation.ReflTransGen (Drains w) s.cancel drained)
      (hDone : drained.AllDone) : Obeys w .shutdown s drained.finish

/-- Commands are carried out one after the other. -/
inductive Obeyed (w : World) (s : Schedule) : List Command → Schedule → Prop where
  | nil : Obeyed w s [] s
  | snoc {commands : List Command} {command : Command} {mid after : Schedule}
      (hPrior : Obeyed w s commands mid) (hLast : Obeys w command mid after) :
      Obeyed w s (commands ++ [command]) after

/-! ### How far groups have come -/

/-- Whether groups have been started by some commands: they were told to run before shutdown was
called. -/
def starts : List Command → Bool
  | [] => false
  | .run :: _ => true
  | .advance _ :: rest => starts rest
  | .shutdown :: _ => false

theorem starts_concat_run (hOpen : .shutdown ∉ commands) : starts (commands ++ [.run]) = true := by
  induction commands with
  | nil => rfl
  | cons first rest ih =>
      rw [List.mem_cons, not_or] at hOpen
      cases first with
      | run => rfl
      | advance ms => exact ih hOpen.2
      | shutdown => exact absurd rfl hOpen.1

/-- Only to run before shutdown was called starts groups. -/
theorem starts_concat (commands : List Command) (command : Command)
    (h : command = .run → .shutdown ∈ commands ∨ starts commands = true) :
    starts (commands ++ [command]) = starts commands := by
  induction commands with
  | nil =>
      cases command with
      | run => simp [starts] at h
      | advance ms => rfl
      | shutdown => rfl
  | cons first rest ih =>
      cases first with
      | run => rfl
      | advance ms => exact ih (by simpa [starts] using h)
      | shutdown => rfl

theorem run_of_starts (h : starts commands = true) : .run ∈ commands := by
  induction commands with
  | nil => cases h
  | cons first rest ih =>
      cases first with
      | run => exact List.mem_cons_self
      | advance ms => exact List.mem_cons_of_mem _ (ih h)
      | shutdown => cases h

end Schedule

/-- Whether what is seen of a worker begins with the start of its group and tells of no other start, if
the group has been started, and is nothing if not. -/
def StartedIf (begun : Bool) (seen : List (Nat × Note)) : Prop :=
  match begun with
  | true => ∃ time rest, seen = (time, .notice .started) :: rest ∧ ∀ r ∈ rest, r.2 ≠ .notice .started
  | false => seen = []

theorem StartedIf.append {seen more : List (Nat × Note)} (h : StartedIf true seen)
    (hMore : ∀ r ∈ more, r.2 ≠ .notice .started) : StartedIf true (seen ++ more) := by
  obtain ⟨time, rest, rfl, hRest⟩ := h
  exact ⟨time, rest ++ more, rfl, List.forall_mem_append.2 ⟨hRest, hMore⟩⟩

/-- How far a worker has come, and what has been seen of it, after some commands. -/
structure Worker.Lives (commands : List Schedule.Command) (seen : List (Nat × Note)) (own : Worker) :
    Prop where
  seen : StartedIf (Schedule.starts commands) seen
  ready : own.phase = .ready ↔ .run ∉ commands ∧ .shutdown ∉ commands
  running : ∀ g, own.phase = .running g → Schedule.starts commands = true
  ended : own.phase = .ended → .shutdown ∈ commands

namespace Group
variable {p : Plan} {stage : Stage} {now : Nat} {visit : Http.Visit}
  {deliveries : String → List Delivery} {g after : Group} {notes : List Note}

/-- No turn tells of a start. -/
theorem ne_started_of_turn (h : g.turn p stage now visit deliveries = some (after, notes)) :
    ∀ n ∈ notes, n ≠ .notice .started := by
  have hSend (m : Matched) (called : Nat) : ∀ n ∈ sendNotes p deliveries m called,
      n ≠ .notice .started := by
    simp [sendNotes]
  have hSending (seq : Nat) (calls : List Call) : ∀ n ∈ sendingNotes seq calls,
      n ≠ .notice .started := by
    unfold sendingNotes
    split <;> simp
  cases stage with
  | trigger => cases triggerTurn_cases h <;> simp
  | fetch => cases fetchTurn_cases h <;> simp
  | evaluate => cases evaluateTurn_cases h <;> simp
  | dispatch =>
      cases dispatchTurn_cases h with
      | send _ _ _ _ => exact hSend _ _
      | crash _ _ _ _ => exact List.forall_mem_append.2 ⟨hSend _ _, by simp⟩
      | finish _ _ => exact hSending _ _
      | _ => simp

end Group

namespace Worker
variable {commands : List Schedule.Command} {command : Schedule.Command} {seen : List (Nat × Note)}
  {p : Plan} {g : Group} {v : View}

theorem Lives.of_running (hBegun : Schedule.starts commands = true) (hSeen : StartedIf true seen) :
    Lives commands seen ⟨p, .running g⟩ where
  seen := by rwa [hBegun]
  ready := by simp [Schedule.run_of_starts hBegun]
  running _ _ := hBegun
  ended := by simp

theorem Lives.of_ended (hOver : .shutdown ∈ commands)
    (hSeen : StartedIf (Schedule.starts commands) seen) : Lives commands seen ⟨p, .ended⟩ where
  seen := hSeen
  ready := by simp [hOver]
  running := by simp
  ended _ := hOver

theorem Lives.seen_of_running (h : Lives commands seen ⟨p, .running g⟩) : StartedIf true seen := by
  have hSeen := h.seen
  rwa [h.running g rfl] at hSeen

/-- Nothing is seen of a group that is ready. -/
theorem Lives.seen_of_ready {own : Worker} (h : own.Lives commands seen) (hReady : own.phase = .ready) :
    seen = [] := by
  have hSilent : Schedule.starts commands = false :=
    eq_false_of_ne_true fun hBegun => (h.ready.1 hReady).1 (Schedule.run_of_starts hBegun)
  have hSeen := h.seen
  rwa [hSilent] at hSeen

theorem Lives.turn {now : Nat} {told : List Note} (h : Lives commands seen ⟨p, .running g⟩)
    (hTold : ∀ n ∈ told, n ≠ .notice .started) (after : Group) :
    Lives commands (seen ++ told.map fun n => (now, n)) ⟨p, .running after⟩ := by
  refine .of_running (h.running g rfl) (h.seen_of_running.append fun r hr => ?_)
  obtain ⟨n, hn, rfl⟩ := List.mem_map.1 hr
  exact hTold n hn

theorem Lives.advance {own : Worker} (h : own.Lives commands seen) (ms : Nat) :
    own.Lives (commands ++ [.advance ms]) seen := by
  have hSame := Schedule.starts_concat commands (.advance ms) (by simp)
  refine ⟨hSame ▸ h.seen, ?_, hSame ▸ h.running, fun hEnded => List.mem_append_left _ (h.ended hEnded)⟩
  simpa using h.ready

/-- Only a group that is ready is started: no run came before, and no shutdown. -/
theorem Lives.start (h : v.worker.Lives commands v.seen) :
    v.start.worker.Lives (commands ++ [.run]) v.start.seen := by
  obtain ⟨now, ⟨p, phase⟩, calls, seen⟩ := v
  cases phase with
  | ready =>
      obtain rfl : seen = [] := h.seen_of_ready rfl
      exact .of_running (Schedule.starts_concat_run (h.ready.1 rfl).2) ⟨now, [], rfl, by simp⟩
  | running g =>
      have hBegun := h.running g rfl
      have hSame := Schedule.starts_concat commands .run fun _ => .inr hBegun
      exact .of_running (hSame.trans hBegun) h.seen_of_running
  | ended =>
      have hOver := h.ended rfl
      have hSame := Schedule.starts_concat commands .run fun _ => .inl hOver
      exact .of_ended (List.mem_append_left _ hOver) (hSame ▸ h.seen)

theorem Lives.cancel (h : v.worker.Lives commands v.seen) :
    v.cancel.worker.Lives (commands ++ [.shutdown]) v.cancel.seen := by
  obtain ⟨now, ⟨p, phase⟩, calls, seen⟩ := v
  have hSame := Schedule.starts_concat commands .shutdown (by simp)
  have hOver : .shutdown ∈ commands ++ [.shutdown] := by simp
  cases phase with
  | running g => exact .of_running (hSame.trans (h.running g rfl)) h.seen_of_running
  | ready => exact .of_ended hOver (hSame ▸ h.seen)
  | ended => exact .of_ended hOver (hSame ▸ h.seen)

theorem Lives.finish (h : v.worker.Lives commands v.seen) (hOver : .shutdown ∈ commands) :
    v.finish.worker.Lives commands v.finish.seen := by
  obtain ⟨now, ⟨p, phase⟩, calls, seen⟩ := v
  cases phase with
  | running g =>
      unfold View.finish
      simp only
      split_ifs
      · refine .of_ended hOver ?_
        rw [h.running g rfl]
        exact h.seen_of_running.append (by simp)
      · exact h
  | ready => exact h
  | ended => exact h

/-- A worker that shutdown is done with has ended. -/
theorem Lives.ended_of_isDone (h : v.worker.Lives commands v.seen) (hOver : .shutdown ∈ commands)
    (hDone : v.worker.isDone = true) : v.finish.worker.phase = .ended := by
  obtain ⟨now, ⟨p, phase⟩, calls, seen⟩ := v
  cases phase with
  | ready => exact absurd hOver (h.ready.1 rfl).2
  | running g =>
      have hStopped : g.isStopped = true := hDone
      simp [View.finish, hStopped]
  | ended => rfl

end Worker

namespace Schedule
variable {w : World} {s mid after : Schedule} {i : Nat} {commands more : List Command} {command : Command}

/-- How far all workers have come after some commands. -/
def Lives (commands : List Command) (s : Schedule) : Prop :=
  ∀ i (own : Worker), s.workers[i]? = some own → own.Lives commands (s.seenOf i)

/-- Whether all workers have ended. -/
def Ended (s : Schedule) : Prop := ∀ own ∈ s.workers, own.phase = .ended

theorem lives_ofPlans (plans : List Plan) : (ofPlans plans).Lives [] := by
  intro i own hi
  obtain ⟨p, rfl⟩ := eq_ready_of_ofPlans hi
  exact ⟨rfl, by simp, by simp, by simp⟩

theorem Lives.act (h : s.Lives commands) (hAct : Act w s after) : after.Lives commands := by
  cases hAct with
  | @turn _ t hTurn =>
      obtain ⟨i, stage⟩ := t
      obtain ⟨p, g, next, told, hWorker, hGroup, hTakes⟩ := turn_of_takeTurn hTurn
      exact hTakes.forall_worker (P := fun own seen => own.Lives commands seen) hWorker h
        ((h i _ hWorker).turn (Group.ne_started_of_turn hGroup) next)
  | pass => exact h

theorem Lives.acts (h : s.Lives commands) (hActs : Relation.ReflTransGen (Act w) s after) :
    after.Lives commands := by
  induction hActs with
  | refl => exact h
  | tail _ hAct ih => exact ih.act hAct

theorem Lives.drains (h : s.Lives commands) (hDrains : Relation.ReflTransGen (Drains w) s after) :
    after.Lives commands :=
  h.acts (hDrains.lift id fun _ _ hStep => hStep.1)

theorem Lives.view {v : View} (h : s.Lives commands) (hView : s.view? i = some v) :
    v.worker.Lives commands v.seen := by
  obtain ⟨own, hOwn, rfl⟩ := Option.map_eq_some_iff.1 hView
  exact h i own hOwn

/-- A change of the view of each worker is a change of them all. -/
theorem lives_of_view {change : View → View} {commands' : List Command}
    (hView : ∀ i, after.view? i = (s.view? i).map change) (h : s.Lives commands)
    (hChange : ∀ v : View, v.worker.Lives commands v.seen →
      (change v).worker.Lives commands' (change v).seen) : after.Lives commands' := by
  intro i own hi
  obtain ⟨v, hBefore, _, rfl, hSeen⟩ := exists_of_view hView hi
  exact hSeen ▸ hChange v (h.view hBefore)

theorem plans_eq_of_view {change : View → View} (hView : ∀ i, after.view? i = (s.view? i).map change)
    (hChange : ∀ v : View, (change v).worker.plan = v.worker.plan) : after.plans = s.plans := by
  have hPlans (s : Schedule) (i : Nat) : s.plans[i]? = (s.view? i).map fun v => v.worker.plan := by
    simp [plans, view?, Function.comp_def]
  refine List.ext_getElem? fun i => ?_
  rw [hPlans, hPlans, hView, Option.map_map]
  simp [Function.comp_def, hChange]

theorem plans_acts (hActs : Relation.ReflTransGen (Act w) s after) : after.plans = s.plans := by
  induction hActs with
  | refl => rfl
  | tail _ hAct ih =>
      cases hAct with
      | turn hTurn => exact (plans_takeTurn hTurn).trans ih
      | pass => exact ih

theorem plans_cancel (s : Schedule) : s.cancel.plans = s.plans := by
  refine plans_eq_of_view (view_cancel s) fun v => ?_
  unfold View.cancel
  split <;> simp_all

theorem plans_finish (s : Schedule) : s.finish.plans = s.plans := by
  refine plans_eq_of_view (view_finish s) fun v => ?_
  unfold View.finish
  split
  · split_ifs <;> simp_all
  · rfl

theorem Lives.start (h : s.Lives commands) : s.start.Lives (commands ++ [.run]) :=
  lives_of_view (view_start s) h fun _ => Worker.Lives.start

theorem Lives.cancel (h : s.Lives commands) : s.cancel.Lives (commands ++ [.shutdown]) :=
  lives_of_view (view_cancel s) h fun _ => Worker.Lives.cancel

theorem Lives.finish (h : s.Lives commands) (hOver : .shutdown ∈ commands) : s.finish.Lives commands :=
  lives_of_view (view_finish s) h fun _ hv => hv.finish hOver

theorem Lives.obeys (h : s.Lives commands) (hObeys : Obeys w command s after) :
    after.Lives (commands ++ [command]) := by
  cases hObeys with
  | run => exact h.start
  | advance hActs _ => exact fun i own hi => (h.acts hActs i own hi).advance _
  | shutdown hDrains _ => exact (h.cancel.drains hDrains).finish (by simp)

theorem Obeyed.lives {plans : List Plan} (h : Obeyed w (ofPlans plans) commands s) : s.Lives commands := by
  induction h with
  | nil => exact lives_ofPlans plans
  | snoc _ hLast ih => exact ih.obeys hLast

theorem Obeyed.plans {plans : List Plan} (h : Obeyed w (ofPlans plans) commands s) : s.plans = plans := by
  induction h with
  | nil => exact plans_ofPlans plans
  | snoc _ hLast ih =>
      cases hLast with
      | run => exact (plans_start _).trans ih
      | advance hActs _ => exact (plans_acts hActs).trans ih
      | shutdown hDrains _ =>
          have hDrained := plans_acts (hDrains.lift id fun _ _ hStep => hStep.1)
          exact (plans_finish _).trans (hDrained.trans ((plans_cancel _).trans ih))

theorem exists_worker {plans : List Plan} (h : s.plans = plans) (hi : i < plans.length) :
    ∃ own, s.workers[i]? = some own := by
  rw [← h, Schedule.plans, List.length_map] at hi
  exact ⟨_, List.getElem?_eq_getElem hi⟩

/-! ### Groups that have ended -/

/-- When all workers are done, to finish is to end them. -/
theorem Lives.ended_finish (h : s.Lives commands) (hOver : .shutdown ∈ commands) (hDone : s.AllDone) :
    s.finish.Ended := by
  intro own hOwn
  obtain ⟨i, hi⟩ := List.mem_iff_getElem?.1 hOwn
  obtain ⟨v, hBefore, _, rfl, _⟩ := exists_of_view (view_finish s) hi
  refine (h.view hBefore).ended_of_isDone hOver ?_
  obtain ⟨before, hWorker, rfl⟩ := Option.map_eq_some_iff.1 hBefore
  exact List.all_eq_true.1 hDone before (List.mem_of_getElem? hWorker)

theorem Ended.allDone (h : s.Ended) : s.AllDone := by
  refine List.all_eq_true.2 fun own hOwn => ?_
  rw [Worker.isDone, h own hOwn]

/-- Groups that have ended take no turns. -/
theorem Ended.takeTurn (h : s.Ended) (t : Task) : s.takeTurn w t = none := by
  unfold Schedule.takeTurn
  split
  · rename_i p g hWorker
    cases h _ (List.mem_of_getElem? hWorker)
  · rfl

theorem Ended.act (h : s.Ended) (hAct : Act w s after) :
    ∃ now queue timers, after = { s with now := now, queue := queue, timers := timers } := by
  cases hAct with
  | turn hTurn => simp [h.takeTurn] at hTurn
  | @pass now queue timers => exact ⟨now, queue, timers, rfl⟩

theorem Ended.acts (h : s.Ended) (hActs : Relation.ReflTransGen (Act w) s after) :
    ∃ now queue timers, after = { s with now := now, queue := queue, timers := timers } := by
  induction hActs with
  | refl => exact ⟨s.now, s.queue, s.timers, rfl⟩
  | tail _ hAct ih =>
      obtain ⟨now, queue, timers, rfl⟩ := ih
      have hStill : Ended { s with now := now, queue := queue, timers := timers } := h
      exact hStill.act hAct

/-- Shutdown does not wait for groups that have ended. -/
theorem Ended.drains (h : s.Ended) (hDrains : Relation.ReflTransGen (Drains w) s after) :
    ∃ queue timers, after = { s with queue := queue, timers := timers } := by
  induction hDrains with
  | refl => exact ⟨s.queue, s.timers, rfl⟩
  | tail _ hStep ih =>
      obtain ⟨queue, timers, rfl⟩ := ih
      have hStill : Ended { s with queue := queue, timers := timers } := h
      obtain ⟨now, queue, timers, rfl⟩ := hStill.act hStep.1
      obtain rfl : now = s.now := hStep.2 hStill.allDone
      exact ⟨queue, timers, rfl⟩

theorem start_of_not_ready (h : ∀ own ∈ s.workers, own.phase ≠ .ready) : s.start = s.see .allStarted := by
  refine congrArg (see · .allStarted) (List.foldl_fixed' (fun i => ?_) _)
  simp only
  split
  · rename_i p hWorker
    exact absurd rfl (h _ (List.mem_of_getElem? hWorker))
  · rfl

theorem Ended.setPhase (h : s.Ended) (i : Nat) : s.setPhase i .ended = s := by
  have hSame : s.workers.modify i (fun own => { own with phase := .ended }) = s.workers := by
    refine List.ext_getElem? fun j => ?_
    rw [List.getElem?_modify]
    cases hOwn : s.workers[j]? with
    | none => rfl
    | some own =>
        have hPhase : own.phase = .ended := h own (List.mem_of_getElem? hOwn)
        by_cases hij : i = j
        · simp [hij, ← hPhase]
        · simp [hij]
  rw [Schedule.setPhase, hSame]

theorem Ended.cancel (h : s.Ended) : s.cancel = s := by
  refine List.foldl_fixed' (fun i => ?_) _
  split
  · rename_i p g hWorker
    cases h _ (List.mem_of_getElem? hWorker)
  · exact h.setPhase i

theorem Ended.finish (h : s.Ended) : s.finish = s.see .allStopped := by
  refine congrArg (see · .allStopped) (List.foldl_fixed' (fun i => ?_) _)
  split
  · rename_i p g hWorker
    cases h _ (List.mem_of_getElem? hWorker)
  · rfl

/-- Whether nothing has happened to the groups: none has gone on, nobody has been called, and nothing
new can be seen of any of them. -/
structure Still (s after : Schedule) : Prop where
  workers : after.workers = s.workers
  visits : after.visits = s.visits
  deliveries : after.deliveries = s.deliveries
  seenOf : ∀ i, after.seenOf i = s.seenOf i

theorem Ended.obeys (h : s.Ended) (hObeys : Obeys w command s after) : Still s after := by
  cases hObeys with
  | run =>
      rw [start_of_not_ready fun own hOwn hReady => by rw [h own hOwn] at hReady; cases hReady]
      exact ⟨rfl, rfl, rfl, seenOf_see (fun _ => rfl) s⟩
  | advance hActs _ =>
      obtain ⟨_, _, _, rfl⟩ := h.acts hActs
      exact ⟨rfl, rfl, rfl, fun _ => rfl⟩
  | shutdown hDrains _ =>
      rw [h.cancel] at hDrains
      obtain ⟨queue, timers, rfl⟩ := h.drains hDrains
      have hStill : Ended { s with queue := queue, timers := timers } := h
      rw [hStill.finish]
      exact ⟨rfl, rfl, rfl, seenOf_see (fun _ => rfl) _⟩

theorem Ended.obeyed (h : s.Ended) (hObeyed : Obeyed w s commands after) : Still s after := by
  induction hObeyed with
  | nil => exact ⟨rfl, rfl, rfl, fun _ => rfl⟩
  | @snoc _ _ mid _ _ hLast ih =>
      have hMid : mid.Ended := fun own hOwn => h own (ih.workers ▸ hOwn)
      have hStill := hMid.obeys hLast
      exact ⟨hStill.workers.trans ih.workers, hStill.visits.trans ih.visits,
        hStill.deliveries.trans ih.deliveries, fun i => (hStill.seenOf i).trans (ih.seenOf i)⟩

/-- Shutdown has ended all groups when it returns. -/
theorem Obeyed.ended {plans : List Plan} (h : Obeyed w (ofPlans plans) commands s)
    (hOver : .shutdown ∈ commands) : s.Ended := by
  induction h with
  | nil => cases hOver
  | @snoc commands _ mid _ hPrior hLast ih =>
      -- The first shutdown ends all groups, and no command after it changes any of them.
      by_cases hBefore : .shutdown ∈ commands
      · intro own hOwn
        exact ih hBefore own ((Ended.obeys (ih hBefore) hLast).workers ▸ hOwn)
      · cases hLast with
        | shutdown hDrains hDone =>
            exact ((Obeyed.lives hPrior).cancel.drains hDrains).ended_finish (by simp) hDone
        | _ => simp [hBefore] at hOver

/-- Of all groups together, under any commands and whatever their stages do in between: what is seen of
a group begins with its one start, if the groups were told to run before shutdown was called, and is
nothing otherwise, also while shutdown waits. The first time that they are told to run starts them all,
and a later time, or one after shutdown, starts nothing. Once a shutdown has returned, another one
returns at once and changes nothing, and no further command brings a call of the crawler or of a sender
or anything else that can be seen of a group. -/
theorem groups_live_once {plans : List Plan} (h : Obeyed w (ofPlans plans) commands s) :
    (∀ i < plans.length, StartedIf (starts commands) (s.seenOf i)) ∧
    (∀ mid, Relation.ReflTransGen (Drains w) s.cancel mid →
      ∀ i < plans.length, StartedIf (starts commands) (mid.seenOf i)) ∧
    (.run ∉ commands ∧ .shutdown ∉ commands →
      ∀ i < plans.length, s.seenOf i = [] ∧ s.start.seenOf i = [(s.now, .notice .started)]) ∧
    (.run ∈ commands ∨ .shutdown ∈ commands → s.start = s.see .allStarted) ∧
    (.shutdown ∈ commands →
      Obeys w .shutdown s (s.see .allStopped) ∧
      (∀ after, Obeys w .shutdown s after → after.bare = (s.see .allStopped).bare) ∧
      ∀ more after, Obeyed w s more after → Still s after) := by
  have hLives := h.lives
  refine ⟨fun i hi => ?_, fun mid hDrains i hi => ?_, fun ⟨hRun, hOpen⟩ i hi => ?_, fun hCalled => ?_,
    fun hOver => ?_⟩
  · obtain ⟨own, hOwn⟩ := exists_worker h.plans hi
    exact (hLives i own hOwn).seen
  · have hPlans : mid.plans = plans :=
      (plans_acts (hDrains.lift id fun _ _ hStep => hStep.1)).trans ((plans_cancel s).trans h.plans)
    obtain ⟨own, hOwn⟩ := exists_worker hPlans hi
    have hSeen := (hLives.cancel.drains hDrains i own hOwn).seen
    rwa [starts_concat commands .shutdown (by simp)] at hSeen
  · obtain ⟨⟨p, phase⟩, hOwn⟩ := exists_worker h.plans hi
    obtain rfl : phase = .ready := (hLives i _ hOwn).ready.2 ⟨hRun, hOpen⟩
    have hNone := (hLives i _ hOwn).seen_of_ready rfl
    have hView : s.view? i = some ⟨s.now, ⟨p, .ready⟩, countOf s.visits p.name, []⟩ := by
      rw [view?, hOwn, Option.map_some, hNone]
    have hStarted := view_start s i
    rw [hView] at hStarted
    exact ⟨hNone, (seen_of_view hStarted).symm⟩
  · refine start_of_not_ready fun own hOwn hReady => ?_
    obtain ⟨i, hi⟩ := List.mem_iff_getElem?.1 hOwn
    obtain ⟨hRun, hOpen⟩ := (hLives i own hi).ready.1 hReady
    exact hCalled.elim hRun hOpen
  · have hEnded := h.ended hOver
    refine ⟨?_, fun after hObeys => ?_, fun more after hMore => hEnded.obeyed hMore⟩
    · rw [← hEnded.finish]
      refine .shutdown ?_ hEnded.allDone
      rw [hEnded.cancel]
    · cases hObeys with
      | shutdown hDrains _ =>
          rw [hEnded.cancel] at hDrains
          obtain ⟨queue, timers, rfl⟩ := hEnded.drains hDrains
          have hStill : Ended { s with queue := queue, timers := timers } := hEnded
          rw [hStill.finish]
          rfl

/-! ### What a schedule does -/

/-- To work off the queue is to take turns at one instant. -/
theorem acts_settle (w : World) (s : Schedule) (bound : Nat) :
    Relation.ReflTransGen (fun s after => Act w s after ∧ after.now = s.now) s (s.settle w bound) := by
  induction bound generalizing s with
  | zero => exact .refl
  | succ bound ih =>
      unfold settle
      split
      · exact .refl
      · rename_i next hNext
        refine .head ?_ (ih next)
        unfold next? at hNext
        split at hNext
        · cases hNext
        · rename_i t rest _
          split at hNext
          · rename_i hTurn
            cases hNext
            exact ⟨.turn hTurn, now_takeTurn hTurn⟩
          · cases hNext
            exact ⟨.pass, rfl⟩

theorem act_passTo (w : World) (s : Schedule) (time : Nat) : Act w s (s.passTo time) := by
  obtain ⟨queue, hPassed⟩ := passTo_eq s time
  rw [hPassed]
  exact .pass

theorem acts_advanceTo (w : World) (s : Schedule) (target bound : Nat) :
    Relation.ReflTransGen (Act w) s (s.advanceTo w target bound) ∧
      (s.advanceTo w target bound).now = target := by
  have hSettled (s : Schedule) : Relation.ReflTransGen (Act w) s (s.settle w s.instantBound) :=
    (acts_settle w s _).lift id fun _ _ hStep => hStep.1
  induction bound generalizing s with
  | zero => exact ⟨.single .pass, rfl⟩
  | succ bound ih =>
      unfold advanceTo
      simp only
      split
      · split_ifs
        · obtain ⟨hRest, hNow⟩ := ih ((s.settle w s.instantBound).passTo _)
          exact ⟨((hSettled s).tail (act_passTo w _ _)).trans hRest, hNow⟩
        · exact ⟨(hSettled s).tail .pass, rfl⟩
      · exact ⟨(hSettled s).tail .pass, rfl⟩

theorem drains_drain (w : World) (s : Schedule) (bound : Nat) :
    Relation.ReflTransGen (Drains w) s (s.drain w bound) := by
  have hSettled (s : Schedule) : Relation.ReflTransGen (Drains w) s (s.settle w s.instantBound) :=
    (acts_settle w s _).lift id fun _ _ hStep => ⟨hStep.1, fun _ => hStep.2⟩
  induction bound generalizing s with
  | zero => exact .refl
  | succ bound ih =>
      unfold drain
      simp only
      split_ifs with hDone
      · exact hSettled s
      · split
        · exact ((hSettled s).tail ⟨act_passTo w _ _, fun hAll => absurd hAll hDone⟩).trans (ih _)
        · exact hSettled s

/-- What a schedule does at a command is one of the ways to carry it out, provided that shutdown has
waited until all groups were done. -/
theorem obeys_perform (s : Schedule)
    (hReturns : command = .shutdown → (s.cancel.drain w (drainBound w s.cancel)).AllDone) :
    Obeys w command s (s.perform w command) := by
  cases command with
  | run => exact .run
  | advance ms =>
      obtain ⟨hActs, hNow⟩ := acts_advanceTo w s (s.now + ms) (ms + 1)
      exact .advance hActs hNow
  | shutdown => exact .shutdown (drains_drain w _ _) (hReturns rfl)

/-- Whether each shutdown among some commands waits until all groups are done. -/
def returns (w : World) : List Command → Schedule → Bool
  | [], _ => true
  | command :: rest, s =>
    (command != .shutdown || (s.cancel.drain w (drainBound w s.cancel)).workers.all Worker.isDone) &&
      returns w rest (s.perform w command)

/-- So is what it does at commands in turn. -/
theorem obeyed_foldl {s : Schedule} (h : returns w commands s = true) :
    Obeyed w s commands (commands.foldl (perform w) s) := by
  have hMore {prior : List Command} {mid : Schedule} (hPrior : Obeyed w s prior mid)
      (hReturns : returns w commands mid = true) :
      Obeyed w s (prior ++ commands) (commands.foldl (perform w) mid) := by
    clear h
    induction commands generalizing prior mid with
    | nil => rwa [List.append_nil]
    | cons command rest ih =>
        simp only [returns, Bool.and_eq_true, Bool.or_eq_true, bne_iff_ne] at hReturns
        have hLast := obeys_perform mid fun hShutdown => hReturns.1.resolve_left fun hne => hne hShutdown
        rw [List.append_cons]
        exact ih (.snoc hPrior hLast) hReturns.2
  exact hMore .nil h

end Schedule

namespace Sample

/-- The commands of a program that is stopped while a message is on its way, and told to go on. -/
def stopping : List Schedule.Command := [.run, .advance 7, .run, .shutdown, .run, .shutdown, .advance 20]

/-- Two groups after these commands, the calls of the second of which panic. -/
def stopped : Schedule :=
  stopping.foldl (Schedule.perform (street crash)) (Schedule.ofPlans [plan, neighbour])

theorem stopped_obeyed :
    Schedule.Obeyed (street crash) (Schedule.ofPlans [plan, neighbour]) stopping stopped :=
  Schedule.obeyed_foldl (by decide +kernel)

end Sample

theorem Schedule.stopped_lives_once :
    Obeyed (Sample.street Sample.crash) (ofPlans [Sample.plan, Sample.neighbour]) Sample.stopping
      Sample.stopped ∧
    StartedIf true (Sample.stopped.seenOf 0) ∧ StartedIf true (Sample.stopped.seenOf 1) ∧
    (Sample.stopped.seenOf 0).filterMap (fun r => r.2.sentTo? 0) = [(1, "found 7")] ∧
    Sample.stopped.start = Sample.stopped.see .allStarted ∧
    Obeys (Sample.street Sample.crash) .shutdown Sample.stopped (Sample.stopped.see .allStopped) := by
  obtain ⟨hSeen, _, _, hStart, hOver⟩ := groups_live_once Sample.stopped_obeyed
  refine ⟨Sample.stopped_obeyed, hSeen 0 (by decide), hSeen 1 (by decide), ?_,
    hStart (.inl (by decide)), (hOver (by decide)).1⟩
  decide +kernel

end Lookout.Pipeline
