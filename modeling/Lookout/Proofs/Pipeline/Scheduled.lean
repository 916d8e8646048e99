import Lookout.Pipeline.Schedule
import Lookout.Proofs.Pipeline.Closing
/-!
Worker groups on one clock are on courses that they can take. A schedule chooses one order of turns
and one time for each, and the world chooses how calls go; whatever it is told to do, what is seen
of each worker is what is told on a course of its group from the start. So all that holds of
reachable courses holds of every group in every run.
-/
namespace Lookout.Pipeline

/-- Whom a worker with a plan works for and with in a world. -/
def World.setting (w : World) (p : Plan) : Setting where
  plan := p
  senders := w.senders
  mayVisit visit := ∃ call, visit = w.visit p.name call
  mayDeliver d := ∃ sender call message, d = w.delivery sender call message
  exists_visit := ⟨_, 0, rfl⟩
  exists_delivery := ⟨_, 0, 0, ⟨"", 0, ""⟩, rfl⟩

namespace Worker

/-- Whether the notes seen of a worker are what is told on a course that its group can take. -/
def Tracks (w : World) (now : Nat) (notes : List Note) (worker : Worker) : Prop :=
  match worker.phase with
  | .ready => notes = []
  | .running g => ∃ c, Course.Reachable (w.setting worker.plan) c ∧ c.group = g ∧ c.now ≤ now ∧
      c.notes = notes ∧ ∀ stages, c.awaited = some stages → stages = Stage.inOrder
  | .ended => notes = [] ∨
      ∃ c, Course.Reachable (w.setting worker.plan) c ∧ c.HasReturned ∧ c.notes = notes

variable {w : World} {now : Nat} {notes : List Note} {p : Plan} {g : Group}

theorem Tracks.later {worker : Worker} {later : Nat} (h : worker.Tracks w now notes)
    (hLater : now ≤ later) :
    worker.Tracks w later notes := by
  obtain ⟨p, phase⟩ := worker
  cases phase with
  | ready => exact h
  | running g =>
      obtain ⟨c, hReachable, hGroup, hNow, hNotes, hAwaited⟩ := h
      exact ⟨c, hReachable, hGroup, Nat.le_trans hNow hLater, hNotes, hAwaited⟩
  | ended => exact h

theorem tracks_started : Tracks w now [.notice .started] ⟨p, .running {}⟩ :=
  ⟨{}, .refl, rfl, Nat.zero_le _, rfl, fun _ hAwaited => nomatch hAwaited⟩

/-- A turn of a schedule is a step of the course. -/
theorem Tracks.turn {stage : Stage} {call : Nat} {deliveries : String → List Delivery} {after : Group}
    {told : List Note} (h : Tracks w now notes ⟨p, .running g⟩)
    (hDeliveries : (w.setting p).Allows deliveries)
    (hTurn : g.turn p stage now (w.visit p.name call) deliveries = some (after, told)) :
    Tracks w now (notes ++ told) ⟨p, .running after⟩ := by
  obtain ⟨c, hReachable, rfl, hNow, rfl, hAwaited⟩ := h
  have hStep := Course.Step.turn (s := w.setting p) hNow ⟨call, rfl⟩ hDeliveries hTurn
  have hOpen : c.awaited ≠ some [] := fun hNone => nomatch hAwaited [] hNone
  refine ⟨_, hReachable.step hStep, rfl, Nat.le_refl _, ?_, hAwaited⟩
  simp [Course.notes, Course.take, hOpen]

/-- To cancel a group is to call shutdown, unless that was done before. -/
theorem Tracks.cancel (h : Tracks w now notes ⟨p, .running g⟩) :
    Tracks w now notes ⟨p, .running { g with cancelled := true }⟩ := by
  obtain ⟨c, hReachable, rfl, hNow, rfl, hAwaited⟩ := h
  cases hCalled : c.awaited with
  | none =>
      refine ⟨c.beginShutdown, hReachable.step (.shutdown hCalled), rfl, hNow, ?_, ?_⟩
      · simp [Course.notes, Course.beginShutdown, Stage.inOrder, hCalled]
      · exact fun _ hStages => (Option.some.inj hStages).symm
  | some stages =>
      have hCancelled : c.group.cancelled = true :=
        hReachable.cancelled_iff.2 (by rw [hCalled, Option.isSome_some])
      have hSame : { c.group with cancelled := true } = c.group := by rw [← hCancelled]
      exact ⟨c, hReachable, hSame.symm, hNow, rfl, hAwaited⟩

/-- When all stages of a group have stopped, shutdown has only to see that. -/
theorem Tracks.finish (h : Tracks w now notes ⟨p, .running g⟩) (hStopped : g.isStopped = true) :
    Tracks w now (notes ++ [.notice .stopped]) ⟨p, .ended⟩ := by
  obtain ⟨c, hReachable, rfl, hNow, rfl, hAwaited⟩ := h
  have hTrigger := Group.isStopped_iff.1 hStopped .trigger
  have hCalled := hReachable.cancelled_iff.1 (hReachable.cancelled_of_stopped hTrigger)
  obtain ⟨stages, hStages⟩ := Option.isSome_iff_exists.1 hCalled
  have hOpen : c.awaited ≠ some [] := fun hNone => nomatch hAwaited [] hNone
  refine .inr ⟨c.join [], hReachable.leads (Course.leads_join hStages hStopped), rfl, ?_⟩
  simp [Course.notes, Course.join, hOpen]

/-- A group that does not run never will. -/
theorem Tracks.end {phase : Phase} (h : Tracks w now notes ⟨p, phase⟩)
    (hIdle : ∀ g, phase ≠ .running g) :
    Tracks w now notes ⟨p, .ended⟩ := by
  cases phase with
  | ready => exact .inl h
  | running g => exact absurd rfl (hIdle g)
  | ended => exact h

end Worker

/-- The note of a worker that is seen. -/
def Sight.noteOf? (worker : Nat) : Sight → Option Note
  | ofWorker i note => if i = worker then some note else none
  | allStarted | allStopped => none

namespace Schedule

/-- What has been seen of a worker, in order. -/
def notesOf (s : Schedule) (worker : Nat) : List Note :=
  s.records.reverse.filterMap fun r => r.sight.noteOf? worker

/-- Whether every worker is on a course that its group can take. -/
def Tracks (w : World) (s : Schedule) : Prop :=
  ∀ i (worker : Worker), s.workers[i]? = some worker → worker.Tracks w s.now (s.notesOf i)

/-- Whether no timer goes off before an instant. -/
def Ahead (s : Schedule) (least : Nat) : Prop := ∀ timer ∈ s.timers, least ≤ timer.1

/-- What is true of all that is told on a course is true of all that is seen of a worker. -/
theorem Tracks.forall_notes {w : World} {s : Schedule} (h : s.Tracks w) {i : Nat} {worker : Worker}
    (hWorker : s.workers[i]? = some worker) {P : Note → Prop}
    (hP : ∀ c, Course.Reachable (w.setting worker.plan) c → ∀ n ∈ c.notes, P n) :
    ∀ n ∈ s.notesOf i, P n := by
  have hTracks := h i worker hWorker
  unfold Worker.Tracks at hTracks
  split at hTracks
  · simp [hTracks]
  · obtain ⟨c, hReachable, _, _, hNotes, _⟩ := hTracks
    exact hNotes ▸ hP c hReachable
  · rcases hTracks with hNone | ⟨c, hReachable, _, hNotes⟩
    · simp [hNone]
    · exact hNotes ▸ hP c hReachable

/-! ### What does not change the workers -/

theorem enqueue_eq (s : Schedule) (t : Task) : ∃ queue, s.enqueue t = { s with queue := queue } := by
  unfold enqueue
  split
  · exact ⟨s.queue, rfl⟩
  · exact ⟨_, rfl⟩

theorem wake_eq (s : Schedule) (t : Task) : ∃ queue, s.wake t = { s with queue := queue } := by
  unfold wake
  split
  · split
    · exact enqueue_eq s t
    · exact ⟨s.queue, rfl⟩
  · exact ⟨s.queue, rfl⟩

/-- Changes of the queue add up to a change of the queue. -/
theorem foldl_queue_eq {α : Type} {f : Schedule → α → Schedule}
    (hf : ∀ s a, ∃ queue, f s a = { s with queue := queue }) (l : List α) (s : Schedule) :
    ∃ queue, l.foldl f s = { s with queue := queue } := by
  induction l generalizing s with
  | nil => exact ⟨s.queue, rfl⟩
  | cons a l ih =>
      obtain ⟨queue, hQueue⟩ := hf s a
      obtain ⟨last, hLast⟩ := ih (f s a)
      refine ⟨last, ?_⟩
      rw [List.foldl_cons, hLast, hQueue]

theorem note_eq (s : Schedule) (worker : Nat) (crawl : String) (n : Note) :
    ∃ visits deliveries, s.note worker crawl n =
      { s with
        records := ⟨s.now, .ofWorker worker n⟩ :: s.records
        visits := visits
        deliveries := deliveries } := by
  cases n with
  | fetch seq => exact ⟨_, _, rfl⟩
  | send seq sender text => exact ⟨_, _, rfl⟩
  | event seq e => exact ⟨_, _, rfl⟩
  | notice n => exact ⟨_, _, rfl⟩

theorem foldl_note_eq (worker : Nat) (crawl : String) (notes : List Note) (s : Schedule) :
    ∃ visits deliveries, notes.foldl (fun s n => s.note worker crawl n) s =
      { s with
        records := (notes.map fun n => ⟨s.now, .ofWorker worker n⟩).reverse ++ s.records
        visits := visits
        deliveries := deliveries } := by
  induction notes generalizing s with
  | nil => exact ⟨_, _, rfl⟩
  | cons n notes ih =>
      obtain ⟨visits, deliveries, hNote⟩ := note_eq s worker crawl n
      obtain ⟨visits', deliveries', hLast⟩ := ih (s.note worker crawl n)
      refine ⟨visits', deliveries', ?_⟩
      rw [List.foldl_cons, hLast, hNote]
      simp

/-- Timers that are set go off later. -/
theorem ahead_retime {s : Schedule} {least : Nat} (h : s.Ahead least) (hLeast : least ≤ s.now + 1)
    (t : Task) (before after : List Nat) : (s.retime t before after).Ahead least := by
  unfold retime
  split_ifs
  · intro timer hTimer
    rcases List.mem_append.1 hTimer with hOld | hNew
    · exact h timer hOld
    · obtain ⟨due, hDue, rfl⟩ := List.mem_map.1 hNew
      have hLater : s.now < due := by simpa using (List.mem_filter.1 hDue).2
      exact Nat.le_trans hLeast hLater
  · exact fun timer hTimer => h timer ((List.mem_filter.1 hTimer).1)
  · exact h

theorem retime_eq (s : Schedule) (t : Task) (before after : List Nat) :
    ∃ timers, s.retime t before after = { s with timers := timers } := by
  unfold retime
  split_ifs
  · exact ⟨_, rfl⟩
  · exact ⟨_, rfl⟩
  · exact ⟨s.timers, rfl⟩

/-! ### What happens to one worker -/

variable {w : World} {s after : Schedule} {i : Nat} {p : Plan} {old phase : Phase}

theorem notesOf_told (now worker : Nat) (told : List Note) :
    (told.map fun n => Record.mk now (.ofWorker i n)).filterMap (fun r => r.sight.noteOf? worker) =
      if i = worker then told else [] := by
  rw [List.filterMap_map]
  by_cases hEq : i = worker
  · simp [Function.comp_def, Sight.noteOf?, hEq]
  · simp [Sight.noteOf?, hEq]

/-- When one worker goes on along its course, the others stay where they are. -/
theorem Tracks.set (told : List Note) (h : s.Tracks w) (hWorker : s.workers[i]? = some ⟨p, old⟩)
    (hNew : Worker.Tracks w s.now (s.notesOf i ++ told) ⟨p, phase⟩) (hNow : after.now = s.now)
    (hWorkers : after.workers = (s.setPhase i phase).workers)
    (hRecords : after.records = (told.map fun n => ⟨s.now, .ofWorker i n⟩).reverse ++ s.records) :
    after.Tracks w := by
  intro j worker hj
  have hNotes : after.notesOf j = s.notesOf j ++ if i = j then told else [] := by
    rw [notesOf, hRecords, List.reverse_append, List.reverse_reverse, List.filterMap_append,
      notesOf_told, notesOf]
  rw [hWorkers, setPhase, List.getElem?_modify] at hj
  rw [hNow, hNotes]
  by_cases hEq : i = j
  · subst hEq
    simp only [hWorker, Option.map_eq_map, Option.map_some, Option.some.injEq] at hj
    rw [if_pos rfl, ← hj]
    exact hNew
  · simp only [if_neg hEq, Option.map_eq_map, Option.map_id'] at hj
    rw [if_neg hEq, List.append_nil]
    exact h j worker hj

theorem allows_nextDeliveries (w : World) (s : Schedule) (p : Plan) (seq : Nat) :
    (w.setting p).Allows (nextDeliveries w s p.name seq) := by
  intro text
  refine ⟨by simp [nextDeliveries, World.setting], fun d hd => ?_⟩
  obtain ⟨sender, _, rfl⟩ := List.mem_map.1 hd
  exact ⟨_, _, _, rfl⟩

/-- A turn that is taken is a step of one worker's course. -/
theorem Tracks.takeTurn {t : Task} {least : Nat} (h : s.Tracks w) (hAhead : s.Ahead least)
    (hLeast : least ≤ s.now + 1) (hTurn : s.takeTurn w t = some after) :
    after.Tracks w ∧ after.Ahead least ∧ after.now = s.now := by
  unfold Schedule.takeTurn at hTurn
  split at hTurn
  · rename_i p g hWorker
    simp only at hTurn
    split at hTurn
    · cases hTurn
    · rename_i next told hNext
      have hSteps := (h t.worker _ hWorker).turn (allows_nextDeliveries w s p g.nextDispatched) hNext
      obtain ⟨visits, deliveries, hTold⟩ :=
        foldl_note_eq t.worker p.name told (s.setPhase t.worker (.running next))
      rw [hTold] at hTurn
      -- What follows sets timers and wakes stages, which leaves the workers as they are.
      generalize hSeen : Schedule.mk _ _ _ _ _ _ _ = seen at hTurn
      have hRetimed : (seen.retime t (g.dues t.stage) (next.dues t.stage)).Ahead least := by
        subst hSeen
        refine ahead_retime ?_ ?_ _ _ _
        · exact hAhead
        · exact hLeast
      obtain ⟨timers, hTimers⟩ := retime_eq seen t (g.dues t.stage) (next.dues t.stage)
      obtain ⟨queue, hQueue⟩ := foldl_queue_eq (fun s stage => wake_eq s ⟨t.worker, stage⟩)
        (neighbours t.stage) (seen.retime t (g.dues t.stage) (next.dues t.stage))
      rw [hQueue] at hTurn
      cases hTurn
      refine ⟨h.set told hWorker hSteps ?_ ?_ ?_, hRetimed, ?_⟩
      · rw [hTimers, ← hSeen]
        rfl
      · rw [hTimers, ← hSeen]
      · rw [hTimers, ← hSeen]
        rfl
      · rw [hTimers, ← hSeen]
        rfl
  · cases hTurn

theorem Tracks.settle {least : Nat} (h : s.Tracks w) (hAhead : s.Ahead least)
    (hLeast : least ≤ s.now + 1) (bound : Nat) :
    (s.settle w bound).Tracks w ∧ (s.settle w bound).Ahead least ∧ (s.settle w bound).now = s.now := by
  induction bound generalizing s with
  | zero => exact ⟨h, hAhead, rfl⟩
  | succ bound ih =>
      unfold Schedule.settle
      split
      · exact ⟨h, hAhead, rfl⟩
      · rename_i next hNext
        unfold next? at hNext
        split at hNext
        · cases hNext
        · rename_i t rest _
          split at hNext
          · rename_i taken hTurn
            cases hNext
            obtain ⟨hTracks, hStill, hNow⟩ := h.takeTurn hAhead hLeast hTurn
            rw [← hNow] at hLeast ⊢
            exact ih hTracks hStill hLeast
          · cases hNext
            exact ih (s := { s with queue := rest }) h hAhead hLeast

theorem passTo_eq (s : Schedule) (time : Nat) : ∃ queue, s.passTo time =
    { s with now := time, timers := s.timers.filter fun timer => time < timer.1, queue := queue } := by
  have hLater : (s.timers.filter fun timer => time < timer.1) =
      s.timers.filter (not ∘ fun timer => decide (timer.1 ≤ time)) := by
    congr 1
    funext timer
    rw [Function.comp_apply, ← decide_not, decide_eq_decide, Nat.not_le]
  have hFold : s.passTo time = (s.timers.filter fun timer => decide (timer.1 ≤ time)).foldl
      (fun s timer => s.enqueue timer.2)
      { s with now := time, timers := s.timers.filter fun timer => time < timer.1 } := by
    rw [hLater]
    unfold passTo
    rw [List.partition_eq_filter_filter]
  rw [hFold]
  exact foldl_queue_eq (fun s (timer : Nat × Task) => enqueue_eq s timer.2) _ _

theorem Tracks.moveTo (h : s.Tracks w) {time : Nat} (hTime : s.now ≤ time) :
    Tracks w { s with now := time } :=
  fun i worker hi => (h i worker hi).later hTime

theorem Tracks.passTo (h : s.Tracks w) {time : Nat} (hTime : s.now ≤ time) :
    (s.passTo time).Tracks w ∧ (s.passTo time).Ahead (time + 1) ∧ (s.passTo time).now = time := by
  obtain ⟨queue, hQueue⟩ := passTo_eq s time
  rw [hQueue]
  refine ⟨h.moveTo hTime, fun timer hTimer => ?_, rfl⟩
  exact of_decide_eq_true (List.mem_filter.1 hTimer).2

theorem nextDue_eq {due : Nat} (h : s.nextDue? = some due) :
    (∃ t, (due, t) ∈ s.timers) ∧ s.Ahead due := by
  obtain ⟨hMem, hLeast⟩ := List.min?_eq_some_iff.1 h
  obtain ⟨⟨_, t⟩, hTimer, rfl⟩ := List.mem_map.1 hMem
  exact ⟨⟨t, hTimer⟩, fun timer ht => hLeast _ (List.mem_map_of_mem ht)⟩

/-- Time never passes beyond a timer that is still to go off: the bound is large enough for all
instants before the last one. -/
theorem Tracks.advanceTo {target bound : Nat} (h : s.Tracks w) (hTarget : s.now ≤ target)
    (hBound : s.Ahead s.now ∧ target < s.now + bound ∨ s.Ahead (s.now + 1) ∧ target ≤ s.now + bound) :
    (s.advanceTo w target bound).Tracks w ∧ (s.advanceTo w target bound).Ahead target ∧
      (s.advanceTo w target bound).now = target := by
  induction bound generalizing s with
  | zero =>
      obtain ⟨_, hLess⟩ | ⟨hAhead, hLess⟩ := hBound
      · omega
      · refine ⟨h.moveTo hTarget, fun timer ht => ?_, rfl⟩
        have hTimer := hAhead timer ht
        omega
  | succ bound ih =>
      obtain ⟨least, hAhead, hNow, hLeast, hEnough⟩ : ∃ least, s.Ahead least ∧ s.now ≤ least ∧
          least ≤ s.now + 1 ∧ target ≤ least + bound := by
        rcases hBound with ⟨hAhead, hLess⟩ | ⟨hAhead, hLess⟩
        · exact ⟨s.now, hAhead, Nat.le_refl _, by omega, by omega⟩
        · exact ⟨s.now + 1, hAhead, by omega, Nat.le_refl _, by omega⟩
      obtain ⟨hTracks, hStill, hSame⟩ := h.settle hAhead hLeast s.instantBound
      unfold Schedule.advanceTo
      simp only
      split
      · rename_i due hDue
        obtain ⟨⟨t, hTimer⟩, hFirst⟩ := nextDue_eq hDue
        have hNext : least ≤ due := hStill _ hTimer
        split_ifs with hBefore
        · have hTime : (s.settle w s.instantBound).now ≤ due := by omega
          obtain ⟨hPassed, hLater, hThen⟩ := hTracks.passTo hTime
          refine ih hPassed (by omega) (.inr ⟨?_, by omega⟩)
          rw [hThen]
          exact hLater
        · refine ⟨hTracks.moveTo (by omega), fun timer ht => ?_, rfl⟩
          exact Nat.le_trans (Nat.not_lt.1 hBefore) (hFirst timer ht)
      · rename_i hNone
        have hEmpty : (s.settle w s.instantBound).timers = [] := by
          simpa [nextDue?] using hNone
        refine ⟨hTracks.moveTo (by omega), fun timer ht => ?_, rfl⟩
        simp [hEmpty] at ht

/-- A drain ends at an instant that is not before it began. -/
theorem Tracks.drain (h : s.Tracks w) (hAhead : s.Ahead s.now) (bound : Nat) :
    (s.drain w bound).Tracks w ∧ (s.drain w bound).Ahead (s.drain w bound).now := by
  induction bound generalizing s with
  | zero => exact ⟨h, hAhead⟩
  | succ bound ih =>
      obtain ⟨hTracks, hStill, hSame⟩ := h.settle hAhead (Nat.le_succ _) s.instantBound
      rw [← hSame] at hStill
      unfold Schedule.drain
      simp only
      split_ifs
      · exact ⟨hTracks, hStill⟩
      · split
        · rename_i due hDue
          obtain ⟨⟨t, hTimer⟩, _⟩ := nextDue_eq hDue
          obtain ⟨hPassed, hLater, hThen⟩ := hTracks.passTo (hStill _ hTimer)
          refine ih hPassed fun timer ht => ?_
          rw [hThen]
          exact Nat.le_of_succ_le (hLater timer ht)
        · exact ⟨hTracks, hStill⟩

/-! ### Commands -/

/-- What a change that takes no time leaves as it is. -/
structure Keeps (w : World) (s after : Schedule) : Prop where
  tracks : after.Tracks w
  now : after.now = s.now
  timers : after.timers = s.timers

theorem Keeps.foldl {α : Type} {f : Schedule → α → Schedule}
    (hf : ∀ s a, s.Tracks w → Keeps w s (f s a)) (l : List α) (h : s.Tracks w) :
    Keeps w s (l.foldl f s) := by
  induction l generalizing s with
  | nil => exact ⟨h, rfl, rfl⟩
  | cons a l ih =>
      have hFirst := hf s a h
      have hRest := ih hFirst.tracks
      exact ⟨hRest.tracks, hRest.now.trans hFirst.now, hRest.timers.trans hFirst.timers⟩

theorem Keeps.see {sight : Sight} (h : Keeps w s after)
    (hSight : ∀ worker, sight.noteOf? worker = none) :
    Keeps w s (after.see sight) := by
  refine ⟨fun i worker hi => ?_, h.now, h.timers⟩
  have hNotes : (after.see sight).notesOf i = after.notesOf i := by
    simp [notesOf, Schedule.see, hSight]
  rw [hNotes]
  exact h.tracks i worker hi

theorem keeps_start (h : s.Tracks w) : Keeps w s s.start := by
  refine Keeps.see (Keeps.foldl (fun s i h => ?_) _ h) fun _ => rfl
  split
  · rename_i p hWorker
    obtain ⟨queue, hQueue⟩ := foldl_queue_eq (fun s stage => enqueue_eq s ⟨i, stage⟩)
      [Stage.dispatch, .evaluate, .fetch, .trigger] (s.setPhase i (.running {}))
    obtain ⟨visits, deliveries, hNote⟩ :=
      note_eq { s.setPhase i (.running {}) with queue := queue } i p.name (.notice .started)
    have hNone : s.notesOf i = [] := h i _ hWorker
    simp only
    rw [hQueue, hNote]
    refine ⟨h.set [.notice .started] hWorker ?_ rfl rfl rfl, rfl, rfl⟩
    rw [hNone]
    exact Worker.tracks_started
  · exact ⟨h, rfl, rfl⟩

theorem keeps_cancel (h : s.Tracks w) : Keeps w s s.cancel := by
  refine Keeps.foldl (fun s i h => ?_) _ h
  split
  · rename_i p g hWorker
    obtain ⟨first, hFirst⟩ := wake_eq (s.setPhase i (.running { g with cancelled := true })) ⟨i, .fetch⟩
    obtain ⟨queue, hQueue⟩ := wake_eq
      { s.setPhase i (.running { g with cancelled := true }) with queue := first } ⟨i, .trigger⟩
    simp only
    rw [hFirst, hQueue]
    refine ⟨h.set [] hWorker ?_ rfl rfl rfl, rfl, rfl⟩
    rw [List.append_nil]
    exact (h i _ hWorker).cancel
  · rename_i hIdle
    cases hWorker : s.workers[i]? with
    | none =>
        have hSame : s.setPhase i .ended = s := by
          rw [setPhase, List.modify_eq_self (List.getElem?_eq_none_iff.1 hWorker)]
        rw [hSame]
        exact ⟨h, rfl, rfl⟩
    | some worker =>
        refine ⟨h.set [] hWorker ?_ rfl rfl rfl, rfl, rfl⟩
        rw [List.append_nil]
        refine (h i _ hWorker).end fun g hRunning => hIdle worker.plan g ?_
        rw [hWorker, ← hRunning]

theorem keeps_finish (h : s.Tracks w) : Keeps w s s.finish := by
  refine Keeps.see (Keeps.foldl (fun s i h => ?_) _ h) fun _ => rfl
  split
  · rename_i p g hWorker
    split_ifs with hStopped
    · obtain ⟨visits, deliveries, hNote⟩ := note_eq (s.setPhase i .ended) i p.name (.notice .stopped)
      rw [hNote]
      exact ⟨h.set [.notice .stopped] hWorker ((h i _ hWorker).finish hStopped) rfl rfl rfl, rfl, rfl⟩
    · exact ⟨h, rfl, rfl⟩
  · exact ⟨h, rfl, rfl⟩

theorem Keeps.ahead (h : Keeps w s after) (hAhead : s.Ahead s.now) : after.Ahead after.now := by
  unfold Ahead
  rw [h.timers, h.now]
  exact hAhead

/-- Whatever a schedule is told to do, its workers go on along their courses. -/
theorem Tracks.perform (h : s.Tracks w) (hAhead : s.Ahead s.now) (command : Command) :
    (s.perform w command).Tracks w ∧ (s.perform w command).Ahead (s.perform w command).now := by
  cases command with
  | run =>
      have hStart := keeps_start h
      exact ⟨hStart.tracks, hStart.ahead hAhead⟩
  | advance ms =>
      have hBound : s.Ahead s.now ∧ s.now + ms < s.now + (ms + 1) := ⟨hAhead, by omega⟩
      obtain ⟨hTracks, hLater, hNow⟩ := h.advanceTo (Nat.le_add_right s.now ms) (.inl hBound)
      have hThen : (s.perform w (.advance ms)).now = s.now + ms := hNow
      refine ⟨hTracks, ?_⟩
      rw [hThen]
      exact hLater
  | shutdown =>
      have hCancel := keeps_cancel h
      obtain ⟨hDrained, hDrainedAhead⟩ :=
        hCancel.tracks.drain (hCancel.ahead hAhead) (drainBound w s.cancel)
      have hFinish := keeps_finish hDrained
      exact ⟨hFinish.tracks, hFinish.ahead hDrainedAhead⟩

theorem tracks_ofPlans (w : World) (plans : List Plan) : (ofPlans plans).Tracks w := by
  intro i worker hi
  simp only [ofPlans, List.getElem?_map] at hi
  obtain ⟨p, _, rfl⟩ := Option.map_eq_some_iff.1 hi
  rfl

/-- In every run of all workers together, whatever the commands and however the world answers, each
worker is on a course that its group can take from its start. -/
theorem tracks_of_commands (w : World) (plans : List Plan) (commands : List Command) :
    (commands.foldl (perform w) (ofPlans plans)).Tracks w := by
  have hRun : ∀ s : Schedule, s.Tracks w → s.Ahead s.now → (commands.foldl (perform w) s).Tracks w := by
    induction commands with
    | nil => exact fun _ h _ => h
    | cons command commands ih =>
        intro s h hAhead
        obtain ⟨hNext, hNextAhead⟩ := h.perform hAhead command
        exact ih _ hNext hNextAhead
  exact hRun _ (tracks_ofPlans w plans) fun _ hTimer => nomatch hTimer

end Schedule

end Lookout.Pipeline
