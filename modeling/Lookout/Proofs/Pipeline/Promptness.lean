import Lookout.Proofs.Pipeline.Wakeups
import Mathlib.Tactic.ByContra
/-!
A schedule forgets no stage. Each stage that can go on stands in the queue or has a timer that has
gone off, and each stage that waits for a time has a timer for it. So when the queue is empty nothing
can go on until the next timer goes off.
-/
namespace Lookout.Pipeline

namespace Schedule
variable {w : World} {s after : Schedule} {i : Nat} {stage : Stage} {p : Plan} {g next : Group}
  {told : List Note}

/-- Whether each stage that can go on stands in the queue or has a timer that goes off by now, and
each stage that waits for a time has a timer for it. -/
structure Mindful (s : Schedule) : Prop where
  queued : ∀ i p g stage, s.workers[i]? = some ⟨p, .running g⟩ → g.canTurn stage s.now = true →
    ⟨i, stage⟩ ∈ s.queue ∨ ∃ due ≤ s.now, (due, ⟨i, stage⟩) ∈ s.timers
  timed : ∀ i p g stage, s.workers[i]? = some ⟨p, .running g⟩ → ∀ due ∈ g.dues stage, s.now < due →
    (due, ⟨i, stage⟩) ∈ s.timers

/-- Whether nothing stands twice in the queue and nothing is kept of a worker that is not there. -/
structure Tidy (s : Schedule) : Prop where
  nodup : s.queue.Nodup
  known : ∀ t ∈ s.queue, t.worker < s.workers.length
  timers : ∀ timer ∈ s.timers, timer.2.worker < s.workers.length

/-- Whether a schedule can be relied on: its workers are on their courses, no timer is late, and no
stage is forgotten. -/
structure Prompt (w : World) (s : Schedule) : Prop where
  tracks : s.Tracks w
  ahead : s.Ahead s.now
  mindful : s.Mindful
  tidy : s.Tidy

/-- What a turn leaves of the timers and of the queue. -/
theorem takeTurn_woken (hWorker : s.workers[i]? = some ⟨p, .running g⟩)
    (hGroup : g.turn p stage s.now (w.visit p.name (countOf s.visits p.name))
      (nextDeliveries w s p.name g.nextDispatched) = some (next, told))
    (hTurn : s.takeTurn w ⟨i, stage⟩ = some after) :
    after.timers = (s.retime ⟨i, stage⟩ (g.dues stage) (next.dues stage)).timers ∧
      Woken s.now i next (neighbours stage) s.queue after.queue := by
  obtain ⟨visits, deliveries, hTold⟩ := foldl_note_eq i p.name told (s.setPhase i (.running next))
  have hAfter := (takeTurn_eq hWorker hGroup).symm.trans hTurn
  rw [hTold] at hAfter
  generalize hSeen : Schedule.mk _ _ _ _ _ _ _ = seen at hAfter
  have hTimers : (seen.retime ⟨i, stage⟩ (g.dues stage) (next.dues stage)).timers =
      (s.retime ⟨i, stage⟩ (g.dues stage) (next.dues stage)).timers := by
    subst hSeen
    unfold retime
    split_ifs <;> rfl
  obtain ⟨timers, hRetimed⟩ := retime_eq seen ⟨i, stage⟩ (g.dues stage) (next.dues stage)
  have hRunning : (seen.retime ⟨i, stage⟩ (g.dues stage) (next.dues stage)).group? i = some next := by
    rw [hRetimed, ← hSeen]
    simp [group?, setPhase, hWorker]
  obtain ⟨queue, hQueue, hWoken⟩ := foldl_wake hRunning (neighbours stage)
  rw [hQueue] at hAfter
  cases hAfter
  refine ⟨hTimers, ?_⟩
  rw [hRetimed, ← hSeen] at hWoken
  exact hWoken

theorem Tidy.takeTurn (h : s.Tidy) (hTurn : s.takeTurn w ⟨i, stage⟩ = some after) :
    after.Tidy ∧ after.queue.length ≤ s.queue.length + 2 := by
  obtain ⟨p, g, next, told, hWorker, hGroup, hTakes⟩ := turn_of_takeTurn hTurn
  obtain ⟨hTimers, hWoken⟩ := takeTurn_woken hWorker hGroup hTurn
  have hLength : after.workers.length = s.workers.length := by
    rw [hTakes.workers, length_setPhase]
  have hThere : i < s.workers.length := (List.getElem?_eq_some_iff.1 hWorker).1
  have hTwo : (neighbours stage).length ≤ 2 := by cases stage <;> decide
  refine ⟨⟨hWoken.nodup h.nodup, fun t ht => ?_, fun timer hTimer => ?_⟩,
    Nat.le_trans hWoken.length (Nat.add_le_add_left hTwo _)⟩
  · rw [hLength]
    rcases hWoken.only t ht with hOld | rfl
    · exact h.known t hOld
    · exact hThere
  · rw [hLength]
    rw [hTimers] at hTimer
    rcases worker_of_mem_retime hTimer with hOld | hNew
    · exact h.timers timer hOld
    · rw [hNew]
      exact hThere

/-- A turn of a stage in the queue wakes the stages beside it. -/
theorem Mindful.takeTurn (h : s.Mindful) (hHead : ⟨i, stage⟩ ∈ s.queue)
    (hTurn : s.takeTurn w ⟨i, stage⟩ = some after) : after.Mindful := by
  obtain ⟨p, g, next, told, hWorker, hGroup, hTakes⟩ := turn_of_takeTurn hTurn
  obtain ⟨hTimers, hWoken⟩ := takeTurn_woken hWorker hGroup hTurn
  have hOwn : after.workers[i]? = some ⟨p, .running next⟩ :=
    hTakes.workers ▸ setPhase_self hWorker _
  have hOther (j : Nat) (hj : i ≠ j) : after.workers[j]? = s.workers[j]? :=
    hTakes.workers ▸ setPhase_other hj s _
  have hKept (timer : Nat × Task) (hTimer : timer ∈ s.timers) (hne : timer.2 ≠ ⟨i, stage⟩) :
      timer ∈ after.timers := hTimers ▸ mem_retime_of_ne hTimer hne _ _
  constructor
  · intro j q g' other hj hCan
    rw [hTakes.now] at hCan ⊢
    have hStill (hOld : ⟨j, other⟩ ∈ s.queue ∨ ∃ due ≤ s.now, (due, ⟨j, other⟩) ∈ s.timers)
        (hne : (⟨j, other⟩ : Task) ≠ ⟨i, stage⟩) :
        ⟨j, other⟩ ∈ after.queue ∨ ∃ due ≤ s.now, (due, ⟨j, other⟩) ∈ after.timers := by
      rcases hOld with hQueue | ⟨due, hDue, hTimer⟩
      · exact .inl (hWoken.keeps _ hQueue)
      · exact .inr ⟨due, hDue, hKept _ hTimer hne⟩
    by_cases hji : i = j
    · -- The stage itself stays in the queue; of the others only those beside it change.
      subst hji
      cases hOwn.symm.trans hj
      by_cases hSame : other = stage
      · exact .inl (hWoken.keeps _ (hSame ▸ hHead))
      · by_cases hBeside : other ∈ neighbours stage
        · exact .inl (hWoken.wakes other hBeside hCan)
        · rw [Group.canTurn_of_far hGroup hSame hBeside] at hCan
          exact hStill (h.queued i p g other hWorker hCan) (by simpa using hSame)
    · rw [hOther j hji] at hj
      exact hStill (h.queued j q g' other hj hCan) (by simp [Ne.symm hji])
  · intro j q g' other hj due hDue hLater
    rw [hTakes.now] at hLater
    by_cases hji : i = j
    · subst hji
      cases hOwn.symm.trans hj
      by_cases hSame : other = stage
      · subst hSame
        rw [hTimers]
        exact mem_retime hDue hLater (fun hBefore => h.timed i p g other hWorker due hBefore hLater)
          (Group.dues_of_turn hGroup hDue)
      · rw [Group.dues_of_other hGroup hSame] at hDue
        exact hKept _ (h.timed i p g other hWorker due hDue hLater) (by simpa using hSame)
    · rw [hOther j hji] at hj
      exact hKept _ (h.timed j q g' other hj due hDue hLater) (by simp [Ne.symm hji])

theorem Prompt.takeTurn (h : s.Prompt w) (hHead : ⟨i, stage⟩ ∈ s.queue)
    (hTurn : s.takeTurn w ⟨i, stage⟩ = some after) : after.Prompt w := by
  obtain ⟨hTracks, hAhead, hNow⟩ := h.tracks.takeTurn h.ahead (Nat.le_succ _) hTurn
  exact ⟨hTracks, hNow ▸ hAhead, h.mindful.takeTurn hHead hTurn, (h.tidy.takeTurn hTurn).1⟩

/-- A stage that can do nothing leaves the queue. -/
theorem Prompt.drop {rest : List Task} (h : s.Prompt w) (hQueue : s.queue = ⟨i, stage⟩ :: rest)
    (hNone : s.takeTurn w ⟨i, stage⟩ = none) : Prompt w { s with queue := rest } := by
  have hNodup := h.tidy.nodup
  rw [hQueue, List.nodup_cons] at hNodup
  refine ⟨h.tracks, h.ahead, ⟨?_, h.mindful.timed⟩, ⟨hNodup.2, fun t ht => ?_, h.tidy.timers⟩⟩
  · intro j p g other hj hCan
    rcases h.mindful.queued j p g other hj hCan with hTask | hTimer
    · rw [hQueue] at hTask
      rcases List.mem_cons.1 hTask with hHead | hRest
      · cases hHead
        rw [Group.canTurn_eq_isSome p stage s.now (w.visit p.name (countOf s.visits p.name))
          (nextDeliveries w s p.name g.nextDispatched), Option.isSome_iff_exists] at hCan
        obtain ⟨⟨next, told⟩, hTurn⟩ := hCan
        obtain ⟨_, hTaken, _⟩ := takeTurn_of_turn (s := s) hj hTurn
        cases hNone.symm.trans hTaken
      · exact .inl hRest
    · exact .inr hTimer
  · exact h.tidy.known t (hQueue ▸ List.mem_cons_of_mem _ ht)

/-! ### The next instant -/

/-- As long as no timer goes off, nothing can go on. -/
theorem Prompt.atRest (h : s.Prompt w) (hQueue : s.queue = []) {least time : Nat}
    (hAhead : s.Ahead least) (hNow : s.now ≤ time) (hTime : time < least) :
    AtRest { s with now := time } := by
  rintro ⟨p, phase⟩ hOwn g rfl stage
  obtain ⟨i, hWorker⟩ := List.mem_iff_getElem?.1 hOwn
  by_contra hCan
  rcases Group.canTurn_of_later s.now (eq_true_of_ne_false hCan) with hAlready | hDue
  · rcases h.mindful.queued i p g stage hWorker hAlready with hTask | ⟨due, hDue, hTimer⟩
    · simp [hQueue] at hTask
    · have hLeast : least ≤ due := hAhead _ hTimer
      omega
  · obtain ⟨due, hMem, hLater, hBefore⟩ := hDue
    have hLeast : least ≤ due := hAhead _ (h.mindful.timed i p g stage hWorker due hMem hLater)
    exact absurd (Nat.le_trans hLeast hBefore) (Nat.not_le_of_lt hTime)

theorem Mindful.moveTo (h : s.Mindful) {time : Nat} (hTime : s.now ≤ time) :
    Mindful { s with now := time } := by
  constructor
  · intro i p g stage hWorker hCan
    rcases Group.canTurn_of_later s.now hCan with hAlready | ⟨due, hMem, hLater, hBefore⟩
    · rcases h.queued i p g stage hWorker hAlready with hTask | ⟨due, hDue, hTimer⟩
      · exact .inl hTask
      · exact .inr ⟨due, Nat.le_trans hDue hTime, hTimer⟩
    · exact .inr ⟨due, hBefore, h.timed i p g stage hWorker due hMem hLater⟩
  · exact fun i p g stage hWorker due hMem hLater =>
      h.timed i p g stage hWorker due hMem (Nat.lt_of_le_of_lt hTime hLater)

theorem foldl_enqueue {α : Type} (task : α → Task) (l : List α) (s : Schedule) :
    ∃ queue, l.foldl (fun s a => s.enqueue (task a)) s = { s with queue := queue } ∧
      (∀ t, t ∈ queue ↔ t ∈ s.queue ∨ t ∈ l.map task) ∧ (s.queue.Nodup → queue.Nodup) := by
  induction l generalizing s with
  | nil => exact ⟨s.queue, rfl, by simp, id⟩
  | cons a l ih =>
      obtain ⟨first, hFirst, hFirstMem, hFirstNodup, _⟩ := enqueue_spec s (task a)
      obtain ⟨queue, hRest, hMem, hNodup⟩ := ih { s with queue := first }
      refine ⟨queue, by rw [List.foldl_cons, hFirst, hRest], fun t => ?_, fun h => hNodup (hFirstNodup h)⟩
      rw [hMem, hFirstMem, List.map_cons, List.mem_cons, or_assoc]

/-- The stages whose time has come stand in the queue. -/
theorem passTo_spec (s : Schedule) (time : Nat) :
    ∃ queue, s.passTo time =
        { s with now := time, timers := s.timers.filter fun timer => time < timer.1, queue := queue } ∧
      (∀ t, t ∈ queue ↔ t ∈ s.queue ∨ ∃ due ≤ time, (due, t) ∈ s.timers) ∧
      (s.queue.Nodup → queue.Nodup) := by
  have hLater : (s.timers.filter fun timer => time < timer.1) =
      s.timers.filter (not ∘ fun timer => decide (timer.1 ≤ time)) := by
    congr 1
    funext timer
    rw [Function.comp_apply, ← decide_not, decide_eq_decide, Nat.not_le]
  obtain ⟨queue, hQueue, hMem, hNodup⟩ := foldl_enqueue Prod.snd
    (s.timers.filter fun timer => decide (timer.1 ≤ time))
    { s with now := time, timers := s.timers.filter fun timer => time < timer.1 }
  refine ⟨queue, ?_, fun t => ?_, hNodup⟩
  · rw [← hQueue, hLater]
    unfold passTo
    rw [List.partition_eq_filter_filter]
  · rw [hMem]
    simp [and_comm]

theorem Prompt.passTo (h : s.Prompt w) {time : Nat} (hTime : s.now ≤ time) : (s.passTo time).Prompt w := by
  obtain ⟨hTracks, hAhead, hNow⟩ := h.tracks.passTo hTime
  have hMoved := h.mindful.moveTo hTime
  obtain ⟨queue, hPassed, hMem, hNodup⟩ := passTo_spec s time
  refine ⟨hTracks, fun timer hTimer => ?_, ?_, ?_⟩
  · rw [hNow]
    exact Nat.le_of_succ_le (hAhead timer hTimer)
  · rw [hPassed]
    constructor
    · intro i p g stage hWorker hCan
      exact .inl ((hMem _).2 (hMoved.queued i p g stage hWorker hCan))
    · intro i p g stage hWorker due hDue hLater
      refine List.mem_filter.2 ⟨hMoved.timed i p g stage hWorker due hDue hLater, ?_⟩
      simpa using hLater
  · rw [hPassed]
    refine ⟨hNodup h.tidy.nodup, fun t ht => ?_, fun timer hTimer => ?_⟩
    · rcases (hMem t).1 ht with hOld | ⟨due, _, hTimer⟩
      · exact h.tidy.known t hOld
      · exact h.tidy.timers _ hTimer
    · exact h.tidy.timers timer (List.mem_filter.1 hTimer).1

theorem Prompt.moveTo (h : s.Prompt w) {time : Nat} (hTime : s.now ≤ time) (hAhead : s.Ahead time) :
    Prompt w { s with now := time } :=
  ⟨h.tracks.moveTo hTime, hAhead, h.mindful.moveTo hTime, h.tidy.nodup, h.tidy.known, h.tidy.timers⟩

/-! ### The start -/

/-- A group that is started has all its stages in the queue. -/
theorem Begins.mindful (h : Begins s after i p) (hWorker : s.workers[i]? = some ⟨p, .ready⟩)
    (hQueue : ∀ t, t ∈ after.queue ↔ t ∈ s.queue ∨ t.worker = i) (hMindful : s.Mindful) :
    after.Mindful := by
  have hOwn : after.workers[i]? = some ⟨p, .running {}⟩ := h.workers ▸ setPhase_self hWorker _
  have hOther (j : Nat) (hj : i ≠ j) : after.workers[j]? = s.workers[j]? :=
    h.workers ▸ setPhase_other hj s _
  constructor
  · intro j q g other hj hCan
    rw [h.now] at hCan ⊢
    rw [h.timers, hQueue]
    by_cases hji : i = j
    · exact .inl (.inr hji.symm)
    · rw [hOther j hji] at hj
      exact (hMindful.queued j q g other hj hCan).imp_left .inl
  · intro j q g other hj due hDue hLater
    rw [h.now] at hLater
    rw [h.timers]
    by_cases hji : i = j
    · subst hji
      cases hOwn.symm.trans hj
      cases other <;> simp [Group.dues] at hDue
    · rw [hOther j hji] at hj
      exact hMindful.timed j q g other hj due hDue hLater

theorem Begins.tidy (h : Begins s after i p) (hWorker : s.workers[i]? = some ⟨p, .ready⟩)
    (hQueue : ∀ t, t ∈ after.queue ↔ t ∈ s.queue ∨ t.worker = i) (hNodup : after.queue.Nodup)
    (hTidy : s.Tidy) : after.Tidy := by
  have hLength : after.workers.length = s.workers.length := by rw [h.workers, length_setPhase]
  refine ⟨hNodup, fun t ht => ?_, fun timer hTimer => ?_⟩
  · rw [hLength]
    rcases (hQueue t).1 ht with hOld | rfl
    · exact hTidy.known t hOld
    · exact (List.getElem?_eq_some_iff.1 hWorker).1
  · rw [hLength]
    exact hTidy.timers timer (h.timers ▸ hTimer)

theorem mem_allStages (worker : Nat) (t : Task) :
    t ∈ [Stage.dispatch, .evaluate, .fetch, .trigger].map (Task.mk worker) ↔ t.worker = worker := by
  obtain ⟨own, stage⟩ := t
  cases stage <;> simp

theorem Mindful.see (h : s.Mindful) (sight : Sight) : (s.see sight).Mindful := ⟨h.queued, h.timed⟩

theorem Tidy.see (h : s.Tidy) (sight : Sight) : (s.see sight).Tidy := ⟨h.nodup, h.known, h.timers⟩

theorem Prompt.start (h : s.Prompt w) : s.start.Prompt w := by
  have hKeeps := keeps_start h.tracks
  obtain ⟨hMindful, hTidy⟩ : s.start.Mindful ∧ s.start.Tidy := by
    refine (List.foldlRecOn (motive := fun s : Schedule => s.Mindful ∧ s.Tidy) _ _
      ⟨h.mindful, h.tidy⟩ ?_).imp (·.see _) (·.see _)
    intro s ⟨hMindful, hTidy⟩ i _
    simp only
    split
    · rename_i p hWorker
      have hBegins := begins_enqueued s i p [.dispatch, .evaluate, .fetch, .trigger]
      obtain ⟨queue, hQueue, hMem, hNodup⟩ := foldl_enqueue (Task.mk i)
        [.dispatch, .evaluate, .fetch, .trigger] (s.setPhase i (.running {}))
      rw [hQueue] at hBegins ⊢
      simp only [mem_allStages] at hMem
      exact ⟨hBegins.mindful hWorker hMem hMindful, hBegins.tidy hWorker hMem (hNodup hTidy.nodup) hTidy⟩
    · exact ⟨hMindful, hTidy⟩
  exact ⟨hKeeps.tracks, hKeeps.ahead h.ahead, hMindful, hTidy⟩

theorem prompt_ofPlans (w : World) (plans : List Plan) : (ofPlans plans).Prompt w := by
  have hReady {i : Nat} {p : Plan} {g : Group} : (ofPlans plans).workers[i]? ≠ some ⟨p, .running g⟩ := by
    simp [ofPlans]
  refine ⟨tracks_ofPlans w plans, ?_, ⟨?_, ?_⟩, ⟨.nil, ?_, ?_⟩⟩
  · exact fun _ hTimer => absurd hTimer List.not_mem_nil
  · exact fun _ _ _ _ hWorker => absurd hWorker hReady
  · exact fun _ _ _ _ hWorker => absurd hWorker hReady
  · exact fun _ hTask => absurd hTask List.not_mem_nil
  · exact fun _ hTimer => absurd hTimer List.not_mem_nil

end Schedule

end Lookout.Pipeline
