import Lookout.Proofs.Pipeline.Backlog
import Lookout.Proofs.Pipeline.Interleaving
import Lookout.Proofs.Pipeline.Promptness
import Mathlib.Data.List.Perm.Subperm
/-!
What a schedule does is one of the ways in which its groups can go on together. An instant ends when
no stage can do anything, since all that is left to do is worked off, and until the next timer goes
off nothing can be done. So each group waits for the others before time passes.
-/
namespace Lookout.Pipeline

namespace Schedule
variable {w : World} {s after : Schedule} {i : Nat} {stage : Stage} {p : Plan} {g : Group}
  {clock : Clock}

/-! ### Ways in which the groups go on together -/

/-- The schedule without what it keeps in mind. -/
def bare (s : Schedule) : Schedule := { s with queue := [], timers := [] }

/-- Whether the groups can come from one schedule to another by turns and by waiting for each other,
whatever stands in queues and timers. -/
def Reaches (w : World) (s after : Schedule) : Prop :=
  ∀ twin : Schedule, twin.bare = s.bare →
    ∃ twin', Relation.ReflTransGen (Step w .patient) twin twin' ∧ twin'.bare = after.bare

theorem eq_of_bare {twin : Schedule} (h : twin.bare = s.bare) :
    ∃ queue timers, twin = { s with queue := queue, timers := timers } := by
  obtain ⟨now, workers, queue, timers, visits, deliveries, records⟩ := twin
  simp only [bare, Schedule.mk.injEq, true_and] at h
  obtain ⟨rfl, rfl, rfl, rfl, rfl⟩ := h
  exact ⟨queue, timers, rfl⟩

theorem now_of_bare {twin : Schedule} (h : twin.bare = s.bare) : twin.now = s.now := by
  obtain ⟨_, _, rfl⟩ := eq_of_bare h
  rfl

theorem seenOf_of_bare {twin : Schedule} (h : twin.bare = s.bare) (worker : Nat) :
    twin.seenOf worker = s.seenOf worker := by
  obtain ⟨_, _, rfl⟩ := eq_of_bare h
  rfl

theorem Reaches.of_bare (h : after.bare = s.bare) : Reaches w s after :=
  fun twin hTwin => ⟨twin, .refl, hTwin.trans h.symm⟩

theorem Reaches.trans {mid : Schedule} (h : Reaches w s mid) (h' : Reaches w mid after) :
    Reaches w s after := by
  intro twin hTwin
  obtain ⟨twin', hFirst, hMid⟩ := h twin hTwin
  obtain ⟨last, hRest, hAfter⟩ := h' twin' hMid
  exact ⟨last, hFirst.trans hRest, hAfter⟩

theorem foldl_note_hints (worker : Nat) (crawl : String) (notes : List Note) (s : Schedule)
    (queue : List Task) (timers : List (Nat × Task)) :
    notes.foldl (fun s n => s.note worker crawl n) { s with queue := queue, timers := timers } =
      { notes.foldl (fun s n => s.note worker crawl n) s with queue := queue, timers := timers } := by
  induction notes generalizing s with
  | nil => rfl
  | cons n notes ih =>
      have hFirst : ({ s with queue := queue, timers := timers } : Schedule).note worker crawl n =
          { s.note worker crawl n with queue := queue, timers := timers } := by
        cases n <;> rfl
      rw [List.foldl_cons, List.foldl_cons, hFirst, ih]

/-- A turn leaves the same, whatever stands in the queue and in the timers. -/
theorem Reaches.takeTurn (h : s.takeTurn w ⟨i, stage⟩ = some after) : Reaches w s after := by
  intro twin hTwin
  obtain ⟨queue, timers, rfl⟩ := eq_of_bare hTwin
  obtain ⟨p, g, next, told, hWorker, hGroup, _⟩ := turn_of_takeTurn h
  have hAfter := (takeTurn_eq hWorker hGroup).symm.trans h
  have hTaken := takeTurn_eq (s := { s with queue := queue, timers := timers }) hWorker hGroup
  have hBare (seen : Schedule) : ((neighbours stage).foldl (fun s stage => s.wake ⟨i, stage⟩)
      (seen.retime ⟨i, stage⟩ (g.dues stage) (next.dues stage))).bare = seen.bare := by
    obtain ⟨timers, hTimers⟩ := retime_eq seen ⟨i, stage⟩ (g.dues stage) (next.dues stage)
    obtain ⟨queue, hQueue⟩ := foldl_queue_eq (fun s stage => wake_eq s ⟨i, stage⟩)
      (neighbours stage) (seen.retime ⟨i, stage⟩ (g.dues stage) (next.dues stage))
    rw [hQueue, hTimers]
    rfl
  refine ⟨_, .single (.turn hTaken), ?_⟩
  cases hAfter
  rw [hBare, hBare]
  exact (congrArg bare
    (foldl_note_hints i p.name told (s.setPhase i (.running next)) queue timers)).trans rfl

/-- Time passes while all groups are at rest. -/
theorem Reaches.wait {target : Nat} (hTarget : s.now ≤ target)
    (hRest : ∀ time, s.now ≤ time → time < target → AtRest { s with now := time }) :
    Reaches w s { s with now := target } := by
  intro twin hTwin
  obtain ⟨queue, timers, rfl⟩ := eq_of_bare hTwin
  refine ⟨{ s with now := target, queue := queue, timers := timers }, ?_, rfl⟩
  clear hTwin
  induction target, hTarget using Nat.le_induction with
  | base => exact .refl
  | succ target hTarget ih =>
      have hSteps := ih fun time hFrom hTo => hRest time hFrom (Nat.lt_succ_of_lt hTo)
      exact .tail hSteps (.pass fun _ => hRest target hTarget (Nat.lt_succ_self _))

/-- Whether a schedule that can be relied on goes on to another one in one of the ways in which its
groups can. -/
structure GoesOn (w : World) (s after : Schedule) : Prop where
  prompt : after.Prompt w
  plans : after.plans = s.plans
  reaches : Reaches w s after

theorem GoesOn.refl (h : s.Prompt w) : GoesOn w s s := ⟨h, rfl, .of_bare rfl⟩

theorem GoesOn.trans {mid : Schedule} (h : GoesOn w s mid) (h' : GoesOn w mid after) : GoesOn w s after :=
  ⟨h'.prompt, h'.plans.trans h.plans, h.reaches.trans h'.reaches⟩

/-! ### An instant -/

/-- A bound of what is left to do at an instant: each turn wakes at most two stages. -/
def agenda (s : Schedule) : Nat := 3 * s.unrest + s.queue.length

/-- When all intervals are positive, the queue is worked off. -/
theorem Prompt.settle (h : s.Prompt w) (hInterval : ∀ q ∈ s.plans, 0 < q.interval) {bound : Nat}
    (hBound : s.agenda ≤ bound) :
    GoesOn w s (s.settle w bound) ∧ (s.settle w bound).queue = [] ∧ (s.settle w bound).now = s.now := by
  induction bound generalizing s with
  | zero =>
      have hEmpty : s.queue.length = 0 := by
        unfold agenda at hBound
        omega
      exact ⟨.refl h, List.length_eq_zero_iff.1 hEmpty, rfl⟩
  | succ bound ih =>
      unfold Schedule.settle
      cases hQueue : s.queue with
      | nil =>
          have hDone : s.next? w = none := by simp only [next?, hQueue]
          rw [hDone]
          exact ⟨.refl h, hQueue, rfl⟩
      | cons t rest =>
          obtain ⟨i, stage⟩ := t
          cases hTurn : s.takeTurn w ⟨i, stage⟩ with
          | none =>
              have hNext : s.next? w = some { s with queue := rest } := by
                simp only [next?, hQueue, hTurn]
              have hSame : ({ s with queue := rest } : Schedule).unrest = s.unrest := rfl
              have hDropped : GoesOn w s { s with queue := rest } := ⟨h.drop hQueue hTurn, rfl, .of_bare rfl⟩
              simp only [agenda, hQueue, List.length_cons] at hBound
              obtain ⟨hRest, hEmpty, hNow⟩ :=
                ih hDropped.prompt hInterval (by simp only [agenda, hSame]; omega)
              simp only [hNext]
              exact ⟨hDropped.trans hRest, hEmpty, hNow⟩
          | some after =>
              have hNext : s.next? w = some after := by simp only [next?, hQueue, hTurn]
              have hHead : ⟨i, stage⟩ ∈ s.queue := hQueue ▸ List.mem_cons_self
              have hTaken : GoesOn w s after :=
                ⟨h.takeTurn hHead hTurn, plans_takeTurn hTurn, .takeTurn hTurn⟩
              have hLess := unrest_takeTurn (fun q hq => hInterval q (List.mem_of_getElem? hq)) hTurn
              have hLength := (h.tidy.takeTurn hTurn).2
              obtain ⟨hRest, hEmpty, hNow⟩ := ih hTaken.prompt (by rwa [hTaken.plans])
                (by unfold agenda at hBound ⊢; omega)
              simp only [hNext]
              exact ⟨hTaken.trans hRest, hEmpty, hNow.trans (now_takeTurn hTurn)⟩

theorem unrest_le (h : g.Fits) (now : Nat) : g.unrest now ≤ 49 := by
  have hTrigger : g.trigger.unrest now ≤ 13 := by
    cases g.trigger with
    | resting next due =>
        simp only [TriggerState.unrest]
        split <;> omega
    | _ => simp [TriggerState.unrest]
  have hFetch : g.fetch.unrest ≤ 9 := by cases g.fetch <;> simp [FetchState.unrest]
  have hEvaluate : g.evaluate.unrest ≤ 6 := by cases g.evaluate <;> simp [EvaluateState.unrest]
  have hDispatch : g.dispatch.unrest now ≤ 3 := by
    cases g.dispatch with
    | sending seq calls => exact DispatchState.unrest_sending_le now seq calls
    | _ => simp [DispatchState.unrest]
  have hToFetch : g.toFetch.length ≤ 1 := h.toFetch
  have hToEvaluate : g.toEvaluate.length ≤ 1 := h.toEvaluate
  have hToDispatch : g.toDispatch.length ≤ 1 := h.toDispatch
  unfold Group.unrest
  omega

theorem unrest_le_of_tracks {own : Worker} {now time : Nat} {notes : List Note}
    (h : own.Tracks w now notes) : own.unrest time ≤ 49 := by
  obtain ⟨p, phase⟩ := own
  cases phase with
  | running g =>
      obtain ⟨c, hReachable, rfl, _⟩ := h
      exact unrest_le hReachable.fits time
  | _ => exact Nat.zero_le _

/-- The turns of an instant never come near the bound for them. -/
theorem Prompt.agenda_le (h : s.Prompt w) : s.agenda ≤ s.instantBound := by
  have hUnrest : s.unrest ≤ s.workers.length * 49 := by
    have hEach : ∀ n ∈ s.workers.map (Worker.unrest s.now), n ≤ 49 := by
      intro n hn
      obtain ⟨own, hOwn, rfl⟩ := List.mem_map.1 hn
      obtain ⟨i, hi⟩ := List.mem_iff_getElem?.1 hOwn
      exact unrest_le_of_tracks (h.tracks i own hi)
    simpa [Schedule.unrest] using List.sum_le_card_nsmul _ 49 hEach
  have hQueue : s.queue.length ≤ s.workers.length * 4 := by
    have hTasks : s.queue ⊆ (List.range s.workers.length).flatMap fun i =>
        Stage.inOrder.map (Task.mk i) := by
      rintro ⟨i, stage⟩ ht
      have hStage : stage ∈ Stage.inOrder := by cases stage <;> decide
      simpa [hStage] using h.tidy.known _ ht
    have hLength := (h.tidy.nodup.subperm hTasks).length_le
    simpa [List.length_flatMap, Stage.inOrder] using hLength
  unfold agenda instantBound
  omega

/-! ### From one instant to the next -/

/-- When the queue is empty, time can pass until the next timer goes off. -/
theorem Prompt.wait (h : s.Prompt w) (hQueue : s.queue = []) {time : Nat} (hTime : s.now ≤ time)
    (hAhead : s.Ahead time) : GoesOn w s { s with now := time } :=
  ⟨h.moveTo hTime hAhead, rfl, .wait hTime fun _ hFrom hTo => h.atRest hQueue hAhead hFrom hTo⟩

theorem Prompt.next (h : s.Prompt w) (hQueue : s.queue = []) {due : Nat} (hTime : s.now ≤ due)
    (hAhead : s.Ahead due) : GoesOn w s (s.passTo due) := by
  obtain ⟨queue, hPassed⟩ := passTo_eq s due
  refine ⟨h.passTo hTime, ?_, (h.wait hQueue hTime hAhead).reaches.trans (.of_bare ?_)⟩
  · rw [hPassed]
    rfl
  · rw [hPassed]
    rfl

/-- Time passes from one instant to the next only while all groups are at rest. -/
theorem Prompt.advanceTo {target bound : Nat} (h : s.Prompt w)
    (hInterval : ∀ q ∈ s.plans, 0 < q.interval) (hTarget : s.now ≤ target)
    (hBound : target < s.now + bound ∨ s.Ahead (s.now + 1) ∧ target ≤ s.now + bound) :
    GoesOn w s (s.advanceTo w target bound) ∧ (s.advanceTo w target bound).now = target := by
  induction bound generalizing s with
  | zero =>
      obtain hLess | ⟨hAhead, hLess⟩ := hBound
      · omega
      · obtain rfl : s.now = target := by omega
        exact ⟨.refl h, rfl⟩
  | succ bound ih =>
      obtain ⟨least, hAhead, hLeast, hEnough⟩ : ∃ least, s.Ahead least ∧
          least ≤ s.now + 1 ∧ target ≤ least + bound := by
        rcases hBound with hLess | ⟨hAhead, hLess⟩
        · exact ⟨s.now, h.ahead, by omega, by omega⟩
        · exact ⟨s.now + 1, hAhead, Nat.le_refl _, by omega⟩
      obtain ⟨_, hStill, _⟩ := h.tracks.settle hAhead hLeast s.instantBound
      obtain ⟨hSettled, hEmpty, hNow⟩ := h.settle hInterval h.agenda_le
      have hReached (hAll : (s.settle w s.instantBound).Ahead target) :
          GoesOn w s { s.settle w s.instantBound with now := target } :=
        hSettled.trans (hSettled.prompt.wait hEmpty (hNow ▸ hTarget) hAll)
      unfold Schedule.advanceTo
      simp only
      split
      · rename_i due hDue
        obtain ⟨⟨t, hTimer⟩, hFirst⟩ := nextDue_eq hDue
        have hNext : least ≤ due := hStill _ hTimer
        have hLater : (s.settle w s.instantBound).now ≤ due := hSettled.prompt.ahead _ hTimer
        split_ifs with hBefore
        · have hPassed := hSettled.trans (hSettled.prompt.next hEmpty hLater hFirst)
          obtain ⟨_, hPassedAhead, hPassedNow⟩ := hSettled.prompt.tracks.passTo hLater
          obtain ⟨hRest, hThen⟩ := ih hPassed.prompt (by rwa [hPassed.plans]) (by omega)
            (.inr ⟨by rwa [hPassedNow], by omega⟩)
          exact ⟨hPassed.trans hRest, hThen⟩
        · exact ⟨hReached fun timer ht => (Nat.not_lt.1 hBefore).trans (hFirst timer ht), rfl⟩
      · rename_i hNone
        have hNoTimers : (s.settle w s.instantBound).timers = [] := by simpa [nextDue?] using hNone
        exact ⟨hReached fun timer ht => by simp [hNoTimers] at ht, rfl⟩

/-! ### Commands -/

theorem Begins.bare (h : Begins s after i p) :
    after.bare = { (s.setPhase i (.running {})).bare with
      records := ⟨s.now, .ofWorker i (.notice .started)⟩ :: s.records } := by
  simp only [Schedule.bare, h.now, h.workers, h.visits, h.deliveries, h.records]
  rfl

theorem bare_start {twin : Schedule} (h : twin.bare = s.bare) : twin.start.bare = s.start.bare := by
  have hSee {a b : Schedule} (hab : a.bare = b.bare) : (a.see .allStarted).bare = (b.see .allStarted).bare := by
    obtain ⟨queue, timers, rfl⟩ := eq_of_bare hab
    rfl
  obtain ⟨queue, timers, rfl⟩ := eq_of_bare h
  refine hSee (List.foldl_rel (r := fun a b : Schedule => a.bare = b.bare) h fun i _ a b hab => ?_)
  obtain ⟨queue, timers, rfl⟩ := eq_of_bare hab
  simp only
  split
  · rename_i p hWorker
    rw [(begins_enqueued _ i p _).bare, (begins_enqueued b i p _).bare]
    rfl
  · rfl

/-- What a schedule does at a command is one of the ways in which its groups can carry it out. -/
theorem Prompt.perform (h : s.Prompt w) (hInterval : ∀ q ∈ s.plans, 0 < q.interval) {command : Command}
    (hCommand : command ≠ .shutdown) :
    (s.perform w command).Prompt w ∧ (s.perform w command).plans = s.plans ∧
      ∀ twin : Schedule, twin.bare = s.bare →
        ∃ twin', (motion w .patient).Carries command twin twin' ∧
          twin'.bare = (s.perform w command).bare := by
  cases command with
  | run => exact ⟨h.start, plans_start s, fun twin hTwin => ⟨twin.start, .run, bare_start hTwin⟩⟩
  | advance ms =>
      obtain ⟨⟨hPrompt, hPlans, hReaches⟩, hNow⟩ :=
        h.advanceTo hInterval (Nat.le_add_right s.now ms) (.inl (by omega : _ < s.now + (ms + 1)))
      refine ⟨hPrompt, hPlans, fun twin hTwin => ?_⟩
      obtain ⟨twin', hSteps, hBare⟩ := hReaches twin hTwin
      have hBefore : twin.now = s.now := now_of_bare hTwin
      have hAfter : twin'.now = s.now + ms := (now_of_bare hBare).trans hNow
      have hTime : twin'.now = twin.now + ms := by rw [hAfter, hBefore]
      exact ⟨twin', .advance hSteps hTime, hBare⟩
  | shutdown => exact absurd rfl hCommand

/-- What a schedule does when it is told to run and to let time pass is one of the ways in which its
groups can go on together, each waiting for the others before time passes. -/
theorem Prompt.runs (h : s.Prompt w) (hInterval : ∀ q ∈ s.plans, 0 < q.interval)
    {commands : List Command} (hCommands : .shutdown ∉ commands) {twin : Schedule}
    (hTwin : twin.bare = s.bare) :
    ∃ twin', (motion w .patient).Runs commands twin twin' ∧
      twin'.bare = (commands.foldl (Schedule.perform w) s).bare := by
  induction commands generalizing s twin with
  | nil => exact ⟨twin, .nil, hTwin⟩
  | cons command commands ih =>
      rw [List.mem_cons, not_or] at hCommands
      obtain ⟨hPrompt, hPlans, hCarries⟩ := h.perform hInterval (Ne.symm hCommands.1)
      obtain ⟨mid, hFirst, hMid⟩ := hCarries twin hTwin
      obtain ⟨twin', hRest, hLast⟩ := ih hPrompt (by rwa [hPlans]) hCommands.2 hMid
      exact ⟨twin', .cons hFirst hRest, hLast⟩

theorem follows_of_patient : Motion.Follows (motion w .patient) (motion w clock) Eq where
  start _ _ h := congrArg Schedule.start h
  now _ _ h := congrArg Schedule.now h
  step _ _ s' h hStep := ⟨s', .single (h ▸ hStep.of_patient), rfl⟩

/-- What a schedule shows of a worker can be seen of it. -/
theorem possible_seenOf {plans : List Plan} (hInterval : ∀ p ∈ plans, 0 < p.interval)
    {commands : List Command} (hCommands : .shutdown ∉ commands) (worker : Nat) :
    Possible w clock plans commands worker
      ((commands.foldl (perform w) (ofPlans plans)).seenOf worker) := by
  rw [← plans_ofPlans plans] at hInterval
  obtain ⟨s, hRuns, hBare⟩ := (prompt_ofPlans w plans).runs hInterval hCommands rfl
  obtain ⟨_, hSame, rfl⟩ := follows_of_patient.runs rfl hRuns
  exact ⟨s, hSame, seenOf_of_bare hBare worker⟩

end Schedule

end Lookout.Pipeline
