import Lookout.Proofs.Pipeline.Scheduled
/-!
How the stages of a worker group come to their ends. A stage stops in one way only: its input has
ended, it leaves its loop and says so. It never finds the queue behind it closed, and a panic in one
of its cycles does not end it.
-/
namespace Lookout.Pipeline

namespace Stage

/-- The stage that a stage gets its cycles from. -/
def source? : Stage → Option Stage
  | trigger => none
  | fetch => some trigger
  | evaluate => some fetch
  | dispatch => some evaluate

/-- What a stage says when it has left its loop. -/
def farewell : Stage → Notice
  | trigger => .triggerStopped
  | fetch => .fetchStopped
  | evaluate => .evaluateStopped
  | dispatch => .dispatchStopped

end Stage

namespace Note

/-- What is told outside the cycles. -/
def notice? : Note → Option Notice
  | notice n => some n
  | _ => none

/-- Whether a note tells that a stage has found the queue behind it closed. -/
def tellsClosed : Note → Bool
  | notice .fetchClosed | event _ .evaluateClosed | event _ .dispatchClosed => true
  | _ => false

/-- Whether a note tells that a stage has recovered from a panic. -/
def tellsPanic : Note → Bool
  | event _ (.fetchPanicked _) | event _ (.sendPanicked _) => true
  | _ => false

end Note

namespace Group

/-- Whether nothing more can come to a stage: the trigger is cancelled, and for the others the queue
in front is closed and empty. -/
def InputEnded (g : Group) : Stage → Prop
  | .trigger => g.cancelled = true
  | .fetch => g.trigger.isStopped = true ∧ g.toFetch = []
  | .evaluate => g.fetch.isStopped = true ∧ g.toEvaluate = []
  | .dispatch => g.evaluate.isStopped = true ∧ g.toDispatch = []

/-- The stages that have stopped, from the first to the last. -/
def stoppedStages (g : Group) : List Stage := Stage.inOrder.filter g.hasStopped

variable {p : Plan} {stage other : Stage} {now : Nat} {visit : Http.Visit}
  {deliveries : String → List Delivery} {g after : Group} {notes : List Note}

/-- A stage stops in none but its own turns. -/
theorem hasStopped_of_other_turn (h : g.turn p stage now visit deliveries = some (after, notes))
    (hOther : other ≠ stage) : after.hasStopped other = g.hasStopped other := by
  cases stage with
  | trigger =>
      cases other with
      | trigger => exact absurd rfl hOther
      | _ => cases triggerTurn_cases h <;> rfl
  | fetch =>
      cases other with
      | fetch => exact absurd rfl hOther
      | _ => cases fetchTurn_cases h <;> rfl
  | evaluate =>
      cases other with
      | evaluate => exact absurd rfl hOther
      | _ => cases evaluateTurn_cases h <;> rfl
  | dispatch =>
      cases other with
      | dispatch => exact absurd rfl hOther
      | _ => cases dispatchTurn_cases h <;> rfl

/-- A stage that has stopped has the one in front of it stopped. -/
theorem Cascades.hasStopped_source (hg : g.Cascades) {source : Stage}
    (hSource : stage.source? = some source) (hStopped : g.hasStopped stage = true) :
    g.hasStopped source = true := by
  cases stage with
  | trigger => cases hSource
  | fetch =>
      cases hSource
      exact (hg.fetch hStopped).1
  | evaluate =>
      cases hSource
      exact (hg.evaluate hStopped).1
  | dispatch =>
      cases hSource
      exact (hg.dispatch hStopped).1

end Group

namespace Turn

/-- Whether a turn ends its stage, if it does, in the one way in which it is to end: no queue is
found closed, the stage says that it has stopped exactly if it has, its input has ended then, and it
goes on after a panic. -/
structure Orderly (t : Turn) : Prop where
  isOpen : ∀ n ∈ t.notes, n.tellsClosed = false
  notices : t.notes.filterMap Note.notice? =
    if t.after.hasStopped t.stage then [t.stage.farewell] else []
  inputEnded : t.after.hasStopped t.stage = true → t.before.InputEnded t.stage
  recovers : ∀ n ∈ t.notes, n.tellsPanic = true → t.after.hasStopped t.stage = false

theorem Orderly.of_runs {t : Turn} (hRuns : t.after.hasStopped t.stage = false)
    (hOpen : ∀ n ∈ t.notes, n.tellsClosed = false) (hNotices : t.notes.filterMap Note.notice? = []) :
    t.Orderly := by
  refine ⟨hOpen, ?_, fun hStopped => ?_, fun _ _ _ => hRuns⟩
  · rw [hNotices, hRuns]
    rfl
  · cases hRuns.symm.trans hStopped

theorem Orderly.of_stopped {t : Turn} (hStopped : t.after.hasStopped t.stage = true)
    (hNotes : t.notes = [.notice t.stage.farewell]) (hEnded : t.before.InputEnded t.stage) :
    t.Orderly := by
  refine ⟨fun n hn => ?_, ?_, fun _ => hEnded, fun n hn hPanic => ?_⟩
  · rw [hNotes] at hn
    rcases List.mem_singleton.1 hn with rfl
    cases t.stage <;> rfl
  · rw [hNotes, hStopped]
    rfl
  · rw [hNotes] at hn
    rcases List.mem_singleton.1 hn with rfl
    cases hPanic

end Turn

namespace Group
variable {p : Plan} {stage : Stage} {now : Nat} {visit : Http.Visit}
  {deliveries : String → List Delivery} {g after : Group} {notes : List Note}

theorem orderly_of_triggerTurn (hg : g.Cascades) (hRuns : g.trigger.isStopped = false)
    (h : TriggerTurn p now g after notes) : (Turn.mk .trigger now g after notes).Orderly := by
  cases h with
  | closed _ _ hStopped => simp [hg.fetch_runs hRuns] at hStopped
  | abandon _ hCancelled => exact .of_stopped rfl rfl hCancelled
  | quit _ hCancelled => exact .of_stopped rfl rfl hCancelled
  | _ => exact .of_runs rfl (by simp) rfl

theorem orderly_of_fetchTurn (hg : g.Cascades) (hRuns : g.fetch.isStopped = false)
    (h : FetchTurn now visit g after notes) : (Turn.mk .fetch now g after notes).Orderly := by
  cases h with
  | closed _ hStopped => simp [hg.evaluate_runs hRuns] at hStopped
  | stop _ hQueue hClosed => exact .of_stopped rfl rfl ⟨hClosed, hQueue⟩
  | _ => exact .of_runs rfl (by simp [Note.tellsClosed]) rfl

theorem orderly_of_evaluateTurn (hg : g.Cascades) (hRuns : g.evaluate.isStopped = false)
    (h : EvaluateTurn p g after notes) : (Turn.mk .evaluate now g after notes).Orderly := by
  cases h with
  | closed _ hStopped => simp [hg.dispatch_runs hRuns] at hStopped
  | stop _ hQueue hClosed => exact .of_stopped rfl rfl ⟨hClosed, hQueue⟩
  | _ => exact .of_runs rfl (by simp [Note.tellsClosed]) rfl

theorem notices_sendNotes (m : Matched) (called : Nat) :
    (sendNotes p deliveries m called).filterMap Note.notice? = [] := by
  simp [sendNotes, List.filterMap_cons, Note.notice?, Function.comp_def]

theorem isOpen_sendNotes (m : Matched) (called : Nat) :
    ∀ n ∈ sendNotes p deliveries m called, n.tellsClosed = false := by
  simp [sendNotes, Note.tellsClosed]

theorem orderly_of_dispatchTurn (hRuns : g.dispatch.isStopped = false)
    (h : DispatchTurn p now deliveries g after notes) :
    (Turn.mk .dispatch now g after notes).Orderly := by
  cases h with
  | empty _ _ _ => exact .of_runs hRuns (by simp [Note.tellsClosed]) rfl
  | send _ _ _ _ => exact .of_runs rfl (isOpen_sendNotes _ _) (notices_sendNotes _ _)
  | crash _ _ _ _ =>
      refine .of_runs hRuns ?_ ?_
      · simp only [List.forall_mem_append]
        exact ⟨isOpen_sendNotes _ _, by simp [Note.tellsClosed]⟩
      · rw [List.filterMap_append, notices_sendNotes]
        rfl
  | stop _ hQueue hClosed => exact .of_stopped rfl rfl ⟨hClosed, hQueue⟩
  | finish _ _ =>
      refine .of_runs rfl ?_ ?_
      · unfold sendingNotes
        split <;> simp [Note.tellsClosed]
      · unfold sendingNotes
        split <;> rfl
  | poll _ _ _ => exact .of_runs rfl (by simp) rfl
  | panicked _ _ _ => exact .of_runs rfl (by simp [Note.tellsClosed]) rfl

theorem orderly_of_turn (hg : g.Cascades)
    (h : g.turn p stage now visit deliveries = some (after, notes)) :
    (Turn.mk stage now g after notes).Orderly := by
  have hRuns := hasStopped_eq_false_of_turn h
  cases stage with
  | trigger => exact orderly_of_triggerTurn hg hRuns (triggerTurn_cases h)
  | fetch => exact orderly_of_fetchTurn hg hRuns (fetchTurn_cases h)
  | evaluate => exact orderly_of_evaluateTurn hg hRuns (evaluateTurn_cases h)
  | dispatch => exact orderly_of_dispatchTurn hRuns (dispatchTurn_cases h)

/-- The stage that stops in a turn is the first one that ran: those in front of it have stopped, and
those behind it run. -/
theorem stoppedStages_of_turn (hg : g.Cascades)
    (h : g.turn p stage now visit deliveries = some (after, notes)) :
    after.stoppedStages = g.stoppedStages ++ if after.hasStopped stage then [stage] else [] := by
  have hRuns := hasStopped_eq_false_of_turn h
  by_cases hStops : after.hasStopped stage = true
  · have hEnded := (orderly_of_turn hg h).inputEnded hStops
    have hAfter : ∀ other, after.hasStopped other = (g.hasStopped other || other == stage) := by
      intro other
      by_cases hEq : other = stage
      · simp [hEq, hStops]
      · simp [hEq, hasStopped_of_other_turn h hEq]
    cases stage with
    | trigger =>
        have hFetch : g.hasStopped .fetch = false := hg.fetch_runs hRuns
        have hEvaluate : g.hasStopped .evaluate = false := hg.evaluate_runs hFetch
        have hDispatch : g.hasStopped .dispatch = false := hg.dispatch_runs hEvaluate
        simp [stoppedStages, Stage.inOrder, hAfter, hRuns, hFetch, hEvaluate, hDispatch]
    | fetch =>
        have hTrigger : g.hasStopped .trigger = true := hEnded.1
        have hEvaluate : g.hasStopped .evaluate = false := hg.evaluate_runs hRuns
        have hDispatch : g.hasStopped .dispatch = false := hg.dispatch_runs hEvaluate
        simp [stoppedStages, Stage.inOrder, hAfter, hTrigger, hRuns, hEvaluate, hDispatch]
    | evaluate =>
        have hFetch : g.hasStopped .fetch = true := hEnded.1
        have hTrigger : g.hasStopped .trigger = true := (hg.fetch hFetch).1
        have hDispatch : g.hasStopped .dispatch = false := hg.dispatch_runs hRuns
        simp [stoppedStages, Stage.inOrder, hAfter, hTrigger, hFetch, hRuns, hDispatch]
    | dispatch =>
        have hEvaluate : g.hasStopped .evaluate = true := hEnded.1
        have hFetch : g.hasStopped .fetch = true := (hg.evaluate hEvaluate).1
        have hTrigger : g.hasStopped .trigger = true := (hg.fetch hFetch).1
        simp [stoppedStages, Stage.inOrder, hAfter, hTrigger, hFetch, hEvaluate, hRuns]
  · have hSame : after.hasStopped = g.hasStopped := by
      funext other
      by_cases hEq : other = stage
      · rw [hEq, hRuns, eq_false_of_ne_true hStops]
      · exact hasStopped_of_other_turn h hEq
    rw [if_neg hStops, List.append_nil, stoppedStages, stoppedStages, hSame]

end Group

namespace Course

/-- What is told of the group outside its cycles. -/
def notices (c : Course) : List Notice := c.notes.filterMap Note.notice?

/-- The stages whose tasks have ended in the middle, that is without saying that they have left
their loops. These are the ones that shutdown complains of. -/
def endedAbnormally (c : Course) : List Stage :=
  Stage.inOrder.filter fun stage =>
    c.group.hasStopped stage && !c.notices.contains stage.farewell

variable {s : Setting} {c : Course}

/-- Every turn that a stage has taken was orderly, the stages behind it ran, and no other stage
stopped in it. -/
theorem Reachable.orderly (h : Reachable s c) : ∀ t ∈ c.turns, t.Orderly ∧
    (∀ next, next.source? = some t.stage → t.before.hasStopped next = false) ∧
    ∀ other, other ≠ t.stage → t.after.hasStopped other = t.before.hasStopped other := by
  induction h with
  | refl => exact fun _ ht => nomatch ht
  | tail hPrior hStep ih =>
      cases hStep with
      | turn _ _ _ hTurn =>
          have hCascades := Reachable.cascades hPrior
          intro t ht
          rcases List.mem_append.1 ht with hOld | hNew
          · exact ih t hOld
          · rcases List.mem_singleton.1 hNew with rfl
            refine ⟨Group.orderly_of_turn hCascades hTurn, fun next hNext => ?_,
              fun _ hOther => Group.hasStopped_of_other_turn hTurn hOther⟩
            refine eq_false_of_ne_true fun hStopped => ?_
            have hSource := hCascades.hasStopped_source hNext hStopped
            simp [Group.hasStopped_eq_false_of_turn hTurn] at hSource
      | shutdown _ => exact ih
      | join _ _ => exact ih

/-- What the turns tell outside the cycles is which stages have stopped. -/
theorem Reachable.notices_turns (h : Reachable s c) :
    (c.turns.flatMap Turn.notes).filterMap Note.notice? =
      c.group.stoppedStages.map Stage.farewell := by
  induction h with
  | refl => rfl
  | tail hPrior hStep ih =>
      cases hStep with
      | @turn stage time _ _ after notes _ _ _ hTurn =>
          have hCascades := Reachable.cascades hPrior
          have hNotices := (Group.orderly_of_turn hCascades hTurn).notices
          simp only at hNotices
          rw [take_group, Group.stoppedStages_of_turn hCascades hTurn, List.map_append, ← ih]
          simp only [take, List.flatMap_append, List.filterMap_append, List.flatMap_singleton, hNotices]
          split <;> rfl
      | shutdown _ => exact ih
      | join _ _ => exact ih

theorem Reachable.notices_eq (h : Reachable s c) :
    c.notices = .started :: c.group.stoppedStages.map Stage.farewell ++
      if c.awaited = some [] then [.stopped] else [] := by
  have hTurns := h.notices_turns
  unfold notices notes
  split_ifs <;> simp [Note.notice?, hTurns]

/-- A stage that has stopped has said so. -/
theorem Reachable.endedAbnormally_eq_nil (h : Reachable s c) : c.endedAbnormally = [] := by
  refine List.filter_eq_nil_iff.2 fun stage hStage hEnded => ?_
  obtain ⟨hStopped, hSilent⟩ := Bool.and_eq_true_iff.1 hEnded
  have hSaid : stage.farewell ∈ c.notices := by
    rw [h.notices_eq]
    have hMem : stage ∈ c.group.stoppedStages := List.mem_filter.2 ⟨hStage, hStopped⟩
    simp [List.mem_map_of_mem hMem]
  simp [hSaid] at hSilent

/-- No stage has found the queue behind it closed. -/
theorem Reachable.isOpen (h : Reachable s c) : ∀ n ∈ c.notes, n.tellsClosed = false := by
  have hTurns : ∀ n ∈ c.turns.flatMap Turn.notes, n.tellsClosed = false := by
    intro n hn
    obtain ⟨t, ht, hNote⟩ := List.mem_flatMap.1 hn
    exact (h.orderly t ht).1.isOpen n hNote
  intro n hn
  unfold notes at hn
  rcases List.mem_cons.1 hn with rfl | hRest
  · rfl
  · rcases List.mem_append.1 hRest with hTold | hLast
    · exact hTurns n hTold
    · split_ifs at hLast
      · rcases List.mem_singleton.1 hLast with rfl
        rfl
      · cases hLast

/-- A stage stops in a turn of its own, when nothing more can come to it. -/
theorem Reachable.stops (h : Reachable s c) {t : Turn} (ht : t ∈ c.turns) {stage : Stage}
    (hAfter : t.after.hasStopped stage = true) :
    t.before.hasStopped stage = true ∨ stage = t.stage ∧ t.before.InputEnded stage := by
  obtain ⟨hOrderly, _, hOthers⟩ := h.orderly t ht
  by_cases hEq : stage = t.stage
  · subst hEq
    exact .inr ⟨rfl, hOrderly.inputEnded hAfter⟩
  · rw [hOthers stage hEq] at hAfter
    exact .inl hAfter

/-- Of every worker group, whatever its stages did so far and however calls went, failures and
panics included: no stage has found the queue behind it closed, since the stage that takes from it
ran in all of its turns; a stage that has stopped has the one in front of it stopped; each stopped
in a turn of its own, after its input had ended; what was told outside the cycles is the start, the
stages that have stopped in their order, and the end, so that none has ended in the middle; and a
stage that recovered from a panic went on. -/
theorem output_never_closed (h : Reachable s c) :
    (∀ n ∈ c.notes, n.tellsClosed = false) ∧
    (∀ t ∈ c.turns, ∀ next : Stage, next.source? = some t.stage →
      t.before.hasStopped next = false) ∧
    (∀ stage source : Stage, stage.source? = some source → c.group.hasStopped stage = true →
      c.group.hasStopped source = true) ∧
    (∀ t ∈ c.turns, ∀ stage, t.after.hasStopped stage = true →
      t.before.hasStopped stage = true ∨ stage = t.stage ∧ t.before.InputEnded stage) ∧
    (c.notices = .started :: c.group.stoppedStages.map Stage.farewell ++
      if c.awaited = some [] then [.stopped] else []) ∧
    c.endedAbnormally = [] ∧
    ∀ t ∈ c.turns, ∀ n ∈ t.notes, n.tellsPanic = true → t.after.hasStopped t.stage = false := by
  refine ⟨h.isOpen, fun t ht => (h.orderly t ht).2.1, ?_, fun t ht stage => h.stops ht, h.notices_eq,
    h.endedAbnormally_eq_nil, fun t ht => (h.orderly t ht).1.recovers⟩
  exact fun stage source hSource hStopped => h.cascades.hasStopped_source hSource hStopped

/-- The fetch stage goes on after the panic in cycle 2, and all stages stop in their order. -/
theorem closed_orderly :
    Reachable Sample.setting Sample.closed ∧
    Sample.closed.notices = [.started, .triggerStopped, .fetchStopped, .evaluateStopped,
      .dispatchStopped, .stopped] ∧
    Sample.closed.endedAbnormally = [] ∧
    (∀ n ∈ Sample.closed.notes, n.tellsClosed = false) ∧
    ∃ t ∈ Sample.closed.turns, (∃ n ∈ t.notes, n.tellsPanic = true) ∧
      t.after.hasStopped t.stage = false := by
  obtain ⟨hOpen, _, _, _, _, hNone, hRecovers⟩ := output_never_closed Sample.closed_reachable
  have hPanic : ∃ t ∈ Sample.closed.turns, ∃ n ∈ t.notes, n.tellsPanic = true := by
    have hAny : Sample.closed.turns.any (fun t => t.notes.any Note.tellsPanic) = true := by
      decide +kernel
    simpa [List.any_eq_true] using hAny
  obtain ⟨t, ht, n, hn, hTells⟩ := hPanic
  refine ⟨Sample.closed_reachable, ?_, hNone, hOpen, t, ht, ⟨n, hn, hTells⟩, hRecovers t ht n hn hTells⟩
  decide +kernel

end Course

/-- In no run of all workers together, whatever the commands and however the world answers, does a
stage find the queue behind it closed. -/
theorem Schedule.isOpen_of_commands (w : World) (plans : List Plan) (commands : List Command) {i : Nat}
    {worker : Worker}
    (hWorker : (commands.foldl (perform w) (ofPlans plans)).workers[i]? = some worker) :
    ∀ n ∈ (commands.foldl (perform w) (ofPlans plans)).notesOf i, n.tellsClosed = false :=
  (tracks_of_commands w plans commands).forall_notes hWorker fun _ hReachable => hReachable.isOpen

end Lookout.Pipeline
