import Lookout.Proofs.Pipeline.Messages
/-!
How much a worker group has in hand. No stage takes a cycle while it holds another one, and none
hands on a cycle to a queue that is full. So a group that is held up anywhere comes to a stand with
one cycle in each of its four stages and three queues, however long it is held up.
-/
namespace Lookout.Pipeline

/-- The cycle that the trigger has started and not yet handed on. -/
def TriggerState.held : TriggerState → List Nat
  | offering n => [n]
  | firing _ | resting _ _ | stopped => []

namespace TriggerState

@[simp] theorem held_firing (n : Nat) : (firing n).held = [] := rfl
@[simp] theorem held_offering (n : Nat) : (offering n).held = [n] := rfl
@[simp] theorem held_resting (next due : Nat) : (resting next due).held = [] := rfl
@[simp] theorem held_stopped : stopped.held = [] := rfl

theorem length_held_le (t : TriggerState) : t.held.length ≤ 1 := by
  cases t <;> simp

end TriggerState

theorem FetchState.length_held_le (f : FetchState) : f.held.length ≤ 1 := by
  cases f <;> simp [held]

theorem EvaluateState.length_held_le (e : EvaluateState) : e.held.length ≤ 1 := by
  cases e <;> simp

theorem DispatchState.length_held_le (d : DispatchState) : d.held.length ≤ 1 := by
  cases d <;> simp

/-- Whether a fate is that of a message which was handed to senders. -/
def Fate.isDispatch : Fate → Bool
  | .dispatched | .dispatchPanicked => true
  | _ => false

/-- The cycle whose message is handed to senders. -/
def Note.dispatching? : Note → Option Nat
  | event seq (.sending _ _) => some seq
  | _ => none

namespace Turn

/-- The cycle that is started. -/
def fired (t : Turn) : List Nat :=
  match t.before.trigger, t.after.trigger with
  | .firing _, .offering n => [n]
  | _, _ => []

/-- The cycle that is given up. -/
def abandoned (t : Turn) : List Nat :=
  match t.before.trigger, t.after.trigger with
  | .offering n, .stopped => [n]
  | _, _ => []

/-- The cycles whose messages have been dealt with. -/
def dispatched (t : Turn) : List Nat := (t.fates.filter fun f => f.2.isDispatch).map Prod.fst

/-- When the trigger does not change, it neither starts a cycle nor gives one up. -/
theorem fired_eq_nil {t : Turn} (h : t.after.trigger = t.before.trigger) :
    t.fired = [] ∧ t.abandoned = [] := by
  unfold fired abandoned
  rw [h]
  cases t.before.trigger <;> exact ⟨rfl, rfl⟩

end Turn

namespace Group

/-- The cycles that have been started and have neither ended nor been given up. -/
def inFlight (g : Group) : List Nat := g.onTheWay ++ g.trigger.held

/-- Whether no queue holds more than it can. -/
structure Fits (g : Group) : Prop where
  toFetch : g.toFetch.length ≤ depth
  toEvaluate : g.toEvaluate.length ≤ depth
  toDispatch : g.toDispatch.length ≤ depth

variable {p : Plan} {stage : Stage} {now : Nat} {visit : Http.Visit}
  {deliveries : String → List Delivery} {g after : Group} {notes : List Note}

theorem length_le_of_cons {α : Type} {queue rest : List α} {a : α} (h : queue.length ≤ depth)
    (hQueue : queue = a :: rest) : rest.length ≤ depth := by
  rw [hQueue, List.length_cons] at h
  omega

theorem length_concat_le {α : Type} {queue : List α} (a : α) (h : queue.length < depth) :
    (queue ++ [a]).length ≤ depth := by
  rw [List.length_append, List.length_singleton]
  exact h

/-- A stage hands on a cycle only where there is room. -/
theorem Fits.turn (hg : g.Fits) (h : g.turn p stage now visit deliveries = some (after, notes)) :
    after.Fits := by
  cases stage with
  | trigger =>
      cases triggerTurn_cases h with
      | accept _ _ _ hRoom => exact { hg with toFetch := length_concat_le _ hRoom }
      | _ => exact { hg with }
  | fetch =>
      cases fetchTurn_cases h with
      | call _ hQueue => exact { hg with toFetch := length_le_of_cons hg.toFetch hQueue }
      | hand _ _ hRoom => exact { hg with toEvaluate := length_concat_le _ hRoom }
      | _ => exact { hg with }
  | evaluate =>
      cases evaluateTurn_cases h with
      | take _ hQueue => exact { hg with toEvaluate := length_le_of_cons hg.toEvaluate hQueue }
      | hand _ _ hRoom => exact { hg with toDispatch := length_concat_le _ hRoom }
      | _ => exact { hg with }
  | dispatch =>
      cases dispatchTurn_cases h with
      | empty _ hQueue _ => exact { hg with toDispatch := length_le_of_cons hg.toDispatch hQueue }
      | send _ hQueue _ _ => exact { hg with toDispatch := length_le_of_cons hg.toDispatch hQueue }
      | crash _ hQueue _ _ => exact { hg with toDispatch := length_le_of_cons hg.toDispatch hQueue }
      | _ => exact { hg with }

/-- What the trigger starts it holds until the cycle is accepted or given up. -/
theorem fired_of_turn (h : g.turn p stage now visit deliveries = some (after, notes)) :
    g.trigger.held ++ (Turn.mk stage now g after notes).fired =
      (Turn.mk stage now g after notes).accepted ++ (Turn.mk stage now g after notes).abandoned ++
        after.trigger.held := by
  have hOther (hTrigger : after.trigger = g.trigger) (hQueue : after.toFetch.length ≤ g.toFetch.length) :
      g.trigger.held ++ (Turn.mk stage now g after notes).fired =
        (Turn.mk stage now g after notes).accepted ++
          (Turn.mk stage now g after notes).abandoned ++ after.trigger.held := by
    obtain ⟨hFired, hAbandoned⟩ := Turn.fired_eq_nil (t := ⟨stage, now, g, after, notes⟩) hTrigger
    have hAccepted := Turn.accepted_eq_nil (t := ⟨stage, now, g, after, notes⟩) hQueue
    rw [hFired, hAbandoned, hAccepted, hTrigger, List.append_nil, List.append_nil, List.nil_append]
  cases stage with
  | trigger =>
      cases triggerTurn_cases h with
      | fire hState => simp [Turn.fired, Turn.accepted, Turn.abandoned, hState]
      | abandon hState _ => simp [Turn.fired, Turn.accepted, Turn.abandoned, hState]
      | closed hState _ _ => simp [Turn.fired, Turn.accepted, Turn.abandoned, hState]
      | accept hState _ _ _ => simp [Turn.fired, Turn.accepted, Turn.abandoned, hState]
      | rise hState _ _ => simp [Turn.fired, Turn.accepted, Turn.abandoned, hState]
      | quit hState _ => simp [Turn.fired, Turn.accepted, Turn.abandoned, hState]
  | fetch =>
      cases fetchTurn_cases h with
      | call _ hQueue => exact hOther rfl (by simp [hQueue])
      | _ => exact hOther rfl le_rfl
  | evaluate => cases evaluateTurn_cases h <;> exact hOther rfl le_rfl
  | dispatch => cases dispatchTurn_cases h <;> exact hOther rfl le_rfl

theorem sendNotes_dispatching (m : Matched) (called : Nat) :
    (sendNotes p deliveries m called).filterMap Note.dispatching? = [m.seq] := by
  simp [sendNotes, Note.dispatching?, Function.comp_def]

theorem dispatching_of_dispatchTurn (h : DispatchTurn p now deliveries g after notes) :
    g.dispatch.held ++ notes.filterMap Note.dispatching? =
      (Turn.mk .dispatch now g after notes).dispatched ++ after.dispatch.held := by
  unfold Turn.dispatched
  cases h with
  | empty hState _ _ =>
      rw [Turn.fates_eq_of_dispatch rfl]
      simp [hState, Note.dispatching?, Note.fate?, Fate.isDispatch]
  | send hState _ _ _ => simp [Turn.fates, sendNotes_fates, sendNotes_dispatching, hState]
  | crash hState _ _ _ =>
      rw [Turn.fates_eq_of_dispatch rfl]
      simp [hState, sendNotes_fates, sendNotes_dispatching, Note.dispatching?, Note.fate?,
        Fate.isDispatch]
  | stop hState _ _ =>
      simp [Turn.fates, hState, List.filterMap_cons, Note.dispatching?, Note.fate?]
  | finish hState _ =>
      have hNone (seq : Nat) (calls : List Call) :
          (sendingNotes seq calls).filterMap Note.dispatching? = [] := by
        unfold sendingNotes
        split <;> rfl
      simp [Turn.fates, sendingNotes_fates, hNone, hState, Fate.isDispatch]
  | poll hState _ _ => simp [Turn.fates, hState]
  | panicked hState _ _ => simp [Turn.fates, hState, Note.dispatching?, Note.fate?, Fate.isDispatch]

/-- A message is handed to senders when none is in the hands of the dispatch stage. -/
theorem dispatching_of_turn (h : g.turn p stage now visit deliveries = some (after, notes)) :
    g.dispatch.held ++ notes.filterMap Note.dispatching? =
      (Turn.mk stage now g after notes).dispatched ++ after.dispatch.held := by
  have hOther (hDispatch : after.dispatch = g.dispatch)
      (hNotes : notes.filterMap Note.dispatching? = [])
      (hFates : (notes.filterMap Note.fate?).filter (fun f => f.2.isDispatch) = []) :
      g.dispatch.held ++ notes.filterMap Note.dispatching? =
        (Turn.mk stage now g after notes).dispatched ++ after.dispatch.held := by
    rw [Turn.dispatched, Turn.fates_eq_of_dispatch hDispatch, hFates, hNotes, hDispatch]
    simp
  cases stage with
  | trigger =>
      cases triggerTurn_cases h <;> exact hOther rfl (by simp [Note.dispatching?]) (by simp [Note.fate?])
  | fetch =>
      cases fetchTurn_cases h <;>
        exact hOther rfl (by simp [Note.dispatching?]) (by simp [Note.fate?, Fate.isDispatch])
  | evaluate =>
      cases evaluateTurn_cases h <;>
        exact hOther rfl (by simp [Note.dispatching?]) (by simp [Note.fate?, Fate.isDispatch])
  | dispatch => exact dispatching_of_dispatchTurn (dispatchTurn_cases h)

end Group

namespace Course
variable {s : Setting} {c : Course}

/-- The cycles that the trigger has started, in order. -/
def fired (c : Course) : List Nat := c.turns.flatMap Turn.fired

/-- The cycles that the trigger has given up. -/
def abandoned (c : Course) : List Nat := c.turns.flatMap Turn.abandoned

/-- The cycles whose messages were handed to senders, in order. -/
def dispatching (c : Course) : List Nat :=
  (c.turns.flatMap Turn.notes).filterMap Note.dispatching?

/-- Those of them whose senders are done with. -/
def dispatched (c : Course) : List Nat := c.turns.flatMap Turn.dispatched

theorem Reachable.fits (h : Reachable s c) : c.group.Fits := by
  induction h with
  | refl => exact ⟨Nat.zero_le _, Nat.zero_le _, Nat.zero_le _⟩
  | tail _ hStep ih =>
      cases hStep with
      | turn _ _ _ hTurn => exact ih.turn hTurn
      | shutdown _ => exact { ih with }
      | join _ _ => exact ih

/-- A cycle that was started has been accepted or given up, or is still to be handed on. -/
theorem Reachable.fired_perm (h : Reachable s c) :
    c.fired.Perm (c.accepted ++ c.abandoned ++ c.group.trigger.held) := by
  induction h with
  | refl => exact .refl _
  | @tail c d _ hStep ih =>
      cases hStep with
      | @turn stage time _ _ after notes _ _ _ hTurn =>
          have hNow := Group.fired_of_turn hTurn
          have hSwap := List.perm_append_comm_assoc c.abandoned (Turn.mk stage time c.group after notes).accepted
            ((Turn.mk stage time c.group after notes).abandoned ++ after.trigger.held)
          have hGrown := ih.append_right (Turn.mk stage time c.group after notes).fired
          rw [List.append_assoc, hNow] at hGrown
          rw [accepted_take, take_group]
          unfold fired abandoned at hGrown hSwap ⊢
          simp only [take, List.flatMap_append, List.flatMap_singleton]
          refine hGrown.trans ?_
          simpa only [List.append_assoc] using hSwap.append_left c.accepted
      | shutdown _ => exact ih
      | join _ _ => exact ih

theorem Reachable.dispatching_eq (h : Reachable s c) :
    c.dispatching = c.dispatched ++ c.group.dispatch.held := by
  induction h with
  | refl => rfl
  | tail _ hStep ih =>
      cases hStep with
      | turn _ _ _ hTurn =>
          have hNow := Group.dispatching_of_turn hTurn
          unfold dispatching dispatched at ih ⊢
          simp only [take, List.flatMap_append, List.filterMap_append, List.flatMap_singleton]
          rw [ih, List.append_assoc, hNow, List.append_assoc]
      | shutdown _ => exact ih
      | join _ _ => exact ih

/-- No place holds two cycles at once. -/
theorem Reachable.length_cyclesAt_le (h : Reachable s c) (place : Place)
    (hPlace : place ≠ .finished) : (c.cyclesAt place).length ≤ 1 := by
  cases place with
  | fetchQueue => exact h.fits.toFetch
  | fetchStage => exact c.group.fetch.length_held_le
  | evaluateQueue => exact (List.length_map _).trans_le h.fits.toEvaluate
  | evaluateStage => exact c.group.evaluate.length_held_le
  | dispatchQueue => exact (List.length_map _).trans_le h.fits.toDispatch
  | dispatchStage => exact c.group.dispatch.length_held_le
  | finished => exact absurd rfl hPlace

/-- There are five places behind the fetch queue. -/
theorem Reachable.length_onTheWay_le (h : Reachable s c) :
    c.group.onTheWay.length ≤ 5 + c.group.toFetch.length := by
  have hFetch := h.length_cyclesAt_le .fetchStage (by decide)
  have hToEvaluate := h.length_cyclesAt_le .evaluateQueue (by decide)
  have hEvaluate := h.length_cyclesAt_le .evaluateStage (by decide)
  have hToDispatch := h.length_cyclesAt_le .dispatchQueue (by decide)
  have hDispatch := h.length_cyclesAt_le .dispatchStage (by decide)
  simp only [cyclesAt] at hFetch hToEvaluate hEvaluate hToDispatch hDispatch
  simp only [Group.onTheWay, List.length_append]
  omega

theorem Reachable.fired_perm_inFlight (h : Reachable s c) :
    c.fired.Perm (c.finished ++ c.abandoned ++ c.group.inFlight) := by
  have hAccepted := (h.inOrder.conserved.symm.append_right c.abandoned).append_right c.group.trigger.held
  refine (h.fired_perm.trans hAccepted).trans ?_
  have hSwap := List.perm_append_comm_assoc c.group.onTheWay c.abandoned c.group.trigger.held
  simpa only [Group.inFlight, List.append_assoc] using hSwap.append_left c.finished

/-- However slow the crawler and the senders are, and whatever the interval: at most one call of the
crawler and at most one message are in progress; no queue holds more than one cycle; the cycles that
have been started and have neither ended nor been given up are in seven places, the stages and the
queues between them, with at most one in each; and the crawler has been called for at most five
cycles more than have ended. -/
theorem inFlight_le_seven (h : Reachable s c) :
    c.visited.length ≤ c.results.length + 1 ∧
    c.dispatching.length ≤ c.dispatched.length + 1 ∧
    (c.group.toFetch.length ≤ 1 ∧ c.group.toEvaluate.length ≤ 1 ∧ c.group.toDispatch.length ≤ 1) ∧
    (c.fired.Perm (c.finished ++ c.abandoned ++ c.group.inFlight) ∧
      (∀ place, place ≠ .finished → (c.cyclesAt place).length ≤ 1) ∧
      c.group.trigger.held.length ≤ 1 ∧ c.group.inFlight.length ≤ 7) ∧
    c.visited.length ≤ c.finished.length + 5 := by
  have hFits := h.fits
  have hTrigger := c.group.trigger.length_held_le
  have hWay := h.length_onTheWay_le
  refine ⟨?_, ?_, ⟨hFits.toFetch, hFits.toEvaluate, hFits.toDispatch⟩,
    ⟨h.fired_perm_inFlight, h.length_cyclesAt_le, hTrigger, ?_⟩, ?_⟩
  · have hVisiting : c.group.fetch.visiting.length ≤ 1 := by
      cases c.group.fetch <;> simp
    rw [← h.results_visiting, List.length_append, List.length_map]
    omega
  · have hDispatch := c.group.dispatch.length_held_le
    rw [h.dispatching_eq, List.length_append]
    omega
  · have hQueue : c.group.toFetch.length ≤ 1 := hFits.toFetch
    rw [Group.inFlight, List.length_append]
    omega
  · -- The cycles that were fetched or are being fetched are all but those in the fetch queue.
    have hVisited := congrArg List.length h.inOrder.visited
    have hConserved := h.inOrder.conserved.length_eq
    simp only [List.length_append] at hVisited hConserved
    omega

end Course

namespace Sample

/-- The first message is not done with, and the stages come to a stand one after the other. -/
def filling : List Move :=
  [turn .trigger 0, turn .trigger 0, turn .fetch 0 (page 0 0x31), turn .fetch 0, turn .fetch 0,
    turn .evaluate 0, turn .evaluate 0, turn .evaluate 0, turn .dispatch 0,
    turn .trigger 10, turn .trigger 10, turn .trigger 10, turn .fetch 10 (page 0 0x32),
    turn .fetch 10, turn .fetch 10, turn .evaluate 10, turn .evaluate 10, turn .evaluate 10,
    turn .trigger 20, turn .trigger 20, turn .trigger 20, turn .fetch 20 (page 0 0x33),
    turn .fetch 20, turn .fetch 20, turn .evaluate 20, turn .evaluate 20,
    turn .trigger 30, turn .trigger 30, turn .trigger 30, turn .fetch 30 (page 0 0x34),
    turn .fetch 30, turn .fetch 30,
    turn .trigger 40, turn .trigger 40, turn .trigger 40, turn .fetch 40 (page 0 0x35),
    turn .fetch 40,
    turn .trigger 50, turn .trigger 50, turn .trigger 50, turn .trigger 60, turn .trigger 60]

def full : Course := (Course.follow? plan {} filling).getD {}

theorem full_reachable : Course.Reachable setting full := by
  refine Course.leads_getD ?_ (by decide +kernel)
  simp only [filling, List.forall_mem_cons, permits_turn, true_and]
  simp

end Sample

/-- Both bounds are reached. -/
theorem Course.full_inFlight :
    Reachable Sample.setting Sample.full ∧ Sample.full.fired = [1, 2, 3, 4, 5, 6, 7] ∧
    Sample.full.group.inFlight = [1, 2, 3, 4, 5, 6, 7] ∧ Sample.full.group.inFlight.length ≤ 7 ∧
    Sample.full.visited = [1, 2, 3, 4, 5] ∧ Sample.full.finished = [] ∧
    Sample.full.visited.length ≤ Sample.full.finished.length + 5 := by
  obtain ⟨_, _, _, ⟨_, _, _, hInFlight⟩, hVisited⟩ := inFlight_le_seven Sample.full_reachable
  refine ⟨Sample.full_reachable, ?_, ?_, hInFlight, ?_, ?_, hVisited⟩
  · decide +kernel
  · decide +kernel
  · decide +kernel
  · decide +kernel

end Lookout.Pipeline
