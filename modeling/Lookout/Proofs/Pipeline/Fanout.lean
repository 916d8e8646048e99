import Lookout.Proofs.Pipeline.Taking
/-!
The dispatch of matched cycles, in all courses of a worker group and under every mix of outcomes.
For each cycle that the stage takes, all calls that it makes and all that it tells are fixed by the
text and by how the senders answer, but for which panic is told when several calls panic later. A
cycle that is not taken makes no call, and no outcome keeps the stage from the next cycle.
-/
namespace Lookout.Pipeline

/-- Whether a note is of the dispatch of a cycle: the call of a sender, or an event that the
dispatch stage tells. -/
def Note.isDispatchOf (n : Nat) : Note → Bool
  | send seq _ _ => seq == n
  | event seq e => seq == n && e.target == "crawlert::pipeline::dispatch"
  | fetch _ | notice _ => false

/-- The notes of the dispatch of a cycle. -/
def dispatchOf (n : Nat) (notes : List Note) : List Note := notes.filter (Note.isDispatchOf n)

/-- All that is told of a cycle that the dispatch stage has taken, with the calls made for it, when
the senders answer like this. The cycle is in the hands of the stage while calls are in progress. -/
inductive FanOut (p : Plan) (answers : String → List Delivery) (inHand : List Nat) (m : Matched) :
    List Note → Prop where
  | empty (hText : (p.textOf m).isEmpty = true) (hOver : m.seq ∉ inHand) :
      FanOut p answers inHand m [.event m.seq .emptyMessage]
  | inProgress (hText : (p.textOf m).isEmpty = false) (hHeld : m.seq ∈ inHand)
      (hNone : ∀ d ∈ answers (p.textOf m), ¬ d.PanicsAtOnce) :
      FanOut p answers inHand m (Group.sendNotes p answers m (answers (p.textOf m)).length)
  | ended {called : Nat} {outcome : List Event} (hText : (p.textOf m).isEmpty = false)
      (hOver : m.seq ∉ inHand) (hCalls : Calls (answers (p.textOf m)) called)
      (hOutcome : Concludes (answers (p.textOf m)) called outcome) :
      FanOut p answers inHand m
        (Group.sendNotes p answers m called ++ outcome.map (.event m.seq))

section Notes
variable {n seq : Nat} {p : Plan} {answers : String → List Delivery} {m : Matched}

@[simp] theorem dispatchOf_nil : dispatchOf n [] = [] := rfl

@[simp] theorem dispatchOf_append (notes notes' : List Note) :
    dispatchOf n (notes ++ notes') = dispatchOf n notes ++ dispatchOf n notes' :=
  List.filter_append ..

@[simp] theorem dispatchOf_notice (told : Notice) (notes : List Note) :
    dispatchOf n (.notice told :: notes) = dispatchOf n notes := rfl

@[simp] theorem dispatchOf_fetch (notes : List Note) :
    dispatchOf n (.fetch seq :: notes) = dispatchOf n notes := rfl

/-- Notes that are all of the dispatch of one cycle are all of its notes, and none of another. -/
theorem dispatchOf_eq {notes : List Note} (h : ∀ note ∈ notes, Note.isDispatchOf seq note = true) :
    dispatchOf seq notes = notes ∧ ∀ n, n ≠ seq → dispatchOf n notes = [] := by
  refine ⟨List.filter_eq_self.2 h, fun n hNe => List.filter_eq_nil_iff.2 fun note hNote hOther => ?_⟩
  have hSeq := h note hNote
  cases note with
  | send seq' _ _ =>
      simp only [Note.isDispatchOf, beq_iff_eq] at hSeq hOther
      exact hNe (hOther.symm.trans hSeq)
  | event seq' e =>
      simp only [Note.isDispatchOf, Bool.and_eq_true, beq_iff_eq] at hSeq hOther
      exact hNe (hOther.1.symm.trans hSeq.1)
  | fetch _ => cases hOther
  | notice _ => cases hOther

/-- The calls of the senders are of the dispatch of their cycle. -/
theorem isDispatchOf_sendNotes (called : Nat) :
    ∀ note ∈ Group.sendNotes p answers m called, Note.isDispatchOf m.seq note = true := by
  intro note hNote
  rcases List.mem_cons.1 hNote with rfl | hSend
  · simp [Note.isDispatchOf, Event.target]
  · obtain ⟨sender, _, rfl⟩ := List.mem_map.1 hSend
    simp [Note.isDispatchOf]

/-- So is all that comes of them. -/
theorem isDispatchOf_outcome (seq : Nat) {ds : List Delivery} {called : Nat} {outcome : List Event}
    (h : Concludes ds called outcome) :
    ∀ note ∈ outcome.map (Note.event seq), Note.isDispatchOf seq note = true := by
  cases h <;> simp [Note.isDispatchOf, Event.target]

namespace FanOut
variable {inHand inHand' : List Nat} {notes : List Note}

theorem isDispatchOf (h : FanOut p answers inHand m notes) :
    ∀ note ∈ notes, Note.isDispatchOf m.seq note = true := by
  cases h with
  | empty _ _ => simp [Note.isDispatchOf, Event.target]
  | inProgress _ _ _ => exact isDispatchOf_sendNotes _
  | ended _ _ _ hOutcome =>
      intro note hNote
      rcases List.mem_append.1 hNote with hSend | hTold
      · exact isDispatchOf_sendNotes _ note hSend
      · exact isDispatchOf_outcome _ hOutcome note hTold

theorem congr (h : FanOut p answers inHand m notes) (hSame : m.seq ∈ inHand' ↔ m.seq ∈ inHand) :
    FanOut p answers inHand' m notes := by
  cases h with
  | empty hText hOver => exact .empty hText (hSame.not.2 hOver)
  | inProgress hText hHeld hNone => exact .inProgress hText (hSame.2 hHeld) hNone
  | ended hText hOver hCalls hOutcome => exact .ended hText (hSame.not.2 hOver) hCalls hOutcome

/-- When the calls in progress end, all senders have been called. -/
theorem ends {outcome : List Event} (h : FanOut p answers inHand m notes) (hHeld : m.seq ∈ inHand)
    (hOutcome : Concludes (answers (p.textOf m)) (answers (p.textOf m)).length outcome) :
    FanOut p answers [] m (notes ++ outcome.map (.event m.seq)) := by
  cases h with
  | empty _ hOver => exact absurd hHeld hOver
  | inProgress hText _ hNone => exact .ended hText List.not_mem_nil (.all hNone) hOutcome
  | ended _ hOver _ _ => exact absurd hHeld hOver

end FanOut

end Notes

namespace Course
variable {s : Setting} {c d : Course} {p : Plan} {answers : Nat → String → List Delivery} {t : Turn}

/-- The calls of the senders for a cycle, and what is told of its dispatch. -/
def dispatchNotes (c : Course) (n : Nat) : List Note := dispatchOf n c.notes

theorem dispatchNotes_eq (c : Course) (n : Nat) :
    c.dispatchNotes n = dispatchOf n (c.turns.flatMap Turn.notes) := by
  unfold dispatchNotes notes
  split_ifs <;> simp

@[simp] theorem dispatchNotes_take (c : Course) (t : Turn) (n : Nat) :
    (c.take t).dispatchNotes n = c.dispatchNotes n ++ dispatchOf n t.notes := by
  simp [dispatchNotes_eq, take]

/-- How the dispatch of all cycles of a course stands: those that have not been taken have no part
in it, those that have been are fanned out, and the calls in progress go as the senders answer. -/
structure Dispatches (p : Plan) (answers : Nat → String → List Delivery) (c : Course) : Prop where
  untaken : ∀ n, n ∉ c.taken.map Matched.seq → c.dispatchNotes n = []
  taken : ∀ m ∈ c.taken,
    FanOut p (answers m.seq) c.group.dispatch.held m (c.dispatchNotes m.seq)
  sending : ∀ n calls, c.group.dispatch = .sending n calls →
    ∃ m ∈ c.taken, m.seq = n ∧ List.Forall₂ Call.Follows (answers n (p.textOf m)) calls

namespace Dispatches
variable (hc : c.Dispatches p answers)
include hc

theorem of_same (hTurns : d.turns = c.turns) (hDispatch : d.group.dispatch = c.group.dispatch) :
    d.Dispatches p answers := by
  have hTaken : d.taken = c.taken := congrArg (List.filterMap Turn.taken?) hTurns
  have hNotes (n : Nat) : d.dispatchNotes n = c.dispatchNotes n := by
    rw [dispatchNotes_eq, dispatchNotes_eq, hTurns]
  constructor
  · rw [hTaken]
    exact fun n hn => (hNotes n).trans (hc.untaken n hn)
  · rw [hTaken, hDispatch]
    exact fun m hm => hNotes m.seq ▸ hc.taken m hm
  · rw [hTaken, hDispatch]
    exact hc.sending

/-- A turn that tells nothing of a dispatch leaves it as it stands. -/
theorem keeps (hTaken : t.taken? = none) (hNotes : ∀ n, dispatchOf n t.notes = [])
    (hHeld : t.after.dispatch.held = c.group.dispatch.held)
    (hCalls : ∀ n calls, t.after.dispatch = .sending n calls → ∃ before,
      c.group.dispatch = .sending n before ∧
        ∀ ds, List.Forall₂ Call.Follows ds before → List.Forall₂ Call.Follows ds calls) :
    (c.take t).Dispatches p answers := by
  have hSame : (c.take t).taken = c.taken := by simp [hTaken]
  constructor
  · intro n hn
    rw [dispatchNotes_take, hNotes, List.append_nil]
    exact hc.untaken n (hSame ▸ hn)
  · intro m hm
    rw [dispatchNotes_take, hNotes, List.append_nil, take_group, hHeld]
    exact hc.taken m (hSame ▸ hm)
  · intro n calls hSending
    obtain ⟨before, hBefore, hFollows⟩ := hCalls n calls hSending
    obtain ⟨m, hm, hSeq, hCalls⟩ := hc.sending n before hBefore
    exact ⟨m, hSame ▸ hm, hSeq, hFollows _ hCalls⟩

/-- A turn that takes a cycle tells only of that one, of which nothing has been told before. -/
theorem takes {m : Matched} (hTaken : t.taken? = some m) (hFresh : m.seq ∉ c.taken.map Matched.seq)
    (hIdle : c.group.dispatch = .idle)
    (hFan : FanOut p (answers m.seq) t.after.dispatch.held m t.notes)
    (hHeld : ∀ n ∈ t.after.dispatch.held, n = m.seq)
    (hCalls : ∀ n calls, t.after.dispatch = .sending n calls →
      List.Forall₂ Call.Follows (answers n (p.textOf m)) calls) :
    (c.take t).Dispatches p answers := by
  have hMore : (c.take t).taken = c.taken ++ [m] := by simp [hTaken]
  obtain ⟨hAll, hNone⟩ := dispatchOf_eq hFan.isDispatchOf
  constructor
  · intro n hn
    rw [hMore, List.map_append, List.mem_append, not_or] at hn
    have hNe : n ≠ m.seq := fun hEq => hn.2 (by simp [hEq])
    rw [dispatchNotes_take, hc.untaken n hn.1, hNone n hNe, List.append_nil]
  · intro m' hm'
    rw [hMore] at hm'
    rcases List.mem_append.1 hm' with hBefore | hNow
    · -- The cycles taken before are over, since the stage was idle.
      have hNe : m'.seq ≠ m.seq := fun hEq => hFresh (hEq ▸ List.mem_map_of_mem hBefore)
      have hOver : m'.seq ∉ t.after.dispatch.held := fun hMem => hNe (hHeld _ hMem)
      rw [dispatchNotes_take, hNone _ hNe, List.append_nil, take_group]
      exact (hc.taken m' hBefore).congr (iff_of_false hOver (by simp [hIdle]))
    · obtain rfl := List.mem_singleton.1 hNow
      rw [dispatchNotes_take, hc.untaken _ hFresh, List.nil_append, hAll, take_group]
      exact hFan
  · intro n calls hSending
    rw [take_group] at hSending
    have hSeq : m.seq = n := (hHeld n (by rw [hSending]; simp)).symm
    exact ⟨m, by simp [hMore], hSeq, hCalls n calls hSending⟩

/-- A turn that ends the calls in progress tells what comes of them. -/
theorem ends {seq : Nat} {calls : List Call} (hNodup : (c.taken.map Matched.seq).Nodup)
    (hSending : c.group.dispatch = .sending seq calls) (hTaken : t.taken? = none)
    (hIdle : t.after.dispatch = .idle)
    (hOutcome : ∀ ds, List.Forall₂ Call.Follows ds calls →
      ∃ outcome : List Event, t.notes = outcome.map (.event seq) ∧ Concludes ds ds.length outcome) :
    (c.take t).Dispatches p answers := by
  have hSame : (c.take t).taken = c.taken := by simp [hTaken]
  obtain ⟨m, hm, rfl, hFollows⟩ := hc.sending seq calls hSending
  obtain ⟨outcome, hNotes, hConcludes⟩ := hOutcome _ hFollows
  obtain ⟨hAll, hNone⟩ := dispatchOf_eq (isDispatchOf_outcome m.seq hConcludes)
  rw [← hNotes] at hAll hNone
  constructor
  · intro n hn
    have hNe : n ≠ m.seq := by
      rintro rfl
      exact hn (List.mem_map_of_mem (hSame ▸ hm))
    rw [dispatchNotes_take, hNone n hNe, List.append_nil]
    exact hc.untaken n (hSame ▸ hn)
  · intro m' hm'
    rw [hSame] at hm'
    have hFanned := hc.taken m' hm'
    rw [dispatchNotes_take, take_group, hIdle, DispatchState.held_idle]
    by_cases hCycle : m'.seq = m.seq
    · obtain rfl := List.inj_on_of_nodup_map hNodup hm' hm hCycle
      rw [hAll, hNotes]
      exact hFanned.ends (by simp [hSending]) hConcludes
    · rw [hNone _ hCycle, List.append_nil]
      exact hFanned.congr (iff_of_false List.not_mem_nil (by simp [hSending, hCycle]))
  · intro n calls' hAfter
    rw [take_group, hIdle] at hAfter
    cases hAfter

theorem take_dispatch {time : Nat} {after : Group} {notes : List Note}
    (hNodup : ((c.take ⟨.dispatch, time, c.group, after, notes⟩).taken.map Matched.seq).Nodup)
    (h : Group.DispatchTurn p time (answers c.group.nextDispatched) c.group after notes) :
    (c.take ⟨.dispatch, time, c.group, after, notes⟩).Dispatches p answers := by
  rw [taken_take, List.map_append, List.nodup_append] at hNodup
  obtain ⟨hBefore, _, hDisjoint⟩ := hNodup
  have hFresh {m : Matched} (hTaken : (Turn.mk .dispatch time c.group after notes).taken? = some m) :
      m.seq ∉ c.taken.map Matched.seq :=
    fun hMem => hDisjoint m.seq hMem m.seq (by simp [hTaken]) rfl
  cases h with
  | @empty m rest hState hQueue hText =>
      have hTaken : (Turn.mk .dispatch time c.group { c.group with toDispatch := rest }
          [.event m.seq .emptyMessage]).taken? = some m := by simp [Turn.taken?, hState, hQueue]
      refine hc.takes hTaken (hFresh hTaken) hState (.empty hText (by simp [hState])) ?_ ?_
      · simp [hState]
      · simp [hState]
  | @send m rest called calls hState hQueue hText hCalls =>
      have hHead : c.group.nextDispatched = m.seq := by simp [Group.nextDispatched, hQueue]
      rw [hHead] at hCalls ⊢
      obtain ⟨rfl, hNone⟩ := calls_of_startCalls_ok hCalls
      have hTaken : (Turn.mk .dispatch time c.group
          { c.group with toDispatch := rest, dispatch := .sending m.seq calls }
          (Group.sendNotes p (answers m.seq) m (answers m.seq (p.textOf m)).length)).taken? = some m := by
        simp [Turn.taken?, hState, hQueue]
      refine hc.takes hTaken ?_ hState (.inProgress hText (by simp) hNone) (by simp) ?_
      · exact hFresh (by simp [Turn.taken?, hState, hQueue])
      · rintro n calls' ⟨⟩
        exact follows_of_startCalls hCalls
  | @crash m rest called message hState hQueue hText hCalls =>
      have hHead : c.group.nextDispatched = m.seq := by simp [Group.nextDispatched, hQueue]
      rw [hHead] at hCalls ⊢
      obtain ⟨hCalled, hConcludes⟩ := concludes_of_startCalls hCalls
      refine hc.takes (m := m) (by simp [Turn.taken?, hState, hQueue]) ?_ hState
        (.ended hText (by simp [hState]) hCalled hConcludes) (by simp [hState]) (by simp [hState])
      exact hFresh (by simp [Turn.taken?, hState, hQueue])
  | stop hState hQueue _ =>
      refine hc.keeps ?_ (by simp) (by simp [hState]) (by simp)
      simp [Turn.taken?, hState, hQueue]
  | @finish seq calls hState hEnded =>
      refine hc.ends hBefore hState (by simp [Turn.taken?, hState]) rfl ?_
      exact fun _ hFollows => concludes_of_ended seq hFollows hEnded
  | @poll seq calls done hState _ hPoll =>
      refine hc.keeps (by simp [Turn.taken?, hState]) (by simp) (by simp [hState]) ?_
      rintro n calls' ⟨⟩
      exact ⟨calls, hState, fun _ hFollows => follows_of_pollCalls hFollows hPoll⟩
  | @panicked seq calls message hState _ hPoll =>
      refine hc.ends hBefore hState (by simp [Turn.taken?, hState]) rfl ?_
      exact fun _ hFollows => ⟨[.sendPanicked message], rfl, concludes_of_pollCalls hFollows hPoll⟩

/-- Each turn keeps the dispatch of all cycles as it should stand. -/
theorem take {stage : Stage} {time : Nat} {visit : Http.Visit} {after : Group} {notes : List Note}
    (hNodup : ((c.take ⟨stage, time, c.group, after, notes⟩).taken.map Matched.seq).Nodup)
    (h : c.group.turn p stage time visit (answers c.group.nextDispatched) = some (after, notes)) :
    (c.take ⟨stage, time, c.group, after, notes⟩).Dispatches p answers := by
  have hOther (hStage : stage ≠ .dispatch) (hSame : after.dispatch = c.group.dispatch)
      (hNotes : ∀ n, dispatchOf n notes = []) :
      (c.take ⟨stage, time, c.group, after, notes⟩).Dispatches p answers := by
    refine hc.keeps ?_ hNotes (congrArg DispatchState.held hSame) ?_
    · cases stage with
      | dispatch => exact absurd rfl hStage
      | _ => rfl
    · intro n calls hAfter
      exact ⟨calls, hSame ▸ hAfter, fun _ hFollows => hFollows⟩
  cases stage with
  | trigger => cases Group.triggerTurn_cases h <;> exact hOther (by decide) rfl (by simp)
  | fetch =>
      cases Group.fetchTurn_cases h <;>
        exact hOther (by decide) rfl (by simp [dispatchOf, Note.isDispatchOf, Event.target])
  | evaluate =>
      cases Group.evaluateTurn_cases h <;>
        exact hOther (by decide) rfl (by simp [dispatchOf, Note.isDispatchOf, Event.target])
  | dispatch => exact hc.take_dispatch hNodup (Group.dispatchTurn_cases h)

end Dispatches

/-- However the stages take turns, the dispatch of all cycles stands as it should. -/
theorem Reachable.dispatches (h : Reachable s c) (hAnswered : c.Answered s.plan answers) :
    c.Dispatches s.plan answers := by
  induction h with
  | refl => exact ⟨fun _ _ => rfl, fun _ hm => (nomatch hm), fun _ _ hSending => nomatch hSending⟩
  | @tail c d hPrior hStep ih =>
      cases hStep with
      | turn hTime hVisit hDeliveries hTurn =>
          obtain ⟨_, hSame⟩ := hAnswered _ (List.mem_append_right _ (List.mem_singleton_self _))
          have hBefore := ih fun t ht => hAnswered t (List.mem_append_left _ ht)
          have hStep := Reachable.step hPrior (.turn hTime hVisit hDeliveries hTurn)
          exact hBefore.take hStep.taken_nodup hSame
      | shutdown _ => exact (ih hAnswered).of_same rfl rfl
      | join _ _ => exact (ih hAnswered).of_same rfl rfl

/-- The calls in progress can end when each sender that answers the cycle in hand takes some time. -/
theorem Dispatches.exists_endsBy (hc : c.Dispatches p answers)
    (hTimely : ∀ m ∈ c.taken, m.seq ∈ c.group.dispatch.held →
      ∀ d ∈ answers m.seq (p.textOf m), d.delay.isSome = true) :
    ∃ time, c.group.dispatch.EndsBy time := by
  cases hState : c.group.dispatch with
  | sending seq calls =>
      obtain ⟨m, hm, rfl, hFollows⟩ := hc.sending seq calls hState
      exact exists_endsBy_of_follows m.seq hFollows (hTimely m hm (by simp [hState]))
  | idle => exact ⟨0, trivial⟩
  | stopped => exact ⟨0, trivial⟩

/-- However the stages take turns and whatever mix of outcomes the calls of the senders have: the
dispatch stage takes the cycles whose results match, in order, each once, and all of them by the
time shutdown has returned. For a cycle with an empty text it calls no sender. Otherwise it calls
them in order with that text, all of them or up to the first that panics as it is called; and when
the calls have ended, it tells of one panic if there was any, otherwise of all failures at once in
the order of the senders, otherwise of nothing. It calls no sender for another cycle. And when the
calls in progress each take some time, there is a time from which on the stage can always go on
until it has taken the next cycle, for which three more turns are enough. -/
theorem fans_out (h : Reachable s c) :
    (∃ answers : Nat → String → List Delivery,
      (∀ n, s.Allows (answers n)) ∧ c.Answered s.plan answers) ∧
    ∀ answers, c.Answered s.plan answers →
      (c.taken <+: c.results.filterMap s.plan.matchedOfResult? ∧ (c.taken.map Matched.seq).Nodup ∧
        (c.HasReturned → c.taken = c.results.filterMap s.plan.matchedOfResult?)) ∧
      (∀ m ∈ c.taken,
        FanOut s.plan (answers m.seq) c.group.dispatch.held m (c.dispatchNotes m.seq)) ∧
      (∀ n, n ∉ c.taken.map Matched.seq → c.dispatchNotes n = []) ∧
      ∀ m rest, c.group.toDispatch = m :: rest →
        (∀ m' ∈ c.taken, m'.seq ∈ c.group.dispatch.held →
          ∀ d ∈ answers m'.seq (s.plan.textOf m'), d.delay.isSome = true) →
        ∃ time, (∀ now, time ≤ now → c.group.canTurn .dispatch now = true) ∧
          ∀ d more, Leads s c d → d.turns = c.turns ++ more → 3 ≤ dispatchTurns time more →
            m ∈ d.taken := by
  refine ⟨h.exists_answered, fun answers hAnswered => ?_⟩
  have hc := h.dispatches hAnswered
  refine ⟨⟨h.taken_prefix, h.taken_nodup, h.taken_of_returned⟩, hc.taken, hc.untaken, ?_⟩
  intro m rest hQueue hTimely
  obtain ⟨time, hEnds⟩ := hc.exists_endsBy hTimely
  refine ⟨time, fun now hTime => Group.canTurn_of_endsBy h.cascades hQueue hEnds hTime, ?_⟩
  exact fun d more hLeads hTurns hCount => h.mem_taken hQueue hEnds hLeads hTurns hCount

end Course

namespace Sample

/-- For the first text the second sender panics at once, so that the third is not called; otherwise
the first and the third fail, the third one sooner. -/
def mixed (text : String) : List Delivery :=
  if text = "found 7" then
    [{ delay := some 4, ending := .returned (.error ["timed out"]) },
      { ending := .panicked (.text "no token") }, {}]
  else
    [{ delay := some 9, ending := .returned (.error ["request failed", "timed out"]) }, {},
      { delay := some 2, ending := .returned (.error ["unauthorized"]) }]

/-- Three senders that may do anything. -/
def mixedSetting : Setting where
  plan := plan
  senders := 3
  exists_visit := setting.exists_visit
  exists_delivery := ⟨{}, trivial⟩

def mixedTurn (stage : Stage) (time : Nat) (visit : Http.Visit := crash) : Move :=
  .turn stage time visit mixed

/-- The first two messages are done with, the third is with the senders, and the fourth waits. -/
def mixing : List Move :=
  [mixedTurn .trigger 0, mixedTurn .trigger 0, mixedTurn .fetch 0 (page 5 0x37), mixedTurn .fetch 5,
    mixedTurn .fetch 5, mixedTurn .evaluate 5, mixedTurn .evaluate 5, mixedTurn .evaluate 5,
    mixedTurn .dispatch 5,
    mixedTurn .trigger 10, mixedTurn .trigger 10, mixedTurn .trigger 10,
    mixedTurn .fetch 10 (page 5 0x38), mixedTurn .fetch 15, mixedTurn .fetch 15,
    mixedTurn .evaluate 15, mixedTurn .evaluate 15, mixedTurn .evaluate 15, mixedTurn .dispatch 15,
    mixedTurn .dispatch 17, mixedTurn .dispatch 24, mixedTurn .dispatch 24,
    mixedTurn .trigger 24, mixedTurn .trigger 24, mixedTurn .trigger 24,
    mixedTurn .fetch 24 (page 0 0x39), mixedTurn .fetch 24, mixedTurn .fetch 24,
    mixedTurn .evaluate 24, mixedTurn .evaluate 24, mixedTurn .evaluate 24, mixedTurn .dispatch 24,
    mixedTurn .trigger 34, mixedTurn .trigger 34, mixedTurn .trigger 34,
    mixedTurn .fetch 34 (page 0 0x36), mixedTurn .fetch 34, mixedTurn .fetch 34,
    mixedTurn .evaluate 34, mixedTurn .evaluate 34, mixedTurn .evaluate 34]

def mixedUp : Course := (Course.follow? plan {} mixing).getD {}

theorem permits_mixedTurn (stage : Stage) (time : Nat) (visit : Http.Visit) :
    mixedSetting.Permits (mixedTurn stage time visit) := by
  refine ⟨trivial, fun text => ⟨?_, fun _ _ => trivial⟩⟩
  unfold mixed
  split_ifs <;> rfl

theorem mixedUp_reachable : Course.Reachable mixedSetting mixedUp := by
  refine Course.leads_getD ?_ (by decide +kernel)
  simp only [mixing, List.forall_mem_cons, permits_mixedTurn, true_and]
  simp

theorem mixedUp_answered : mixedUp.Answered plan fun _ => mixed := by
  have hFollow : Course.follow? plan {} mixing = some mixedUp := by
    obtain ⟨d, hd⟩ := Option.isSome_iff_exists.1 (show (Course.follow? plan {} mixing).isSome by
      decide +kernel)
    simp [mixedUp, hd]
  refine answered_of_follow (fun t ht => by cases ht) ?_ hFollow
  intro stage time visit ds hm
  simp only [mixing, mixedTurn, List.mem_cons, List.not_mem_nil, Move.turn.injEq, or_false] at hm
  grind

theorem delay_of_mem_mixed {text : String} {d : Delivery} (hd : d ∈ mixed text) :
    d.delay.isSome = true := by
  unfold mixed at hd
  split_ifs at hd <;> simp only [List.mem_cons, List.not_mem_nil, or_false] at hd <;>
    rcases hd with rfl | rfl | rfl <;> rfl

end Sample

/-- One message ends with a panic before its last sender is called, the next one with two failures
that are told in the order of the senders, and while the third is sent the fourth is sure to be
next. -/
theorem Course.mixedUp_fans_out :
    Reachable Sample.mixedSetting Sample.mixedUp ∧
    (Sample.mixedUp.Answered Sample.plan fun _ => Sample.mixed) ∧
    Sample.mixedUp.taken.map Matched.seq = [1, 2, 3] ∧ Sample.mixedUp.group.dispatch.held = [3] ∧
    (List.range 3).map Sample.mixedUp.sentTo =
      [[(1, "found 7"), (2, "found 8"), (3, "found 9")], [(1, "found 7"), (2, "found 8"), (3, "found 9")],
        [(2, "found 8"), (3, "found 9")]] ∧
    (Sample.mixedUp.eventsOf 1).getLast?.map Event.details = some [("panic", "no token")] ∧
    (Sample.mixedUp.eventsOf 2).getLast?.map Event.details =
      some [("failed", "2"), ("errors", "[\"request failed: timed out\", \"unauthorized\"]")] ∧
    (∀ m ∈ Sample.mixedUp.taken, FanOut Sample.plan Sample.mixed Sample.mixedUp.group.dispatch.held m
      (Sample.mixedUp.dispatchNotes m.seq)) ∧
    ∃ m time, m.seq = 4 ∧ ∀ d more, Leads Sample.mixedSetting Sample.mixedUp d →
      d.turns = Sample.mixedUp.turns ++ more → 3 ≤ dispatchTurns time more → m ∈ d.taken := by
  obtain ⟨_, hAll⟩ := fans_out Sample.mixedUp_reachable
  obtain ⟨_, hFan, _, hNext⟩ := hAll _ Sample.mixedUp_answered
  have hQueue : Sample.mixedUp.group.toDispatch.map Matched.seq = [4] := by decide +kernel
  obtain ⟨m, rest, hCons⟩ : ∃ m rest, Sample.mixedUp.group.toDispatch = m :: rest := by
    refine List.exists_cons_of_ne_nil ?_
    intro hNil
    simp [hNil] at hQueue
  have hSeq : m.seq = 4 := by
    rw [hCons, List.map_cons] at hQueue
    exact (List.cons.inj hQueue).1
  obtain ⟨time, _, hTaken⟩ := hNext m rest hCons fun _ _ _ _ hd => Sample.delay_of_mem_mixed hd
  refine ⟨Sample.mixedUp_reachable, Sample.mixedUp_answered, ?_, ?_, ?_, ?_, ?_, hFan, m, time, hSeq, hTaken⟩
  · decide +kernel
  · decide +kernel
  · decide +kernel
  · decide +kernel
  · decide +kernel

end Lookout.Pipeline
