import Lookout.Proofs.Pipeline.Outcomes
import Lookout.Proofs.Pipeline.Stories
/-!
How the dispatch stage goes on from one cycle to the next. Whatever comes of one message the next
cycle is taken: calls that have all ended leave the stage at most three turns away from it.
-/
namespace Lookout.Pipeline

/-- No cycle is taken twice. -/
theorem Course.Reachable.taken_nodup {s : Setting} {c : Course} (h : Reachable s c) :
    (c.taken.map Matched.seq).Nodup := by
  have hResults : c.results.Pairwise fun a b => a.1 ≠ b.1 := List.pairwise_map.1 h.results_nodup
  have hMatched : (c.results.filterMap s.plan.matchedOfResult?).Pairwise fun a b => a.seq ≠ b.seq := by
    refine hResults.filterMap _ fun a b hNe x hx y hy => ?_
    rw [Plan.seq_of_matchedOfResult? hx, Plan.seq_of_matchedOfResult? hy]
    exact hNe
  exact List.pairwise_map.2 (hMatched.sublist h.taken_prefix.sublist)

/-! ### Going on to the next cycle -/

/-- Whether all calls in progress end up to a time. -/
def DispatchState.EndsBy (time : Nat) : DispatchState → Prop
  | sending _ calls => ∀ call ∈ calls, call.isWaiting = true → call.isDue time = true
  | idle | stopped => True

/-- How many turns the stage is away from having taken the next cycle, once all calls can end. -/
def DispatchState.turnsLeft : DispatchState → Nat
  | idle => 1
  | sending _ calls => if calls.any Call.isWaiting then 3 else 2
  | stopped => 0

namespace Call
variable {now time : Nat} {call done : Call}

theorem isDue_mono (hTime : time ≤ now) (h : call.isDue time = true) : call.isDue now = true := by
  cases call with
  | waiting due ending =>
      cases due with
      | none => cases h
      | some due =>
          simp only [isDue, Option.any_some, decide_eq_true_eq] at h ⊢
          omega
  | succeeded => cases h
  | failed chain => cases h

/-- A call that waits after it has been polled has not been changed, and was not due. -/
theorem Polled.eq_of_waiting (h : call.Polled now done) (hWaits : done.isWaiting = true) :
    done = call ∧ call.isDue now = false := by
  cases h with
  | waits hNot => exact ⟨rfl, hNot⟩
  | succeeds _ => cases hWaits
  | fails _ => cases hWaits

end Call

section Polling
variable {now time : Nat} {ds : List Delivery} {calls done : List Call}

/-- A call that waits after polling was there before, and was not due. -/
theorem waiting_of_pollCalls {call : Call} (h : pollCalls now calls = .ok done) (hCall : call ∈ done)
    (hWaits : call.isWaiting = true) : call ∈ calls ∧ call.isDue now = false := by
  obtain ⟨before, hBefore, hPolled⟩ := exists_rel_of_mem (polled_of_pollCalls h) hCall
  obtain ⟨rfl, hNot⟩ := hPolled.eq_of_waiting hWaits
  exact ⟨hBefore, hNot⟩

/-- When each sender takes some time, there is a time at which all of its calls can have ended. -/
theorem exists_endsBy_of_follows (seq : Nat) (hCalls : List.Forall₂ Call.Follows ds calls)
    (hTimely : ∀ d ∈ ds, d.delay.isSome = true) :
    ∃ time, DispatchState.EndsBy time (.sending seq calls) := by
  induction hCalls with
  | nil => exact ⟨0, fun call hCall => nomatch hCall⟩
  | @cons d call ds calls hFirst _ ih =>
      obtain ⟨later, hLater⟩ := ih fun e he => hTimely e (List.mem_cons_of_mem _ he)
      have hDue : call.isWaiting = true → call.due?.isSome = true := by
        intro hWaits
        rw [hFirst.due hWaits]
        exact hTimely d List.mem_cons_self
      refine ⟨max later (call.due?.getD 0), ?_⟩
      intro other hOther hWaits
      rcases List.mem_cons.1 hOther with rfl | hOther
      · obtain ⟨due, hSome⟩ := Option.isSome_iff_exists.1 (hDue hWaits)
        cases other with
        | waiting due' ending =>
            change due' = some due at hSome
            simp only [Call.isDue, Call.due?, hSome, Option.any_some, Option.getD_some,
              decide_eq_true_eq]
            exact le_max_right _ _
        | succeeded => cases hWaits
        | failed chain => cases hWaits
      · exact Call.isDue_mono (le_max_left _ _) (hLater other hOther hWaits)

end Polling

namespace Group
variable {p : Plan} {stage : Stage} {now time : Nat} {visit : Http.Visit}
  {deliveries : String → List Delivery} {g after : Group} {notes : List Note} {m : Matched}
  {rest : List Matched}

/-- A stage whose queue holds a cycle has not stopped. -/
theorem Cascades.dispatch_ne_stopped (hg : g.Cascades) (hQueue : g.toDispatch = m :: rest) :
    g.dispatch ≠ .stopped := by
  intro hStopped
  have hNone := (hg.dispatch (by rw [hStopped]; rfl)).2
  cases hQueue.symm.trans hNone

/-- From the time on at which all calls can have ended, the stage has something to do until its
queue is empty. -/
theorem canTurn_of_endsBy (hg : g.Cascades) (hQueue : g.toDispatch = m :: rest)
    (hEnds : g.dispatch.EndsBy time) (hTime : time ≤ now) : g.canTurn .dispatch now = true := by
  cases hState : g.dispatch with
  | idle => simp [canTurn, hState, hQueue]
  | sending seq calls =>
      rw [hState] at hEnds
      simp only [canTurn, hState, Bool.or_eq_true, Bool.not_eq_true', List.any_eq_true]
      by_cases hWaits : calls.any Call.isWaiting = true
      · right
        obtain ⟨call, hCall, hWaits⟩ := List.any_eq_true.1 hWaits
        exact ⟨call, hCall, Call.isDue_mono hTime (hEnds call hCall hWaits)⟩
      · exact .inl (eq_false_of_ne_true hWaits)
  | stopped => exact absurd hState (hg.dispatch_ne_stopped hQueue)

/-- Each turn of the stage takes the next cycle or brings it nearer, at the latest from the time on
at which all calls can have ended. -/
theorem turnsLeft_of_dispatchTurn (hQueue : g.toDispatch = m :: rest) (hEnds : g.dispatch.EndsBy time)
    (h : DispatchTurn p now deliveries g after notes) :
    (Turn.mk .dispatch now g after notes).taken? = some m ∨
      after.toDispatch = m :: rest ∧ after.dispatch.EndsBy time ∧
        after.dispatch.turnsLeft + (if time ≤ now then 1 else 0) ≤ g.dispatch.turnsLeft := by
  cases h with
  | empty hState _ _ => exact .inl (by simp [Turn.taken?, hState, hQueue])
  | send hState _ _ _ => exact .inl (by simp [Turn.taken?, hState, hQueue])
  | crash hState _ _ _ => exact .inl (by simp [Turn.taken?, hState, hQueue])
  | stop _ hEmpty _ => cases hQueue.symm.trans hEmpty
  | finish hState hEnded =>
      refine .inr ⟨hQueue, trivial, ?_⟩
      rw [hState]
      simp only [DispatchState.turnsLeft, hEnded]
      split_ifs <;> decide
  | @poll seq calls done hState hDue hPoll =>
      rw [hState] at hEnds ⊢
      have hWaits : calls.any Call.isWaiting = true := by
        obtain ⟨call, hCall, hNow⟩ := List.any_eq_true.1 hDue
        refine List.any_eq_true.2 ⟨call, hCall, ?_⟩
        cases call with
        | waiting due ending => rfl
        | succeeded => cases hNow
        | failed chain => cases hNow
      refine .inr ⟨hQueue, ?_, ?_⟩
      · intro call hCall hStill
        exact hEnds call (waiting_of_pollCalls hPoll hCall hStill).1 hStill
      · simp only [DispatchState.turnsLeft, hWaits, if_true]
        split_ifs with hStill hTime
        · -- A call that still waits was not due, yet all calls are due from that time on.
          obtain ⟨call, hCall, hStill⟩ := List.any_eq_true.1 hStill
          obtain ⟨hBefore, hNot⟩ := waiting_of_pollCalls hPoll hCall hStill
          rw [Call.isDue_mono hTime (hEnds call hBefore hStill)] at hNot
          cases hNot
        all_goals decide
  | @panicked seq calls message hState _ _ =>
      refine .inr ⟨hQueue, trivial, ?_⟩
      rw [hState]
      simp only [DispatchState.turnsLeft]
      split_ifs <;> decide

/-- Turns of the other stages leave the next cycle where it is. -/
theorem turnsLeft_of_turn (hQueue : g.toDispatch = m :: rest) (hEnds : g.dispatch.EndsBy time)
    (h : g.turn p stage now visit deliveries = some (after, notes)) :
    (Turn.mk stage now g after notes).taken? = some m ∨
      (∃ rest', after.toDispatch = m :: rest') ∧ after.dispatch.EndsBy time ∧
        after.dispatch.turnsLeft + (if stage = .dispatch ∧ time ≤ now then 1 else 0) ≤
          g.dispatch.turnsLeft := by
  have hOther (hStage : stage ≠ .dispatch) (hDispatch : after.dispatch = g.dispatch)
      (hKept : ∃ rest', after.toDispatch = m :: rest') :
      (∃ rest', after.toDispatch = m :: rest') ∧ after.dispatch.EndsBy time ∧
        after.dispatch.turnsLeft + (if stage = .dispatch ∧ time ≤ now then 1 else 0) ≤
          g.dispatch.turnsLeft := by
    rw [hDispatch, if_neg fun h => hStage h.1]
    exact ⟨hKept, hEnds, le_rfl⟩
  cases stage with
  | trigger => cases triggerTurn_cases h <;> exact .inr (hOther (by decide) rfl ⟨rest, hQueue⟩)
  | fetch => cases fetchTurn_cases h <;> exact .inr (hOther (by decide) rfl ⟨rest, hQueue⟩)
  | evaluate =>
      cases evaluateTurn_cases h with
      | hand _ _ _ => exact .inr (hOther (by decide) rfl ⟨_, by rw [hQueue]; rfl⟩)
      | _ => exact .inr (hOther (by decide) rfl ⟨rest, hQueue⟩)
  | dispatch =>
      rcases turnsLeft_of_dispatchTurn hQueue hEnds (dispatchTurn_cases h) with hTaken | hLeft
      · exact .inl hTaken
      · obtain ⟨hKept, hStill, hLess⟩ := hLeft
        exact .inr ⟨⟨rest, hKept⟩, hStill, by simpa using hLess⟩

end Group

/-- The number of turns that the dispatch stage takes from a time on. -/
def dispatchTurns (time : Nat) (turns : List Turn) : Nat :=
  turns.countP fun t => t.stage = .dispatch ∧ time ≤ t.time

namespace Course
variable {s : Setting} {c d : Course} {m : Matched} {rest : List Matched} {time : Nat}

/-- As a course goes on, the next cycle is taken or comes nearer with each turn of the stage. -/
theorem turnsLeft_of_leads (hQueue : c.group.toDispatch = m :: rest)
    (hEnds : c.group.dispatch.EndsBy time) (hLeads : Leads s c d) :
    ∃ more, d.turns = c.turns ++ more ∧
      (m ∈ d.taken ∨ (∃ rest', d.group.toDispatch = m :: rest') ∧ d.group.dispatch.EndsBy time ∧
        d.group.dispatch.turnsLeft + dispatchTurns time more ≤ c.group.dispatch.turnsLeft) := by
  induction hLeads with
  | refl => exact ⟨[], (List.append_nil _).symm, .inr ⟨⟨rest, hQueue⟩, hEnds, le_rfl⟩⟩
  | @tail d e hPrior hStep ih =>
      obtain ⟨more, hTurns, hProgress⟩ := ih
      cases hStep with
      | @turn stage now visit deliveries after notes _ _ _ hTurn =>
          refine ⟨more ++ [⟨stage, now, d.group, after, notes⟩], by simp [take, hTurns], ?_⟩
          rcases hProgress with hTaken | ⟨⟨rest', hKept⟩, hStill, hLess⟩
          · exact .inl (by simp [hTaken])
          rcases Group.turnsLeft_of_turn hKept hStill hTurn with hNow | ⟨hNext, hAfter, hFewer⟩
          · exact .inl (by simp [hNow])
          · refine .inr ⟨hNext, hAfter, ?_⟩
            have hCount : dispatchTurns time [⟨stage, now, d.group, after, notes⟩] =
                if stage = .dispatch ∧ time ≤ now then 1 else 0 := by
              simp [dispatchTurns, List.countP_cons]
            have hSum : dispatchTurns time (more ++ [⟨stage, now, d.group, after, notes⟩]) =
                dispatchTurns time more + if stage = .dispatch ∧ time ≤ now then 1 else 0 := by
              rw [← hCount]
              exact List.countP_append
            change after.dispatch.turnsLeft + _ ≤ _
            rw [hSum]
            omega
      | shutdown _ => exact ⟨more, hTurns, hProgress⟩
      | join _ _ => exact ⟨more, hTurns, hProgress⟩

/-- Three turns of the stage are enough for the next cycle to be taken. -/
theorem Reachable.mem_taken (h : Reachable s c) (hQueue : c.group.toDispatch = m :: rest)
    (hEnds : c.group.dispatch.EndsBy time) (hLeads : Leads s c d) {more : List Turn}
    (hTurns : d.turns = c.turns ++ more) (hCount : 3 ≤ dispatchTurns time more) : m ∈ d.taken := by
  obtain ⟨more', hTurns', hProgress⟩ := turnsLeft_of_leads hQueue hEnds hLeads
  obtain rfl : more' = more := List.append_cancel_left (hTurns'.symm.trans hTurns)
  rcases hProgress with hTaken | ⟨⟨rest', hKept⟩, _, hLess⟩
  · exact hTaken
  · have hMost : c.group.dispatch.turnsLeft ≤ 3 := by
      cases c.group.dispatch with
      | sending seq calls =>
          simp only [DispatchState.turnsLeft]
          split_ifs <;> decide
      | _ => decide
    have hRuns := (h.leads hLeads).cascades.dispatch_ne_stopped hKept
    have hLeft : d.group.dispatch.turnsLeft = 0 := by omega
    cases hState : d.group.dispatch with
    | idle => simp [hState, DispatchState.turnsLeft] at hLeft
    | sending seq calls =>
        rw [hState, DispatchState.turnsLeft] at hLeft
        split_ifs at hLeft
    | stopped => exact absurd hState hRuns

end Course

end Lookout.Pipeline
