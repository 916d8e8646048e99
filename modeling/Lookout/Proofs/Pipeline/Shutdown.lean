import Lookout.Proofs.Pipeline.Messages
/-!
What shutdown leaves behind. From its call on no cycle is accepted any more; when it returns, every
cycle that was accepted has come to its end; and afterwards nothing happens.
-/
namespace Lookout.Pipeline

namespace Turn

theorem Moves.accepted_of_cancelled {t : Turn} (h : t.Moves) (hCancelled : t.before.cancelled = true) :
    t.accepted = [] := by
  cases h with
  | keeps hAccepted _ _ => exact hAccepted
  | enters _ _ hOpen _ _ _ => simp [hCancelled] at hOpen
  | leaves _ _ _ _ hAccepted _ _ _ => exact hAccepted

/-- A cycle that has been dispatched was in the hands of the dispatch stage. -/
theorem sending_of_fate {t : Turn} {n : Nat} (h : (n, Fate.dispatched) ∈ t.fates) :
    ∃ calls, t.before.dispatch = .sending n calls := by
  unfold fates at h
  split at h
  · rename_i seq calls _ hSending _
    cases List.mem_singleton.1 h
    exact ⟨calls, hSending⟩
  · obtain ⟨note, _, hFate⟩ := List.mem_filterMap.1 h
    unfold Note.fate? at hFate
    split at hFate <;> simp at hFate

end Turn

/-- A message that the dispatch stage has in hand was handed to all senders, now or before. -/
theorem Group.sending_of_turn {s : Setting} {stage : Stage} {now : Nat} {visit : Http.Visit}
    {deliveries : String → List Delivery} {g after : Group} {notes : List Note} {n : Nat}
    {calls : List Call} (hAllows : s.Allows deliveries)
    (h : g.turn s.plan stage now visit deliveries = some (after, notes))
    (hSending : after.dispatch = .sending n calls) :
    (∃ before, g.dispatch = .sending n before) ∨
      ∀ sender < s.senders, ∃ text, (n, text) ∈ notes.filterMap (Note.sentTo? sender) := by
  cases stage with
  | trigger => cases triggerTurn_cases h <;> exact .inl ⟨calls, hSending⟩
  | fetch => cases fetchTurn_cases h <;> exact .inl ⟨calls, hSending⟩
  | evaluate => cases evaluateTurn_cases h <;> exact .inl ⟨calls, hSending⟩
  | dispatch =>
      cases dispatchTurn_cases h with
      | empty _ _ _ => exact .inl ⟨calls, hSending⟩
      | crash _ _ _ _ => exact .inl ⟨calls, hSending⟩
      | @send m rest called calls' _ _ _ hCalls =>
          cases hSending
          refine .inr fun sender hSender => ⟨s.plan.textOf m, ?_⟩
          have hCalled : called = s.senders := by
            rw [(length_of_startCalls hCalls).1, (hAllows _).1]
          simp [sendNotes_sentTo, hCalled, hSender]
      | stop _ _ _ => cases hSending
      | finish _ _ => cases hSending
      | poll hState _ _ =>
          cases hSending
          exact .inl ⟨_, hState⟩
      | panicked _ _ _ => cases hSending

namespace Course
variable {s : Setting} {c d : Course}

/-- Once the group is cancelled, it accepts no more cycles. -/
theorem Reachable.accepted_of_cancelled (h : Reachable s c) (hCancelled : c.group.cancelled = true)
    (hLeads : Leads s c d) : d.accepted = c.accepted := by
  induction hLeads with
  | refl => rfl
  | tail hPrior hStep ih =>
      cases hStep with
      | turn _ _ _ hTurn =>
          have hMoves := Group.moves_of_turn (h.leads hPrior).cascades hTurn
          have hNone := hMoves.accepted_of_cancelled (cancelled_of_leads hCancelled hPrior)
          rw [accepted_take, hNone, List.append_nil, ih]
      | shutdown _ => exact ih
      | join _ _ => exact ih

/-- All senders have been called with a cycle that is being sent or has been dispatched. -/
structure Sends (s : Setting) (c : Course) : Prop where
  sending : ∀ n calls, c.group.dispatch = .sending n calls →
    ∀ sender < s.senders, ∃ text, (n, text) ∈ c.sentTo sender
  dispatched : ∀ n, (n, Fate.dispatched) ∈ c.fates →
    ∀ sender < s.senders, ∃ text, (n, text) ∈ c.sentTo sender

theorem Sends.of_same (h : c.Sends s) (hDispatch : d.group.dispatch = c.group.dispatch)
    (hFates : d.fates = c.fates) (hSent : ∀ sender, d.sentTo sender = c.sentTo sender) : d.Sends s := by
  constructor
  · intro n calls hSending sender hSender
    rw [hSent]
    exact h.sending n calls (hDispatch.symm.trans hSending) sender hSender
  · intro n hFate sender hSender
    rw [hSent]
    exact h.dispatched n (hFates ▸ hFate) sender hSender

theorem Reachable.sends (h : Reachable s c) : c.Sends s := by
  induction h with
  | refl => exact ⟨fun _ _ hSending => (nomatch hSending), fun _ hFate => (nomatch hFate)⟩
  | @tail c d _ hStep ih =>
      cases hStep with
      | @turn stage time visit deliveries after notes _ _ hDeliveries hTurn =>
          have hKept {n sender : Nat} (hn : ∃ text, (n, text) ∈ c.sentTo sender) :
              ∃ text, (n, text) ∈ (c.take ⟨stage, time, c.group, after, notes⟩).sentTo sender := by
            obtain ⟨text, hText⟩ := hn
            exact ⟨text, by simp [hText]⟩
          constructor
          · intro n calls hSending sender hSender
            rcases Group.sending_of_turn hDeliveries hTurn hSending with ⟨before, hBefore⟩ | hCalled
            · exact hKept (ih.sending n before hBefore sender hSender)
            · obtain ⟨text, hText⟩ := hCalled sender hSender
              refine ⟨text, ?_⟩
              rw [sentTo_take]
              exact List.mem_append_right _ hText
          · intro n hFate sender hSender
            rw [fates_take] at hFate
            rcases List.mem_append.1 hFate with hBefore | hNow
            · exact hKept (ih.dispatched n hBefore sender hSender)
            · obtain ⟨calls, hSending⟩ := Turn.sending_of_fate hNow
              exact hKept (ih.sending n calls hSending sender hSender)
      | shutdown _ => exact ih.of_same rfl rfl (sentTo_beginShutdown c)
      | join _ _ => exact ih.of_same rfl rfl (sentTo_join c _)

/-- What is true of a cycle that has come to its end: the crawler was called for it once, it has one
fate, and all senders were called if that is to be dispatched. -/
structure Settles (s : Setting) (c : Course) (n : Nat) : Prop where
  visited : c.visited.count n = 1
  finished : c.finished.count n = 1
  fate : ∃! fate, (n, fate) ∈ c.fates
  sent : (n, Fate.dispatched) ∈ c.fates → ∀ sender < s.senders, ∃ text, (n, text) ∈ c.sentTo sender

/-- When shutdown has returned, every cycle that was accepted has come to its end. -/
theorem Reachable.settles (h : Reachable s c) (hReturned : c.HasReturned) {n : Nat}
    (hn : n ∈ c.accepted) : c.Settles s n := by
  have hOrder := h.inOrder
  have hVisited := hOrder.visited
  have hConserved := hOrder.conserved
  rw [h.eq_ended hReturned] at hVisited hConserved
  have hAll : c.visited = c.accepted := by simpa [Group.ended] using hVisited
  have hEnds : c.finished.Perm c.accepted := by
    simpa [Group.onTheWay, Group.ended] using hConserved
  have hNodup : c.finished.Nodup := hEnds.nodup_iff.2 hOrder.accepted_nodup
  have hFinished : n ∈ c.finished := hEnds.mem_iff.2 hn
  constructor
  · rw [hAll]
    exact List.count_eq_one_of_mem hOrder.accepted_nodup hn
  · exact List.count_eq_one_of_mem hNodup hFinished
  · obtain ⟨⟨m, fate⟩, hFate, rfl⟩ := List.mem_map.1 hFinished
    refine ⟨fate, hFate, fun other hOther => ?_⟩
    have hSame := List.inj_on_of_nodup_map hNodup hOther hFate rfl
    exact congrArg Prod.snd hSame
  · exact h.sends.dispatched n

/-- After shutdown has returned nothing happens. -/
theorem Reachable.not_step_of_returned (h : Reachable s c) (hReturned : c.HasReturned) :
    ¬ Step s c d := by
  intro hStep
  cases hStep with
  | @turn stage _ _ _ _ _ _ _ _ hTurn =>
      have hStopped := Group.isStopped_iff.1 (h.isStopped hReturned) stage
      simp [Group.hasStopped_eq_false_of_turn hTurn] at hStopped
  | shutdown hFirst => cases hReturned.symm.trans hFirst
  | join hAwaited _ => cases hReturned.symm.trans hAwaited

/-- Whenever shutdown is called and however the stages take turns from then on: no further cycle is
accepted, not even the one that the trigger has in hand; when shutdown returns, all stages have
stopped, all queues are empty, and every cycle that was accepted has come to its end; and after
that neither the crawler nor a sender is ever called. -/
theorem shutdown_drains (h : Reachable s c) (hFirst : c.awaited = none)
    (hLeads : Leads s c.beginShutdown d) :
    (d.accepted = c.accepted ∧ ∀ n, c.group.trigger.next? = some n → n ∉ d.accepted) ∧
    (d.HasReturned →
      d.group.isStopped = true ∧
      (d.group.toFetch = [] ∧ d.group.toEvaluate = [] ∧ d.group.toDispatch = []) ∧
      ∀ n ∈ d.accepted, d.Settles s n) ∧
    (d.HasReturned → ∀ e, Leads s d e →
      e.visited = d.visited ∧ ∀ sender, e.sentTo sender = d.sentTo sender) := by
  have hShut : Reachable s c.beginShutdown := h.step (.shutdown hFirst)
  have hd : Reachable s d := hShut.leads hLeads
  have hAccepted : d.accepted = c.accepted := hShut.accepted_of_cancelled rfl hLeads
  refine ⟨⟨hAccepted, fun n hNext hMem => ?_⟩, fun hReturned => ⟨hd.isStopped hReturned, ?_, ?_⟩,
    fun hReturned e hLater => ?_⟩
  · have hNumber := h.inOrder.next n hNext
    rw [hAccepted, h.inOrder.accepted, List.mem_range'_1] at hMem
    omega
  · rw [hd.eq_ended hReturned]
    exact ⟨rfl, rfl, rfl⟩
  · exact fun n hn => hd.settles hReturned hn
  · have hSame : e = d := by
      rcases hLater.cases_head with hEq | ⟨_, hStep, _⟩
      · exact hEq.symm
      · exact absurd hStep (hd.not_step_of_returned hReturned)
    rw [hSame]
    exact ⟨rfl, fun _ => rfl⟩

/-- Cycle 5 is given up, and the four before it come to their ends. -/
theorem closed_drained :
    Reachable Sample.setting Sample.opened ∧ Sample.opened.awaited = none ∧
    Leads Sample.setting Sample.opened.beginShutdown Sample.closed ∧
    Sample.opened.group.trigger.next? = some 5 ∧ 5 ∉ Sample.closed.accepted ∧
    Sample.closed.HasReturned ∧ Sample.closed.group.isStopped = true ∧
    Sample.closed.accepted = [1, 2, 3, 4] ∧
    Sample.closed.fates = [(2, .fetchPanicked), (1, .dispatched), (4, .fetchFailed), (3, .dispatched)] ∧
    ∀ n ∈ Sample.closed.accepted, Sample.closed.Settles Sample.setting n := by
  have hOffered : Sample.opened.group.trigger.next? = some 5 := by decide +kernel
  obtain ⟨⟨_, hGivenUp⟩, hDrained, _⟩ :=
    shutdown_drains Sample.opened_reachable Sample.opened_awaited Sample.opened_leads_closed
  obtain ⟨hStopped, _, hSettles⟩ := hDrained Sample.closed_hasReturned
  refine ⟨Sample.opened_reachable, Sample.opened_awaited, Sample.opened_leads_closed, hOffered,
    hGivenUp 5 hOffered, Sample.closed_hasReturned, hStopped, ?_, ?_, hSettles⟩
  · decide +kernel
  · decide +kernel

end Course

end Lookout.Pipeline
