import Lookout.Proofs.Pipeline.Crawling
/-!
Worker groups whose crawler sends requests are on courses: whatever is to become of the call in progress,
there is a course on which it goes like that. So what is shown of every course holds of these groups, such as
how cycles are counted, and each cycle that the crawler is called for has its context.
-/
namespace Lookout.Pipeline

namespace Group

/-- The other stages see of the fetch stage only whether it has stopped. -/
theorem turn_withFetch (p : Plan) (now : Nat) (visit other : Http.Visit) (deliveries : String → List Delivery)
    (g : Group) {f : FetchState} (hStage : stage ≠ .fetch) (hStopped : f.isStopped = g.fetch.isStopped) :
    { g with fetch := f }.turn p stage now other deliveries =
      (g.turn p stage now visit deliveries).map fun (after, notes) => ({ after with fetch := f }, notes) := by
  cases stage with
  | trigger =>
      simp only [turn, triggerTurn, hStopped]
      split <;> first | rfl | (split_ifs <;> rfl)
  | fetch => exact absurd rfl hStage
  | evaluate =>
      simp only [turn, evaluateTurn, hStopped]
      cases g.evaluate with
      | idle => cases g.toEvaluate <;> first | rfl | (simp only; split_ifs <;> rfl)
      | evaluating page => simp only; split <;> first | rfl | (split_ifs <;> rfl)
      | offering m => simp only; split_ifs <;> rfl
      | stopped => rfl
  | dispatch =>
      simp only [turn, dispatchTurn]
      cases g.dispatch with
      | idle =>
          cases g.toDispatch with
          | nil => simp only; split_ifs <;> rfl
          | cons m rest =>
              simp only [startSending, Option.map_some]
              split_ifs
              · rfl
              · split <;> rfl
      | sending seq calls => simp only; split_ifs <;> first | rfl | (split <;> rfl)
      | stopped => rfl

/-- A call ends alike however it went. -/
theorem endFetch_withFetch (g : Group) (f : FetchState) (seq : Nat)
    (ending : Ending (Except Http.FetchError Http.Page)) :
    { g with fetch := f }.endFetch seq ending = g.endFetch seq ending := by
  unfold endFetch
  split <;> rfl

end Group

theorem exists_openVisit : ∃ _ : Http.Visit, True := ⟨openVisit, trivial⟩

/-- The setting in which calls of the crawler may go in any way. -/
def Setting.anyVisit (s : Setting) : Setting :=
  { s with mayVisit := fun _ => True, exists_visit := exists_openVisit }

namespace Crawling
variable {k l : Crawling} {s : Setting} {n : Nat} {visit : Http.Visit} {c : Course}

/-- Whether a course is that of the group if the call in progress goes as a visit says. -/
structure Mirrors (k : Crawling) (visit : Http.Visit) (c : Course) : Prop where
  group : c.group = { k.group with fetch := c.group.fetch }
  idle : k.call = none → c.group.fetch = k.group.fetch
  busy : ∀ n a, k.call = some (n, a) → ∃ since ≤ k.now,
    c.group.fetch = .fetching n (visit.delay.map (since + ·)) visit.cancellable visit.ending
  now : c.now ≤ k.now
  notes : c.turns.flatMap Turn.notes = k.notes

theorem Mirrors.eq_of_idle (hc : k.Mirrors visit c) (hCall : k.call = none) : c.group = k.group := by
  rw [hc.group, hc.idle hCall]

theorem Mirrors.notes_take {t : Turn} (hc : k.Mirrors visit c) :
    (c.take t).turns.flatMap Turn.notes = k.notes ++ t.notes := by
  simp [Course.take, hc.notes]

theorem Mirrors.isStopped_eq (hc : k.Mirrors visit c) (hk : k.InStep) :
    c.group.fetch.isStopped = k.group.fetch.isStopped := by
  cases hCall : k.call with
  | none => rw [hc.idle hCall]
  | some call =>
      obtain ⟨_, _, hFetch⟩ := hc.busy _ _ hCall
      rw [hFetch, (hk.busy _ _ hCall).1]
      rfl

/-- While no call is in progress, the fetch stage has the same turns; a call that begins goes as the visit
says. -/
theorem Mirrors.fetchTurn {time : Nat} {deliveries : String → List Delivery} {after : Group}
    {notes : List Note} (hc : k.Mirrors visit c) (hk : k.InStep) (hTime : k.now ≤ time)
    (hCall : k.call = none) (hDeliveries : s.Allows deliveries)
    (hTurn : k.group.turn s.plan .fetch time openVisit deliveries = some (after, notes)) :
    ∃ d, Course.Step s.anyVisit c d ∧
      (k.take s.plan ⟨.fetch, time, k.group, after, notes⟩).Mirrors visit d := by
  have hLater : c.now ≤ time := hc.now.trans hTime
  have hGroup := hc.eq_of_idle hCall
  have hIdle := hk.free hCall
  have hKept (hTwin : c.group.turn s.plan .fetch time visit deliveries = some (after, notes))
      (hNone : notes.filterMap Note.visited? = []) :
      ∃ d, Course.Step s.anyVisit c d ∧
        (k.take s.plan ⟨.fetch, time, k.group, after, notes⟩).Mirrors visit d := by
    have hSame : (k.take s.plan ⟨.fetch, time, k.group, after, notes⟩).call = none :=
      (take_call_of_nil hNone).trans hCall
    exact ⟨_, .turn hLater trivial hDeliveries hTwin, rfl, fun _ => rfl,
      fun _ _ hBusy => (by cases hSame.symm.trans hBusy), le_rfl, hc.notes_take⟩
  cases Group.fetchTurn_cases hTurn with
  | @call n rest hState hQueue =>
      have hTwin : c.group.turn s.plan .fetch time visit deliveries =
          some ({ k.group with
            toFetch := rest
            fetch := .fetching n (visit.delay.map (time + ·)) visit.cancellable visit.ending },
            [.fetch n]) := by
        simp [hGroup, Group.turn, Group.fetchTurn, hState, hQueue]
      refine ⟨_, .turn hLater trivial hDeliveries hTwin, rfl, fun hNone => (by cases hNone),
        fun m a hBusy => ?_, le_rfl, hc.notes_take⟩
      cases hBusy
      exact ⟨time, le_rfl, rfl⟩
  | stop hState hQueue hClosed =>
      exact hKept (by simp [hGroup, Group.turn, Group.fetchTurn, hState, hQueue, hClosed]) rfl
  | hand hState hRuns hRoom =>
      exact hKept (by simp [hGroup, Group.turn, Group.fetchTurn, hState, hRuns, hRoom]) rfl
  | closed hState hStopped =>
      exact hKept (by simp [hGroup, Group.turn, Group.fetchTurn, hState, hStopped]) rfl
  | panicked hSome _ => exact absurd hSome (Group.result?_ne_some hIdle)
  | failed hSome _ => exact absurd hSome (Group.result?_ne_some hIdle)
  | fetched hSome _ => exact absurd hSome (Group.result?_ne_some hIdle)

/-- The other stages have the same turns, whether or not a call is in progress. -/
theorem Mirrors.turn_of_ne_fetch {stage : Stage} {time : Nat} {deliveries : String → List Delivery}
    {after : Group} {notes : List Note} (hc : k.Mirrors visit c) (hk : k.InStep) (hTime : k.now ≤ time)
    (hStage : stage ≠ .fetch) (hDeliveries : s.Allows deliveries)
    (hTurn : k.group.turn s.plan stage time openVisit deliveries = some (after, notes)) :
    ∃ d, Course.Step s.anyVisit c d ∧
      (k.take s.plan ⟨stage, time, k.group, after, notes⟩).Mirrors visit d := by
  have hTwin := Group.turn_withFetch s.plan time openVisit visit deliveries k.group hStage
    (hc.isStopped_eq hk)
  rw [← hc.group, hTurn] at hTwin
  obtain ⟨_, _, hFetch, _⟩ | ⟨_, _, hFetch, hCall⟩ :=
    call_of_turn (fun hOwn => (hStage hOwn).elim) hTurn
  · exact (hStage hFetch).elim
  · refine ⟨_, .turn (hc.now.trans hTime) trivial hDeliveries hTwin, rfl, fun hNone => ?_,
      fun n a hBusy => ?_, le_rfl, hc.notes_take⟩
    · exact (hc.idle (hCall.symm.trans hNone)).trans (hFetch hStage).symm
    · obtain ⟨since, hSince, hGoes⟩ := hc.busy n a (hCall.symm.trans hBusy)
      exact ⟨since, hSince.trans hTime, hGoes⟩

theorem Mirrors.turn {stage : Stage} {time : Nat} {deliveries : String → List Delivery} {after : Group}
    {notes : List Note} (hc : k.Mirrors visit c) (hk : k.InStep) (hTime : k.now ≤ time)
    (hFree : stage = .fetch → k.call = none) (hDeliveries : s.Allows deliveries)
    (hTurn : k.group.turn s.plan stage time openVisit deliveries = some (after, notes)) :
    ∃ d, Course.Step s.anyVisit c d ∧
      (k.take s.plan ⟨stage, time, k.group, after, notes⟩).Mirrors visit d := by
  by_cases hStage : stage = .fetch
  · subst hStage
    exact hc.fetchTurn hk hTime (hFree rfl) hDeliveries hTurn
  · exact hc.turn_of_ne_fetch hk hTime hStage hDeliveries hTurn

/-- A call that went as one that can end at once with a result ends with that result. How the next one goes
is open again. -/
theorem Mirrors.finish {time n : Nat} {result : Except Http.FetchError Http.Page}
    (hc : k.Mirrors { ending := .returned result } c) (hTime : k.now ≤ time)
    (hCall : k.call = some (n, .returned result)) :
    ∃ d, Course.Step s.anyVisit c d ∧ (k.finish time n result).Mirrors visit d := by
  obtain ⟨since, hSince, hGoes⟩ := hc.busy _ _ hCall
  obtain ⟨deliveries, hAllows⟩ := s.exists_allows
  have hSame : c.group.endFetch n (.returned result) = k.group.endFetch n (.returned result) := by
    rw [hc.group, Group.endFetch_withFetch]
  have hTurn : c.group.turn s.plan .fetch time visit deliveries =
      some (k.group.endFetch n (.returned result)) := by
    simp [← hSame, Group.turn, Group.fetchTurn, hGoes, hSince.trans hTime]
  exact ⟨_, .turn (hc.now.trans hTime) trivial hAllows hTurn, rfl, fun _ => rfl,
    fun _ _ hBusy => (by cases hBusy), le_rfl, hc.notes_take⟩

/-- The group is on a course, whatever is to become of the call in progress. -/
theorem Reachable.exists_course (h : Reachable s k) (visit : Http.Visit) :
    ∃ c, Course.Reachable s.anyVisit c ∧ k.Mirrors visit c := by
  induction h generalizing visit with
  | refl =>
      exact ⟨{}, .refl, rfl, fun _ => rfl, fun _ _ hCall => (by cases hCall), le_rfl, rfl⟩
  | @tail k l hPrior hStep ih =>
      have hInStep := Reachable.inStep hPrior
      cases hStep with
      | turn hTime hFree hDeliveries hTurn =>
          obtain ⟨c, hc, hMirrors⟩ := ih visit
          obtain ⟨d, hNext, hLater⟩ := hMirrors.turn hInStep hTime hFree hDeliveries hTurn
          exact ⟨d, hc.step hNext, hLater⟩
      | look hTime hCall _ =>
          obtain ⟨c, hc, hMirrors⟩ := ih visit
          refine ⟨c, hc, hMirrors.group, fun hNone => (by cases hNone), fun n a hBusy => ?_,
            hMirrors.now.trans hTime, hMirrors.notes⟩
          cases hBusy
          obtain ⟨since, hSince, hGoes⟩ := hMirrors.busy _ _ hCall
          exact ⟨since, hSince.trans hTime, hGoes⟩
      | @finish time n result hTime hCall =>
          obtain ⟨c, hc, hMirrors⟩ := ih { ending := .returned result }
          obtain ⟨d, hNext, hLater⟩ := hMirrors.finish hTime hCall
          exact ⟨d, hc.step hNext, hLater⟩
      | cancel _ _ =>
          obtain ⟨c, hc, hMirrors⟩ := ih visit
          exact ⟨c, hc, hMirrors.group, hMirrors.idle, hMirrors.busy, hMirrors.now, hMirrors.notes⟩
      | shutdown hOpen =>
          obtain ⟨c, hc, hMirrors⟩ := ih visit
          have hNotYet : c.awaited = none := by
            rw [← Option.not_isSome_iff_eq_none, ← hc.cancelled_iff, hMirrors.group]
            exact ne_true_of_eq_false hOpen
          refine ⟨_, hc.step (.shutdown hNotYet), ?_, hMirrors.idle, hMirrors.busy, hMirrors.now,
            hMirrors.notes⟩
          simp only [Course.beginShutdown, shutdown]
          rw [hMirrors.group]

theorem Reachable.cascades (h : Reachable s k) : k.group.Cascades := by
  obtain ⟨c, hc, hMirrors⟩ := h.exists_course openVisit
  have hCascades := hc.cascades
  have hStopped := hMirrors.isStopped_eq h.inStep
  rw [hMirrors.group] at hCascades
  exact ⟨fun hFetch => hCascades.fetch (hStopped.trans hFetch),
    fun hEvaluate => (hCascades.evaluate hEvaluate).imp_left hStopped.symm.trans, hCascades.dispatch⟩

/-- The cycles that the crawler has been called for and those that wait for it are the first ones, and the
trigger has the next one in hand. -/
theorem Reachable.accepted_eq_range (h : Reachable s k) : ∃ m,
    k.visited ++ k.group.toFetch = List.range' 1 m ∧
    ∀ n, k.group.trigger.next? = some n → n = m + 1 := by
  obtain ⟨c, hc, hMirrors⟩ := h.exists_course openVisit
  have hOrder := hc.inOrder
  have hVisited : c.visited = k.visited := by rw [c.visited_eq, hMirrors.notes, visited]
  refine ⟨c.accepted.length, ?_, fun n hn => hOrder.next n ?_⟩
  · rw [← hOrder.accepted, ← hOrder.visited, hVisited, hMirrors.group]
  · rwa [hMirrors.group]

/-- The crawler is called for each cycle only once, and for none that waits in the queue. -/
theorem Reachable.accepted_nodup (h : Reachable s k) : (k.visited ++ k.group.toFetch).Nodup := by
  obtain ⟨m, hAccepted, _⟩ := h.accepted_eq_range
  exact hAccepted ▸ List.nodup_range'

/-! ### Cycles and their contexts -/

/-- Contexts come from earlier ones by events. -/
theorem Step.extends_contexts (hStep : Step s k l) : k.contexts.Extends l.contexts := by
  cases hStep with
  | turn _ _ _ _ =>
      simp only [take, contextsAfter]
      split
      · exact (Contexts.extends_after _ _).trans (Contexts.extends_after _ _)
      · exact .refl _
  | look _ _ _ => exact .refl _
  | finish _ _ => exact .refl _
  | cancel _ _ => exact Contexts.extends_after _ _
  | shutdown _ => exact Contexts.extends_after k.contexts .cancelGroup

theorem Leads.extends_contexts (h : Leads s k l) : k.contexts.Extends l.contexts := by
  induction h with
  | refl => exact .refl _
  | tail _ hStep ih => exact ih.trans hStep.extends_contexts

theorem Reachable.reached (h : Reachable s k) : ∃ events, Contexts.Reached events k.contexts := by
  obtain ⟨events, hReached⟩ := Leads.extends_contexts h [] .start
  exact ⟨events, hReached⟩

theorem isCancelled_iff : k.isCancelled n = true ↔
    ∃ c, k.contexts.list[n - 1]? = some c ∧ k.contexts.isCancelled c = true := by
  simp [isCancelled, context?, Option.any_eq_true]

/-- A cycle stays cancelled. -/
theorem Reachable.isCancelled_of_leads (h : Reachable s k) (hLeads : Leads s k l)
    (hCancelled : k.isCancelled n = true) : l.isCancelled n = true := by
  obtain ⟨events, hReached⟩ := h.reached
  obtain ⟨more, hLater⟩ := hLeads.extends_contexts events hReached
  obtain ⟨c, hContext, hToken⟩ := isCancelled_iff.1 hCancelled
  obtain ⟨c', hContext', hToken'⟩ := hReached.isCancelled_append hLater hContext
  exact isCancelled_iff.2 ⟨c', hContext', hToken' hToken⟩

/-- The token of the group is cancelled with the group. -/
theorem Reachable.groupCancelled_eq (h : Reachable s k) :
    k.contexts.groupCancelled = k.group.cancelled := by
  induction h with
  | refl => rfl
  | @tail k l _ hStep ih =>
      cases hStep with
      | turn _ _ _ hTurn =>
          refine Eq.trans ?_ (ih.trans (Group.cancelled_of_turn hTurn).symm)
          simp only [take, contextsAfter]
          split
          · rw [Contexts.groupCancelled_after _ (by simp), Contexts.groupCancelled_after _ (by simp)]
          · rfl
      | look _ _ _ => exact ih
      | @finish _ n result _ _ =>
          cases result <;> exact ih
      | cancel _ _ => exact (Contexts.groupCancelled_after _ (by simp)).trans ih
      | shutdown _ => rfl

/-- How many contexts there are: one for each cycle that the trigger has begun. -/
structure Counts (k : Crawling) : Prop where
  begun : ∀ n, k.group.trigger.begun? = some n → k.contexts.list.length = n
  accepted : ∀ n ∈ k.visited ++ k.group.toFetch, n ≤ k.contexts.list.length

/-- Only the turn in which the trigger begins a cycle adds a context. -/
theorem begun_of_turn {stage : Stage} {time : Nat} {deliveries : String → List Delivery} {after : Group}
    {notes : List Note} (hk : k.Counts) (h : Reachable s k)
    (hTurn : k.group.turn s.plan stage time visit deliveries = some (after, notes)) :
    k.contexts.list.length ≤ (k.contextsAfter s.plan stage).list.length ∧
    ∀ n, after.trigger.begun? = some n → (k.contextsAfter s.plan stage).list.length = n := by
  cases stage with
  | trigger =>
      have hKept (hState : ∀ n, k.group.trigger ≠ .firing n) :
          k.contextsAfter s.plan .trigger = k.contexts := by
        unfold contextsAfter
        split
        · exact absurd ‹_› (hState _)
        · rfl
      cases Group.triggerTurn_cases hTurn with
      | @fire n hState =>
          have hLength : (k.contextsAfter s.plan .trigger).list.length = k.contexts.list.length + 1 := by
            simp only [contextsAfter, hState]
            rw [Contexts.length_after _ _ rfl, Contexts.length_after_begin]
          obtain ⟨m, _, hNext⟩ := h.accepted_eq_range
          have hFirst := hNext n (by rw [hState]; rfl)
          have hBegun := hk.begun (n - 1) (by rw [hState]; rfl)
          refine ⟨by omega, fun j hj => ?_⟩
          cases hj
          omega
      | abandon hState _ => exact ⟨by rw [hKept (by simp [hState])], fun _ hn => nomatch hn⟩
      | closed hState _ _ => exact ⟨by rw [hKept (by simp [hState])], fun _ hn => nomatch hn⟩
      | quit hState _ => exact ⟨by rw [hKept (by simp [hState])], fun _ hn => nomatch hn⟩
      | accept hState _ _ _ =>
          rw [hKept (by simp [hState])]
          exact ⟨le_rfl, fun j hj => hk.begun j (by rwa [hState])⟩
      | rise hState _ _ =>
          rw [hKept (by simp [hState])]
          exact ⟨le_rfl, fun j hj => hk.begun j (by rwa [hState])⟩
  | fetch => cases Group.fetchTurn_cases hTurn <;> exact ⟨le_rfl, hk.begun⟩
  | evaluate => cases Group.evaluateTurn_cases hTurn <;> exact ⟨le_rfl, hk.begun⟩
  | dispatch => cases Group.dispatchTurn_cases hTurn <;> exact ⟨le_rfl, hk.begun⟩

theorem Counts.of_same (hk : k.Counts) (hTrigger : l.group.trigger = k.group.trigger)
    (hQueue : l.group.toFetch = k.group.toFetch) (hVisited : l.visited = k.visited)
    (hLength : l.contexts.list.length = k.contexts.list.length) : l.Counts := by
  refine ⟨fun n hn => ?_, ?_⟩
  · rw [hLength]
    exact hk.begun n (hTrigger ▸ hn)
  · rw [hQueue, hVisited, hLength]
    exact hk.accepted

theorem Reachable.counts (h : Reachable s k) : k.Counts := by
  induction h with
  | refl =>
      refine ⟨fun n hn => ?_, fun n hn => nomatch hn⟩
      cases hn
      rfl
  | @tail k l hPrior hStep ih =>
      have hReachable : Reachable s k := hPrior
      cases hStep with
      | @turn stage time deliveries after notes _ _ _ hTurn =>
          obtain ⟨hMore, hBegun⟩ := begun_of_turn ih hReachable hTurn
          refine ⟨hBegun, fun n hn => ?_⟩
          simp only [visited_take, List.append_assoc] at hn
          simp only [take] at hn ⊢
          rw [Group.visited_of_turn hTurn, ← List.append_assoc] at hn
          rcases List.mem_append.1 hn with hOld | hNew
          · exact (ih.accepted n hOld).trans hMore
          · cases Group.moves_of_turn hReachable.cascades hTurn with
            | keeps hNone _ _ => simp [hNone] at hNew
            | leaves _ _ _ _ hNone _ _ _ => simp [hNone] at hNew
            | enters m hOffered _ hOne _ _ =>
                rw [hOne, List.mem_singleton] at hNew
                simp only at hOffered
                have hLength := ih.begun m (by rw [hOffered]; rfl)
                omega
      | look _ _ _ => exact ih.of_same rfl rfl rfl rfl
      | @finish _ n result _ _ =>
          refine ih.of_same ?_ ?_ (visited_finish ..) rfl <;> cases result <;> rfl
      | @cancel i _ _ _ =>
          exact ih.of_same rfl rfl rfl (k.contexts.length_after (.cancel i) rfl)
      | shutdown _ => exact ih.of_same rfl rfl rfl (k.contexts.length_after .cancelGroup rfl)

/-- Once the group is cancelled, every cycle that the crawler is called for is. -/
theorem Reachable.isCancelled_of_group (h : Reachable s k) (hGroup : k.group.cancelled = true)
    (hn : n ∈ k.visited) : k.isCancelled n = true := by
  obtain ⟨events, hReached⟩ := h.reached
  obtain ⟨m, hAccepted, _⟩ := h.accepted_eq_range
  have hMem := List.mem_append_left k.group.toFetch hn
  have hBound := h.counts.accepted n hMem
  rw [hAccepted, List.mem_range'_1] at hMem
  have hContext := List.getElem?_eq_getElem (l := k.contexts.list) (i := n - 1) (by omega)
  have hEvent := hReached.marked.group_iff.1 (h.groupCancelled_eq.trans hGroup)
  exact isCancelled_iff.2 ⟨_, hContext, (hReached.isCancelled_iff hContext).2 (.inl hEvent)⟩

end Crawling

end Lookout.Pipeline
