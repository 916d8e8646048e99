import Lookout.Proofs.Pipeline.Order
/-!
The cycles whose results match. However the stages take turns, the dispatch stage takes these cycles
from its queue in their order. Those still to be taken can be read off the cycles that are on their
way, and every turn keeps the sum of both.
-/
namespace Lookout.Pipeline

namespace Plan
variable (p : Plan)

/-- The matched cycle that a response makes, if it matches. -/
def matchedOfFetched? (f : Fetched) : Option Matched :=
  match p.condition.apply f.body with
  | .error _ => none
  | .ok o => if o.isMatch then some ⟨f.seq, f.body, o.bindings⟩ else none

/-- The matched cycle that the result of a fetch makes: none unless it is a page whose body can be
evaluated and matches. -/
def matchedOfResult? : Nat × FetchResult → Option Matched
  | (seq, .ok (.ok page)) => p.matchedOfFetched? ⟨seq, page.body⟩
  | _ => none

variable {p}

@[simp] theorem matchedOfResult?_panicked (seq : Nat) (message : String) :
    p.matchedOfResult? (seq, .error message) = none := rfl

@[simp] theorem matchedOfResult?_failed (seq : Nat) (e : Http.FetchError) :
    p.matchedOfResult? (seq, .ok (.error e)) = none := rfl

theorem matchedOfFetched?_of_error {f : Fetched} {e : Condition.ApplyError}
    (h : p.condition.apply f.body = .error e) : p.matchedOfFetched? f = none := by
  simp [matchedOfFetched?, h]

theorem matchedOfFetched?_of_match {f : Fetched} {o : Condition.Outcome}
    (h : p.condition.apply f.body = .ok o) (hMatch : o.isMatch = true) :
    p.matchedOfFetched? f = some ⟨f.seq, f.body, o.bindings⟩ := by
  simp [matchedOfFetched?, h, hMatch]

theorem matchedOfFetched?_of_noMatch {f : Fetched} {o : Condition.Outcome}
    (h : p.condition.apply f.body = .ok o) (hMatch : o.isMatch = false) :
    p.matchedOfFetched? f = none := by
  simp [matchedOfFetched?, h, hMatch]

/-- A matched cycle is the one that its page was fetched in. -/
theorem seq_of_matchedOfResult? {r : Nat × FetchResult} {m : Matched}
    (h : p.matchedOfResult? r = some m) : m.seq = r.1 := by
  match r with
  | (seq, .ok (.ok page)) =>
      change p.matchedOfFetched? ⟨seq, page.body⟩ = some m at h
      unfold matchedOfFetched? at h
      split at h
      · cases h
      · split_ifs at h
        cases h
        rfl
  | (_, .ok (.error _)) | (_, .error _) => cases h

end Plan

/-! ### Matched cycles on their way -/

/-- The response that a stage has in hand. -/
def FetchState.fetched : FetchState → List Fetched
  | offering f => [f]
  | _ => []

def EvaluateState.fetched : EvaluateState → List Fetched
  | evaluating f => [f]
  | _ => []

/-- The matched response that a stage has in hand. -/
def EvaluateState.matched : EvaluateState → List Matched
  | offering m => [m]
  | _ => []

namespace FetchState

@[simp] theorem fetched_idle : idle.fetched = [] := rfl
@[simp] theorem fetched_offering (f : Fetched) : (offering f).fetched = [f] := rfl
@[simp] theorem fetched_stopped : stopped.fetched = [] := rfl

@[simp] theorem fetched_fetching (seq : Nat) (due : Option Nat) (cancellable : Bool)
    (ending : Ending (Except Http.FetchError Http.Page)) :
    (fetching seq due cancellable ending).fetched = [] := rfl

@[simp] theorem result?_idle (cancelled : Bool) : idle.result? cancelled = none := rfl
@[simp] theorem result?_offering (f : Fetched) (cancelled : Bool) :
    (offering f).result? cancelled = none := rfl

theorem fetched_of_result? {f : FetchState} {cancelled : Bool} {seq : Nat} {r : FetchResult}
    (h : f.result? cancelled = some (seq, r)) : f.fetched = [] := by
  cases f <;> simp_all [result?]

end FetchState

namespace EvaluateState

@[simp] theorem fetched_idle : idle.fetched = [] := rfl
@[simp] theorem fetched_evaluating (f : Fetched) : (evaluating f).fetched = [f] := rfl
@[simp] theorem fetched_offering (m : Matched) : (offering m).fetched = [] := rfl
@[simp] theorem fetched_stopped : stopped.fetched = [] := rfl
@[simp] theorem matched_idle : idle.matched = [] := rfl
@[simp] theorem matched_evaluating (f : Fetched) : (evaluating f).matched = [] := rfl
@[simp] theorem matched_offering (m : Matched) : (offering m).matched = [m] := rfl
@[simp] theorem matched_stopped : stopped.matched = [] := rfl

end EvaluateState

/-- The matched cycle that the dispatch stage takes from its queue. -/
def Turn.taken? (t : Turn) : Option Matched :=
  match t.stage, t.before.dispatch with
  | .dispatch, .idle => t.before.toDispatch.head?
  | _, _ => none

/-- The cycles that are still to be taken of those that have been fetched. -/
def Group.matching (p : Plan) (g : Group) : List Matched :=
  g.toDispatch ++ g.evaluate.matched ++
    (g.evaluate.fetched ++ g.toEvaluate ++ g.fetch.fetched).filterMap p.matchedOfFetched?

namespace Group
variable {p : Plan} {stage : Stage} {now : Nat} {visit : Http.Visit}
  {deliveries : String → List Delivery} {g after : Group} {notes : List Note}

theorem matching_of_fetchTurn (hg : g.Cascades) (hRuns : g.fetch.isStopped = false)
    (h : FetchTurn now visit g after notes) :
    g.matching p ++ (g.fetch.result? g.cancelled).toList.filterMap p.matchedOfResult? =
      after.matching p := by
  cases h with
  | call hState _ => simp [matching, hState]
  | stop hState _ _ => simp [matching, hState]
  | panicked hResult _ =>
      simp [matching, hResult, FetchState.fetched_of_result? hResult, List.filterMap_cons]
  | failed hResult _ =>
      simp [matching, hResult, FetchState.fetched_of_result? hResult, List.filterMap_cons]
  | fetched hResult _ =>
      simp [matching, hResult, FetchState.fetched_of_result? hResult, Plan.matchedOfResult?,
        List.filterMap_cons]
  | hand hState _ _ => simp [matching, hState]
  | closed _ hStopped => simp [hg.evaluate_runs hRuns] at hStopped

theorem matching_of_evaluateTurn (hg : g.Cascades) (hRuns : g.evaluate.isStopped = false)
    (h : EvaluateTurn p g after notes) : g.matching p = after.matching p := by
  cases h with
  | take hState hQueue => simp [matching, hState, hQueue]
  | stop hState hQueue _ => simp [matching, hState, hQueue]
  | failed hState hApply => simp [matching, hState, Plan.matchedOfFetched?_of_error hApply]
  | matched hState hApply hMatch =>
      simp [matching, hState, Plan.matchedOfFetched?_of_match hApply hMatch]
  | unmatched hState hApply hMatch =>
      simp [matching, hState, Plan.matchedOfFetched?_of_noMatch hApply hMatch]
  | hand hState _ _ => simp [matching, hState]
  | closed _ hStopped => simp [hg.dispatch_runs hRuns] at hStopped

/-- A stage that does not dispatch keeps its matched cycles, and one that does takes the first. -/
theorem matching_of_turn (hg : g.Cascades)
    (h : g.turn p stage now visit deliveries = some (after, notes)) :
    g.matching p ++
        (Turn.mk stage now g after notes).result?.toList.filterMap p.matchedOfResult? =
      (Turn.mk stage now g after notes).taken?.toList ++ after.matching p := by
  have hRuns := hasStopped_eq_false_of_turn h
  cases stage with
  | trigger => cases triggerTurn_cases h <;> simp [Turn.result?, Turn.taken?, matching]
  | fetch =>
      simpa [Turn.result?, Turn.taken?] using matching_of_fetchTurn hg hRuns (fetchTurn_cases h)
  | evaluate =>
      simpa [Turn.result?, Turn.taken?] using matching_of_evaluateTurn hg hRuns (evaluateTurn_cases h)
  | dispatch =>
      cases dispatchTurn_cases h with
      | empty hState hQueue _ => simp [Turn.result?, Turn.taken?, matching, hState, hQueue]
      | send hState hQueue _ _ => simp [Turn.result?, Turn.taken?, matching, hState, hQueue]
      | crash hState hQueue _ _ => simp [Turn.result?, Turn.taken?, matching, hState, hQueue]
      | stop hState hQueue _ => simp [Turn.result?, Turn.taken?, matching, hState, hQueue]
      | finish hState _ => simp [Turn.result?, Turn.taken?, matching, hState]
      | poll hState _ _ => simp [Turn.result?, Turn.taken?, matching, hState]
      | panicked hState _ _ => simp [Turn.result?, Turn.taken?, matching, hState]

end Group

namespace Course
variable {s : Setting} {c : Course}

/-- The matched cycles that the dispatch stage has taken, in order. -/
def taken (c : Course) : List Matched := c.turns.filterMap Turn.taken?

@[simp] theorem taken_take (c : Course) (t : Turn) :
    (c.take t).taken = c.taken ++ t.taken?.toList := by
  cases h : t.taken? <;> simp [taken, take, h]

/-- The cycles that have been taken and those still to be taken are those whose results match. -/
theorem Reachable.taken_matching (h : Reachable s c) :
    c.taken ++ c.group.matching s.plan = c.results.filterMap s.plan.matchedOfResult? := by
  induction h with
  | refl => rfl
  | tail hPrior hStep ih =>
      cases hStep with
      | turn _ _ _ hTurn =>
          rw [results_take, List.filterMap_append, ← ih, List.append_assoc,
            Group.matching_of_turn (Reachable.cascades hPrior) hTurn, ← List.append_assoc, taken_take,
            take_group]
      | shutdown _ => exact ih
      | join _ _ => exact ih

theorem Reachable.taken_prefix (h : Reachable s c) :
    c.taken <+: c.results.filterMap s.plan.matchedOfResult? := by
  rw [← h.taken_matching]
  exact List.prefix_append _ _

/-- When shutdown has returned, all cycles whose results match have been taken. -/
theorem Reachable.taken_of_returned (h : Reachable s c) (hReturned : c.HasReturned) :
    c.taken = c.results.filterMap s.plan.matchedOfResult? := by
  have hSum := h.taken_matching
  rw [h.eq_ended hReturned] at hSum
  simpa [Group.matching, Group.ended] using hSum

end Course

end Lookout.Pipeline
