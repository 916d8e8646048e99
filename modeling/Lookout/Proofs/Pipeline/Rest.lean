import Lookout.Proofs.Pipeline.Views
import Mathlib.Algebra.Order.BigOperators.Group.List
import Mathlib.Algebra.Order.Ring.Nat
/-!
A group comes to rest at every instant. Each turn brings a cycle nearer to its end or the trigger
nearer to its next wait, and as intervals are positive a wait that begins now does not end now. So
only a limited number of turns is left at an instant, however the calls go.
-/
namespace Lookout.Pipeline

/-! ### The turns that are left at an instant -/

/-- A bound of the turns that a cycle and the trigger can take until the trigger waits for a time that
is still to come. -/
def TriggerState.unrest (now : Nat) : TriggerState → Nat
  | firing _ => 12
  | offering _ => 11
  | resting _ due => if due ≤ now then 13 else 1
  | stopped => 0

/-- The same of what the fetch stage has in hand. -/
def FetchState.unrest : FetchState → Nat
  | idle => 1
  | fetching _ _ _ _ => 9
  | offering _ => 8
  | stopped => 0

/-- The same of what the evaluate stage has in hand. -/
def EvaluateState.unrest : EvaluateState → Nat
  | idle => 1
  | evaluating _ => 6
  | offering _ => 5
  | stopped => 0

/-- The same of what the dispatch stage has in hand. -/
def DispatchState.unrest (now : Nat) : DispatchState → Nat
  | idle => 1
  | sending _ calls => if calls.any (Call.isDue now) then 3 else 2
  | stopped => 0

/-- A bound of the turns that are left to a group at an instant. -/
def Group.unrest (now : Nat) (g : Group) : Nat :=
  g.trigger.unrest now + 9 * g.toFetch.length + g.fetch.unrest + 6 * g.toEvaluate.length +
    g.evaluate.unrest + 3 * g.toDispatch.length + g.dispatch.unrest now

theorem FetchState.unrest_of_result? {f : FetchState} {cancelled : Bool} {seq : Nat} {r : FetchResult}
    (h : f.result? cancelled = some (seq, r)) : f.unrest = 9 := by
  cases f <;> simp_all [result?, unrest]

theorem DispatchState.unrest_sending_le (now seq : Nat) (calls : List Call) :
    (sending seq calls).unrest now ≤ 3 := by
  simp only [unrest]
  split <;> omega

/-- A call that was due has ended when it has been polled. -/
theorem Call.Polled.isDue {now : Nat} {call done : Call} (h : call.Polled now done) :
    done.isDue now = false := by
  cases h with
  | waits hWaits => exact hWaits
  | _ => rfl

theorem isDue_of_pollCalls {now : Nat} {calls done : List Call} (h : pollCalls now calls = .ok done) :
    done.any (Call.isDue now) = false := by
  have hPolls := polled_of_pollCalls h
  clear h
  induction hPolls with
  | nil => rfl
  | cons hFirst _ ih => rw [List.any_cons, hFirst.isDue, ih, Bool.false_or]

namespace Group
variable {p : Plan} {stage : Stage} {now : Nat} {visit : Http.Visit}
  {deliveries : String → List Delivery} {g after : Group} {notes : List Note}

/-- Every turn leaves fewer of them at its instant. -/
theorem unrest_of_turn (hInterval : 0 < p.interval)
    (h : g.turn p stage now visit deliveries = some (after, notes)) :
    after.unrest now < g.unrest now := by
  cases stage with
  | trigger =>
      cases triggerTurn_cases h with
      | accept hState _ _ _ =>
          have hLater : ¬ now + p.interval ≤ now := by omega
          simp only [unrest, hState, TriggerState.unrest, if_neg hLater, List.length_append,
            List.length_singleton]
          omega
      | rise hState _ hDue => simp [unrest, hState, TriggerState.unrest, hDue]
      | quit hState _ =>
          simp only [unrest, hState, TriggerState.unrest]
          split <;> omega
      | fire hState => simp [unrest, hState, TriggerState.unrest]
      | abandon hState _ => simp [unrest, hState, TriggerState.unrest]
      | closed hState _ _ => simp [unrest, hState, TriggerState.unrest]
  | fetch =>
      cases fetchTurn_cases h with
      | call hState hQueue =>
          simp only [unrest, hState, hQueue, FetchState.unrest, List.length_cons]
          omega
      | stop hState _ _ => simp [unrest, hState, FetchState.unrest]
      | panicked hResult _ =>
          simp only [unrest, FetchState.unrest_of_result? hResult]
          simp only [FetchState.unrest]
          omega
      | failed hResult _ =>
          simp only [unrest, FetchState.unrest_of_result? hResult]
          simp only [FetchState.unrest]
          omega
      | fetched hResult _ =>
          simp only [unrest, FetchState.unrest_of_result? hResult]
          simp only [FetchState.unrest]
          omega
      | hand hState _ _ =>
          simp only [unrest, hState, FetchState.unrest, List.length_append, List.length_singleton]
          omega
      | closed hState _ => simp [unrest, hState, FetchState.unrest]
  | evaluate =>
      cases evaluateTurn_cases h with
      | take hState hQueue =>
          simp only [unrest, hState, hQueue, EvaluateState.unrest, List.length_cons]
          omega
      | stop hState _ _ => simp [unrest, hState, EvaluateState.unrest]
      | failed hState _ => simp [unrest, hState, EvaluateState.unrest]
      | matched hState _ _ => simp [unrest, hState, EvaluateState.unrest]
      | unmatched hState _ _ => simp [unrest, hState, EvaluateState.unrest]
      | hand hState _ _ =>
          simp only [unrest, hState, EvaluateState.unrest, List.length_append, List.length_singleton]
          omega
      | closed hState _ => simp [unrest, hState, EvaluateState.unrest]
  | dispatch =>
      cases dispatchTurn_cases h with
      | empty _ hQueue _ =>
          simp only [unrest, hQueue, List.length_cons]
          omega
      | @send m rest called calls hState hQueue _ _ =>
          have hSending := DispatchState.unrest_sending_le now m.seq calls
          simp only [unrest, hState, hQueue, List.length_cons]
          simp only [DispatchState.unrest] at hSending ⊢
          omega
      | crash _ hQueue _ _ =>
          simp only [unrest, hQueue, List.length_cons]
          omega
      | stop hState _ _ => simp [unrest, hState, DispatchState.unrest]
      | finish hState _ =>
          simp only [unrest, hState, DispatchState.unrest]
          split <;> omega
      | poll hState hDue hPoll =>
          simp [unrest, hState, DispatchState.unrest, hDue, isDue_of_pollCalls hPoll]
      | panicked hState hDue _ => simp [unrest, hState, DispatchState.unrest, hDue]

end Group

/-- A bound of the turns that are left to a worker at an instant. -/
def Worker.unrest (now : Nat) (own : Worker) : Nat :=
  match own.phase with
  | .running g => g.unrest now
  | _ => 0

/-- Whether no stage of a worker can do anything at a time. -/
def Worker.AtRest (now : Nat) (own : Worker) : Prop :=
  ∀ g, own.phase = .running g → ∀ stage, g.canTurn stage now = false

namespace Schedule
variable {w : World} {s after : Schedule} {i : Nat} {stage : Stage} {p : Plan}

/-- A bound of the turns that are left at this instant. -/
def unrest (s : Schedule) : Nat := (s.workers.map (Worker.unrest s.now)).sum

/-- Whether no stage of any worker can do anything. -/
def AtRest (s : Schedule) : Prop := ∀ own ∈ s.workers, own.AtRest s.now

theorem sum_map_modify {α : Type} (measure : α → Nat) (change : α → α) {l : List α} {i : Nat} {a : α}
    (ha : l[i]? = some a) :
    ((l.modify i change).map measure).sum + measure a = (l.map measure).sum + measure (change a) := by
  induction l generalizing i with
  | nil => cases ha
  | cons b l ih =>
      cases i with
      | zero =>
          cases ha
          simp only [List.modify_zero_cons, List.map_cons, List.sum_cons]
          omega
      | succ i =>
          have hRest := ih ha
          simp only [List.modify_succ_cons, List.map_cons, List.sum_cons]
          omega

/-- Every turn leaves fewer of them, when the interval of its worker is positive. -/
theorem unrest_takeTurn (hInterval : ∀ q, s.plans[i]? = some q → 0 < q.interval)
    (h : s.takeTurn w ⟨i, stage⟩ = some after) : after.unrest < s.unrest := by
  obtain ⟨p, g, next, told, hWorker, hTurn, hTakes⟩ := turn_of_takeTurn h
  have hLess := Group.unrest_of_turn (hInterval p (by simp [plans, hWorker])) hTurn
  have hSum := sum_map_modify (Worker.unrest s.now) (fun own => { own with phase := .running next }) hWorker
  simp only [Worker.unrest] at hSum
  rw [unrest, unrest, hTakes.now, hTakes.workers]
  simp only [setPhase]
  omega

/-- A schedule that is not at rest has a worker that can take a turn. -/
theorem exists_turn_of_not_atRest (w : World) (h : ¬ s.AtRest) :
    ∃ own i stage after, s.workers[i]? = some own ∧ ¬ own.AtRest s.now ∧
      s.takeTurn w ⟨i, stage⟩ = some after := by
  simp only [AtRest, Worker.AtRest, not_forall, Bool.not_eq_false] at h
  obtain ⟨⟨p, phase⟩, hOwn, g, hPhase, stage, hTurn⟩ := h
  obtain rfl : phase = .running g := hPhase
  obtain ⟨i, hWorker⟩ := List.mem_iff_getElem?.1 hOwn
  have hBusy : ¬ Worker.AtRest s.now ⟨p, .running g⟩ := fun hRest => by
    simp [hRest g rfl stage] at hTurn
  rw [Group.canTurn_eq_isSome p stage s.now (w.visit p.name (countOf s.visits p.name))
    (nextDeliveries w s p.name g.nextDispatched), Option.isSome_iff_exists] at hTurn
  obtain ⟨⟨next, told⟩, hTurn⟩ := hTurn
  obtain ⟨after, hTaken, _⟩ := takeTurn_of_turn hWorker hTurn
  exact ⟨_, i, stage, after, hWorker, hBusy, hTaken⟩

end Schedule

end Lookout.Pipeline
