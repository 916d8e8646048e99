import Lookout.Proofs.Pipeline.Closing
import Mathlib.Data.List.Range
import Mathlib.Data.List.Nodup
import Mathlib.Data.List.Perm.Basic
/-!
Where the cycles of a worker group are. A turn accepts the next cycle, or ends one, or moves one on
without changing the order in which cycles are on their way. Hence every cycle that was ever
accepted is in exactly one place, and none overtakes another.
-/
namespace Lookout.Pipeline

/-- The cycles that a stage has in hand. -/
def FetchState.held : FetchState → List Nat
  | fetching seq _ _ _ => [seq]
  | offering f => [f.seq]
  | idle | stopped => []

def EvaluateState.held : EvaluateState → List Nat
  | evaluating f => [f.seq]
  | offering m => [m.seq]
  | idle | stopped => []

def DispatchState.held : DispatchState → List Nat
  | sending seq _ => [seq]
  | idle | stopped => []

/-- The cycle that the trigger is to hand on next. -/
def TriggerState.next? : TriggerState → Option Nat
  | firing n | offering n | resting n _ => some n
  | stopped => none

/-- The cycles that have been accepted and have not ended, from the end of the pipeline to its
beginning. -/
def Group.onTheWay (g : Group) : List Nat :=
  g.dispatch.held ++ g.toDispatch.map Matched.seq ++ g.evaluate.held ++
    g.toEvaluate.map Fetched.seq ++ g.fetch.held ++ g.toFetch

namespace FetchState

@[simp] theorem held_idle : idle.held = [] := rfl
@[simp] theorem held_offering (f : Fetched) : (offering f).held = [f.seq] := rfl
@[simp] theorem held_stopped : stopped.held = [] := rfl

theorem held_of_result? {f : FetchState} {cancelled : Bool} {seq : Nat} {r : FetchResult}
    (h : f.result? cancelled = some (seq, r)) : f.held = [seq] := by
  cases f <;> simp_all [result?, held]

end FetchState

namespace EvaluateState

@[simp] theorem held_idle : idle.held = [] := rfl
@[simp] theorem held_evaluating (f : Fetched) : (evaluating f).held = [f.seq] := rfl
@[simp] theorem held_offering (m : Matched) : (offering m).held = [m.seq] := rfl
@[simp] theorem held_stopped : stopped.held = [] := rfl

end EvaluateState

namespace DispatchState

@[simp] theorem held_idle : idle.held = [] := rfl
@[simp] theorem held_sending (seq : Nat) (calls : List Call) : (sending seq calls).held = [seq] := rfl
@[simp] theorem held_stopped : stopped.held = [] := rfl

end DispatchState

namespace Turn

/-- What a turn does to the cycles on their way: it keeps them all in order, or lets one more in at
the beginning, or lets one out. -/
inductive Moves (t : Turn) : Prop where
  | keeps (hAccepted : t.accepted = []) (hFates : t.fates = [])
      (hWay : t.after.onTheWay = t.before.onTheWay)
  | enters (n : Nat) (hOffered : t.before.trigger = .offering n) (hOpen : t.before.cancelled = false)
      (hAccepted : t.accepted = [n])
      (hFates : t.fates = []) (hWay : t.after.onTheWay = t.before.onTheWay ++ [n])
  | leaves (n : Nat) (fate : Fate) (ahead behind : List Nat) (hAccepted : t.accepted = [])
      (hFates : t.fates = [(n, fate)]) (hBefore : t.before.onTheWay = ahead ++ n :: behind)
      (hAfter : t.after.onTheWay = ahead ++ behind)

theorem accepted_eq_nil {t : Turn} (h : t.after.toFetch.length ≤ t.before.toFetch.length) :
    t.accepted = [] :=
  List.drop_eq_nil_of_le h

/-- When the dispatch stage does not change, the notes tell of every end of a cycle. -/
theorem fates_eq_of_dispatch {t : Turn} (h : t.after.dispatch = t.before.dispatch) :
    t.fates = t.notes.filterMap Note.fate? := by
  unfold fates
  split
  · rename_i hSending hIdle
    rw [h, hSending] at hIdle
    cases hIdle
  · rfl

end Turn

namespace Group
variable {p : Plan} {stage : Stage} {now : Nat} {visit : Http.Visit}
  {deliveries : String → List Delivery} {g after : Group} {notes : List Note}

theorem moves_of_triggerTurn (hg : g.Cascades) (hRuns : g.trigger.isStopped = false)
    (h : TriggerTurn p now g after notes) : (Turn.mk .trigger now g after notes).Moves := by
  cases h with
  | accept hState hOpen _ _ =>
      refine .enters _ hState hOpen (by simp [Turn.accepted]) ?_ (by simp [onTheWay])
      rw [Turn.fates_eq_of_dispatch rfl, List.filterMap_nil]
  | closed _ _ hStopped => simp [hg.fetch_runs hRuns] at hStopped
  | _ => exact .keeps (Turn.accepted_eq_nil le_rfl) (Turn.fates_eq_of_dispatch rfl) rfl

/-- A fetch stage that drops the cycle it has in hand lets it out of the way. -/
theorem moves_of_drop_fetch {n : Nat} {fate : Fate} (hHeld : g.fetch.held = [n])
    (hFates : notes.filterMap Note.fate? = [(n, fate)]) :
    (Turn.mk .fetch now g { g with fetch := .idle } notes).Moves :=
  .leaves n fate
    (g.dispatch.held ++ g.toDispatch.map Matched.seq ++ g.evaluate.held ++ g.toEvaluate.map Fetched.seq)
    g.toFetch (Turn.accepted_eq_nil le_rfl) ((Turn.fates_eq_of_dispatch rfl).trans hFates)
    (by simp [onTheWay, hHeld]) (by simp [onTheWay])

theorem moves_of_fetchTurn (hg : g.Cascades) (hRuns : g.fetch.isStopped = false)
    (h : FetchTurn now visit g after notes) : (Turn.mk .fetch now g after notes).Moves := by
  cases h with
  | call hState hQueue =>
      exact .keeps (Turn.accepted_eq_nil (by simp [hQueue])) (Turn.fates_eq_of_dispatch rfl)
        (by simp [onTheWay, hState, hQueue, FetchState.held])
  | stop hState hQueue _ =>
      exact .keeps (Turn.accepted_eq_nil le_rfl) (Turn.fates_eq_of_dispatch rfl)
        (by simp [onTheWay, hState, hQueue])
  | panicked hResult _ => exact moves_of_drop_fetch (FetchState.held_of_result? hResult) rfl
  | failed hResult _ => exact moves_of_drop_fetch (FetchState.held_of_result? hResult) rfl
  | fetched hResult _ =>
      exact .keeps (Turn.accepted_eq_nil le_rfl) (Turn.fates_eq_of_dispatch rfl)
        (by simp [onTheWay, FetchState.held_of_result? hResult])
  | hand hState _ _ =>
      exact .keeps (Turn.accepted_eq_nil le_rfl) (Turn.fates_eq_of_dispatch rfl)
        (by simp [onTheWay, hState])
  | closed _ hStopped => simp [hg.evaluate_runs hRuns] at hStopped

/-- An evaluate stage that drops the cycle it has in hand lets it out of the way. -/
theorem moves_of_drop_evaluate {n : Nat} {fate : Fate} (hHeld : g.evaluate.held = [n])
    (hFates : notes.filterMap Note.fate? = [(n, fate)]) :
    (Turn.mk .evaluate now g { g with evaluate := .idle } notes).Moves :=
  .leaves n fate (g.dispatch.held ++ g.toDispatch.map Matched.seq)
    (g.toEvaluate.map Fetched.seq ++ g.fetch.held ++ g.toFetch) (Turn.accepted_eq_nil le_rfl)
    ((Turn.fates_eq_of_dispatch rfl).trans hFates) (by simp [onTheWay, hHeld]) (by simp [onTheWay])

theorem moves_of_evaluateTurn (hg : g.Cascades) (hRuns : g.evaluate.isStopped = false)
    (h : EvaluateTurn p g after notes) : (Turn.mk .evaluate now g after notes).Moves := by
  cases h with
  | take hState hQueue =>
      exact .keeps (Turn.accepted_eq_nil le_rfl) (Turn.fates_eq_of_dispatch rfl)
        (by simp [onTheWay, hState, hQueue])
  | stop hState hQueue _ =>
      exact .keeps (Turn.accepted_eq_nil le_rfl) (Turn.fates_eq_of_dispatch rfl)
        (by simp [onTheWay, hState, hQueue])
  | failed hState _ => exact moves_of_drop_evaluate (by rw [hState, EvaluateState.held_evaluating]) rfl
  | matched hState _ _ =>
      exact .keeps (Turn.accepted_eq_nil le_rfl) (Turn.fates_eq_of_dispatch rfl)
        (by simp [onTheWay, hState])
  | unmatched hState _ _ =>
      exact moves_of_drop_evaluate (by rw [hState, EvaluateState.held_evaluating]) rfl
  | hand hState _ _ =>
      exact .keeps (Turn.accepted_eq_nil le_rfl) (Turn.fates_eq_of_dispatch rfl)
        (by simp [onTheWay, hState])
  | closed _ hStopped => simp [hg.dispatch_runs hRuns] at hStopped

theorem sendNotes_fates (m : Matched) (called : Nat) :
    (sendNotes p deliveries m called).filterMap Note.fate? = [] := by
  simp [sendNotes, List.filterMap_cons, Note.fate?, Function.comp_def]

theorem sendingNotes_fates (seq : Nat) (calls : List Call) :
    (sendingNotes seq calls).filterMap Note.fate? = [] := by
  unfold sendingNotes
  split <;> rfl

theorem moves_of_dispatchTurn (h : DispatchTurn p now deliveries g after notes) :
    (Turn.mk .dispatch now g after notes).Moves := by
  cases h with
  | @empty m rest hState hQueue _ =>
      exact .leaves m.seq .emptyMessage [] _ (Turn.accepted_eq_nil le_rfl)
        (Turn.fates_eq_of_dispatch rfl) (by simp [onTheWay, hState, hQueue]) rfl
  | send hState hQueue _ _ =>
      refine .keeps (Turn.accepted_eq_nil le_rfl) ?_ (by simp [onTheWay, hState, hQueue])
      simp [Turn.fates, sendNotes_fates, hState]
  | @crash m rest called message hState hQueue _ _ =>
      refine .leaves m.seq .dispatchPanicked [] _ (Turn.accepted_eq_nil le_rfl) ?_
        (by simp [onTheWay, hState, hQueue]) rfl
      rw [Turn.fates_eq_of_dispatch rfl, List.filterMap_append, sendNotes_fates]
      rfl
  | stop hState hQueue _ =>
      refine .keeps (Turn.accepted_eq_nil le_rfl) ?_ (by simp [onTheWay, hState, hQueue])
      simp [Turn.fates, hState, Note.fate?]
  | @finish seq calls hState _ =>
      refine .leaves seq .dispatched [] _ (Turn.accepted_eq_nil le_rfl) ?_
        (by simp [onTheWay, hState]) rfl
      simp [Turn.fates, sendingNotes_fates, hState]
  | poll hState _ _ =>
      refine .keeps (Turn.accepted_eq_nil le_rfl) ?_ (by simp [onTheWay, hState])
      simp [Turn.fates, hState]
  | @panicked seq calls message hState _ _ =>
      refine .leaves seq .dispatchPanicked [] _ (Turn.accepted_eq_nil le_rfl) ?_
        (by simp [onTheWay, hState]) rfl
      simp [Turn.fates, Note.fate?]

theorem moves_of_turn (hg : g.Cascades)
    (h : g.turn p stage now visit deliveries = some (after, notes)) :
    (Turn.mk stage now g after notes).Moves := by
  have hRuns := hasStopped_eq_false_of_turn h
  cases stage with
  | trigger => exact moves_of_triggerTurn hg hRuns (triggerTurn_cases h)
  | fetch => exact moves_of_fetchTurn hg hRuns (fetchTurn_cases h)
  | evaluate => exact moves_of_evaluateTurn hg hRuns (evaluateTurn_cases h)
  | dispatch => exact moves_of_dispatchTurn (dispatchTurn_cases h)

theorem sendNotes_visited (m : Matched) (called : Nat) :
    (sendNotes p deliveries m called).filterMap Note.visited? = [] := by
  simp [sendNotes, List.filterMap_cons, Note.visited?, Function.comp_def]

/-- The crawler is called for the cycles that leave the fetch queue, from its head. -/
theorem visited_of_turn (h : g.turn p stage now visit deliveries = some (after, notes)) :
    notes.filterMap Note.visited? ++ after.toFetch =
      g.toFetch ++ (Turn.mk stage now g after notes).accepted := by
  cases stage with
  | trigger => cases triggerTurn_cases h <;> simp [Turn.accepted, Note.visited?]
  | fetch =>
      cases fetchTurn_cases h with
      | call _ hQueue => simp [Turn.accepted, hQueue, Note.visited?]
      | _ => simp [Turn.accepted, Note.visited?]
  | evaluate => cases evaluateTurn_cases h <;> simp [Turn.accepted, Note.visited?]
  | dispatch =>
      cases dispatchTurn_cases h with
      | finish _ _ =>
          unfold sendingNotes
          split <;> simp [Turn.accepted, Note.visited?]
      | _ => simp [Turn.accepted, sendNotes_visited, Note.visited?]

/-- The trigger counts the cycles that it hands on. -/
theorem next_of_turn {n : Nat} (h : g.turn p stage now visit deliveries = some (after, notes))
    (hNext : after.trigger.next? = some n) :
    ∃ m, g.trigger.next? = some m ∧ n = m + (Turn.mk stage now g after notes).accepted.length := by
  cases stage with
  | trigger =>
      cases triggerTurn_cases h <;> simp_all [Turn.accepted, TriggerState.next?]
  | fetch =>
      cases fetchTurn_cases h with
      | call _ hQueue => exact ⟨n, hNext, by simp [Turn.accepted, hQueue]⟩
      | _ => exact ⟨n, hNext, by simp [Turn.accepted]⟩
  | evaluate => cases evaluateTurn_cases h <;> exact ⟨n, hNext, by simp [Turn.accepted]⟩
  | dispatch => cases dispatchTurn_cases h <;> exact ⟨n, hNext, by simp [Turn.accepted]⟩

end Group

namespace Course

theorem eq_range_of_prefix {l : List Nat} {n : Nat} (h : l <+: List.range' 1 n) :
    l = List.range' 1 l.length := by
  have hLength : l.length ≤ n := by simpa using h.length_le
  have hTake := List.prefix_iff_eq_take.1 h
  rwa [List.take_range'_of_length_ge hLength] at hTake

/-- How the cycles of a course stand to each other: those accepted are numbered from one on, each of
them has ended or is on its way, those on their way keep their order, and the crawler has been
called for all but those that still wait in the fetch queue. -/
structure InOrder (c : Course) : Prop where
  next : ∀ n, c.group.trigger.next? = some n → n = c.accepted.length + 1
  accepted : c.accepted = List.range' 1 c.accepted.length
  conserved : (c.finished ++ c.group.onTheWay).Perm c.accepted
  sublist : c.group.onTheWay.Sublist c.accepted
  visited : c.visited ++ c.group.toFetch = c.accepted

namespace InOrder
variable {c : Course} (hc : c.InOrder)
include hc

theorem accepted_nodup : c.accepted.Nodup := by
  rw [hc.accepted]
  exact List.nodup_range'

theorem accepted_sorted : c.accepted.Pairwise (· < ·) := by
  rw [hc.accepted]
  exact List.pairwise_lt_range'

theorem onTheWay_sorted : c.group.onTheWay.Pairwise (· < ·) := hc.accepted_sorted.sublist hc.sublist

/-- The cycles that the crawler has been called for are numbered from one on. -/
theorem visited_eq_range : c.visited = List.range' 1 c.visited.length := by
  refine eq_range_of_prefix (n := c.accepted.length) ?_
  rw [← hc.accepted, ← hc.visited]
  exact List.prefix_append _ _

theorem take {s : Setting} {stage : Stage} {time : Nat} {visit : Http.Visit}
    {deliveries : String → List Delivery} {after : Group} {notes : List Note}
    (hCascades : c.group.Cascades)
    (h : c.group.turn s.plan stage time visit deliveries = some (after, notes)) :
    (c.take ⟨stage, time, c.group, after, notes⟩).InOrder := by
  have hNext : ∀ n, after.trigger.next? = some n →
      n = (c.accepted ++ (Turn.mk stage time c.group after notes).accepted).length + 1 := by
    intro n hn
    obtain ⟨m, hm, rfl⟩ := Group.next_of_turn h hn
    rw [hc.next m hm, List.length_append]
    omega
  have hVisited : c.visited ++ notes.filterMap Note.visited? ++ after.toFetch =
      c.accepted ++ (Turn.mk stage time c.group after notes).accepted := by
    rw [List.append_assoc, Group.visited_of_turn h, ← List.append_assoc, hc.visited]
  cases Group.moves_of_turn hCascades h with
  | keeps hAccepted hFates hWay =>
      rw [hAccepted, List.append_nil] at hNext hVisited
      simp only at hWay
      constructor
      · simpa [hAccepted] using hNext
      · simpa [hAccepted] using hc.accepted
      · simpa [finished, hAccepted, hFates, hWay] using hc.conserved
      · simpa [hAccepted, hWay] using hc.sublist
      · simpa [hAccepted] using hVisited
  | enters n hOffered _ hAccepted hFates hWay =>
      have hn : n = c.accepted.length + 1 := hc.next n (by rw [hOffered]; rfl)
      rw [hAccepted] at hNext hVisited
      simp only at hWay
      constructor
      · simpa [hAccepted] using hNext
      · rw [accepted_take, hAccepted, List.length_append, List.length_singleton,
          List.range'_1_concat, ← hc.accepted, hn, Nat.add_comm 1]
      · simpa [finished, hAccepted, hFates, hWay] using hc.conserved.append_right [n]
      · simpa [hAccepted, hWay] using hc.sublist.append_right [n]
      · simpa [hAccepted] using hVisited
  | leaves n fate ahead behind hAccepted hFates hBefore hAfter =>
      rw [hAccepted, List.append_nil] at hNext hVisited
      simp only at hBefore hAfter
      constructor
      · simpa [hAccepted] using hNext
      · simpa [hAccepted] using hc.accepted
      · have hMoved :
            (c.finished ++ [n] ++ (ahead ++ behind)).Perm (c.finished ++ c.group.onTheWay) := by
          rw [hBefore, List.append_assoc, List.singleton_append]
          exact List.perm_middle.symm.append_left _
        simpa [finished, hAccepted, hFates, hAfter] using hMoved.trans hc.conserved
      · have hFewer : (ahead ++ behind).Sublist c.group.onTheWay := by
          rw [hBefore]
          exact (List.Sublist.refl ahead).append (List.sublist_cons_self n behind)
        simpa [hAccepted, hAfter] using hFewer.trans hc.sublist
      · simpa [hAccepted] using hVisited

end InOrder

theorem Reachable.inOrder {s : Setting} {c : Course} (h : Reachable s c) : c.InOrder := by
  induction h with
  | refl =>
      constructor
      · intro n hNext
        cases hNext
        rfl
      · rfl
      · exact .refl _
      · exact .refl _
      · rfl
  | tail hPrior hStep ih =>
      cases hStep with
      | turn _ _ _ hTurn => exact ih.take (Reachable.cascades hPrior) hTurn
      | shutdown _ =>
          refine ⟨ih.next, ih.accepted, ih.conserved, ih.sublist, ?_⟩
          rw [visited_beginShutdown]
          exact ih.visited
      | join _ _ =>
          refine ⟨ih.next, ih.accepted, ih.conserved, ih.sublist, ?_⟩
          rw [visited_join]
          exact ih.visited

end Course

/-- Where a cycle that has been accepted can be. -/
inductive Place where
  | fetchQueue
  | fetchStage
  | evaluateQueue
  | evaluateStage
  | dispatchQueue
  | dispatchStage
  | finished
  deriving DecidableEq, Repr

namespace Place

/-- The places of cycles that have not ended, from the one where they are dispatched to the one
where they are accepted. -/
def line : List Place :=
  [dispatchStage, dispatchQueue, evaluateStage, evaluateQueue, fetchStage, fetchQueue]

/-- The number of places between a place and the dispatch stage, that one included. -/
def distance : Place → Nat
  | fetchQueue => 5
  | fetchStage => 4
  | evaluateQueue => 3
  | evaluateStage => 2
  | dispatchQueue => 1
  | dispatchStage | finished => 0

theorem mem_finished_line (place : Place) : place ∈ finished :: line := by
  cases place <;> decide

/-- The line is in order of distance. -/
theorem pair_sublist_line {near far : Place} (hNear : near ≠ finished) (hFar : far ≠ finished)
    (hDistance : near.distance < far.distance) : [near, far].Sublist line := by
  cases near <;> cases far <;> revert hNear hFar hDistance <;> decide

end Place

namespace Course

/-- The cycles that are at a place. -/
def cyclesAt (c : Course) : Place → List Nat
  | .fetchQueue => c.group.toFetch
  | .fetchStage => c.group.fetch.held
  | .evaluateQueue => c.group.toEvaluate.map Fetched.seq
  | .evaluateStage => c.group.evaluate.held
  | .dispatchQueue => c.group.toDispatch.map Matched.seq
  | .dispatchStage => c.group.dispatch.held
  | .finished => c.finished

theorem flatMap_line (c : Course) : Place.line.flatMap c.cyclesAt = c.group.onTheWay := by
  simp [Place.line, cyclesAt, Group.onTheWay]

namespace InOrder
variable {c : Course} (hc : c.InOrder)
include hc

theorem mem_accepted_iff {n : Nat} : n ∈ c.accepted ↔ ∃ place, n ∈ c.cyclesAt place := by
  rw [← hc.conserved.mem_iff, ← c.flatMap_line]
  constructor
  · intro hn
    rcases List.mem_append.1 hn with hFinished | hOnTheWay
    · exact ⟨.finished, hFinished⟩
    · obtain ⟨place, _, hPlace⟩ := List.mem_flatMap.1 hOnTheWay
      exact ⟨place, hPlace⟩
  · rintro ⟨place, hPlace⟩
    rcases List.mem_cons.1 place.mem_finished_line with rfl | hLine
    · exact List.mem_append_left _ hPlace
    · exact List.mem_append_right _ (List.mem_flatMap.2 ⟨place, hLine, hPlace⟩)

/-- No cycle is twice at one place, or at two places at once. -/
theorem nodup_places : (∀ place, (c.cyclesAt place).Nodup) ∧
    ∀ a b : Place, a ≠ b → List.Disjoint (c.cyclesAt a) (c.cyclesAt b) := by
  -- All places together hold a permutation of the accepted cycles.
  have hNodup : ((Place.finished :: Place.line).flatMap c.cyclesAt).Nodup := by
    rw [List.flatMap_cons, c.flatMap_line]
    exact hc.conserved.nodup_iff.2 hc.accepted_nodup
  obtain ⟨hEach, hPairs⟩ := List.nodup_flatMap.1 hNodup
  have : Std.Symm (Function.onFun List.Disjoint c.cyclesAt) := ⟨fun _ _ h => List.disjoint_symm h⟩
  refine ⟨fun place => hEach place place.mem_finished_line, fun a b hne => ?_⟩
  exact hPairs.forall a.mem_finished_line b.mem_finished_line hne

theorem lt_of_distance {near far : Place} (hNear : near ≠ .finished) (hFar : far ≠ .finished)
    (hDistance : near.distance < far.distance) {n m : Nat} (hn : n ∈ c.cyclesAt near)
    (hm : m ∈ c.cyclesAt far) : n < m := by
  have hSorted : (Place.line.flatMap c.cyclesAt).Pairwise (· < ·) := by
    rw [c.flatMap_line]
    exact hc.onTheWay_sorted
  have hPairs := (List.pairwise_flatMap.1 hSorted).2
  have hPair := hPairs.sublist (Place.pair_sublist_line hNear hFar hDistance)
  exact List.pairwise_pair.1 hPair n hn m hm

end InOrder

/-- Of every worker group, whatever its stages did so far: the cycles accepted into the fetch queue
are numbered from one on without a gap; each of them is in exactly one place, and nowhere twice;
those nearer to dispatch have smaller numbers than those farther from it; and the crawler has been
called for the first of them, in order and once for each. -/
theorem cycles_conserved_in_order {s : Setting} {c : Course} (h : Reachable s c) :
    (∃ m, c.accepted = List.range' 1 m) ∧
    (∀ n ∈ c.accepted, ∃! place, n ∈ c.cyclesAt place) ∧
    (∀ place, (c.cyclesAt place).Nodup ∧ ∀ n ∈ c.cyclesAt place, n ∈ c.accepted) ∧
    (∀ near far : Place, near ≠ .finished → far ≠ .finished → near.distance < far.distance →
      ∀ n ∈ c.cyclesAt near, ∀ m ∈ c.cyclesAt far, n < m) ∧
    (∃ k ≤ c.accepted.length, c.visited = List.range' 1 k) := by
  have hc := h.inOrder
  refine ⟨⟨_, hc.accepted⟩, ?_, ?_, ?_, ?_⟩
  · intro n hn
    obtain ⟨place, hPlace⟩ := hc.mem_accepted_iff.1 hn
    refine ⟨place, hPlace, fun other hOther => ?_⟩
    by_contra hne
    exact hc.nodup_places.2 other place hne hOther hPlace
  · exact fun place => ⟨hc.nodup_places.1 place, fun n hn => hc.mem_accepted_iff.2 ⟨place, hn⟩⟩
  · exact fun near far hNear hFar hDistance n hn m hm => hc.lt_of_distance hNear hFar hDistance hn hm
  · refine ⟨c.visited.length, ?_, hc.visited_eq_range⟩
    rw [← hc.visited, List.length_append]
    exact Nat.le_add_right _ _

/-- Cycle 2 has panicked, and the others are in three places. -/
theorem opened_cycles :
    Reachable Sample.setting Sample.opened ∧ Sample.opened.accepted = [1, 2, 3, 4] ∧
    Place.line.map Sample.opened.cyclesAt = [[1], [], [], [], [3], [4]] ∧
    Sample.opened.finished = [2] ∧
    (∀ n ∈ Sample.opened.accepted, ∃! place, n ∈ Sample.opened.cyclesAt place) ∧
    ∃ k ≤ Sample.opened.accepted.length, Sample.opened.visited = List.range' 1 k := by
  obtain ⟨_, hPlace, _, _, hVisited⟩ := cycles_conserved_in_order Sample.opened_reachable
  refine ⟨Sample.opened_reachable, ?_, ?_, ?_, hPlace, hVisited⟩
  · decide +kernel
  · decide +kernel
  · decide +kernel

end Course

end Lookout.Pipeline
