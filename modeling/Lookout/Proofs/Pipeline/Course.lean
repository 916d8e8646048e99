import Lookout.Proofs.Pipeline.Turns
import Mathlib.Logic.Relation
/-!
Courses of a worker group from its start. Whichever stage can take a turn may take it, at any time
that is not before the last turn; how the calls of the crawler and of the senders go is open; and
shutdown may be called at any moment. A turn happens at once: a stage is not interrupted between
looking at the group and acting on it. Nothing is assumed of the order in which stages take turns,
nor that a stage goes on as soon as it can.
-/
namespace Lookout.Pipeline

/-- Whom a worker group works for and with, and how calls of them may go. -/
structure Setting where
  plan : Plan
  senders : Nat
  mayVisit : Http.Visit → Prop := fun _ => True
  mayDeliver : Delivery → Prop := fun _ => True
  exists_visit : ∃ visit, mayVisit visit
  exists_delivery : ∃ d, mayDeliver d

/-- Whether the calls of all senders with a text may go like this. -/
def Setting.Allows (s : Setting) (deliveries : String → List Delivery) : Prop :=
  ∀ text, (deliveries text).length = s.senders ∧ ∀ d ∈ deliveries text, s.mayDeliver d

theorem Setting.exists_allows (s : Setting) : ∃ deliveries, s.Allows deliveries := by
  obtain ⟨d, hd⟩ := s.exists_delivery
  exact ⟨fun _ => List.replicate s.senders d, fun _ =>
    ⟨List.length_replicate, fun e he => List.eq_of_mem_replicate he ▸ hd⟩⟩

/-- A turn that a stage has taken. -/
structure Turn where
  stage : Stage
  time : Nat
  before : Group
  after : Group
  notes : List Note

/-- A worker group with all turns that its stages have taken. -/
structure Course where
  group : Group := {}
  now : Nat := 0
  /-- Once shutdown has been called, the stages that it still waits for. -/
  awaited : Option (List Stage) := none
  turns : List Turn := []

/-- The stages from the first to the last. -/
def Stage.inOrder : List Stage := [.trigger, .fetch, .evaluate, .dispatch]

def Group.hasStopped (g : Group) : Stage → Bool
  | .trigger => g.trigger.isStopped
  | .fetch => g.fetch.isStopped
  | .evaluate => g.evaluate.isStopped
  | .dispatch => g.dispatch.isStopped

/-- A step that can happen to a worker group, with all that is open about it. -/
inductive Move where
  | turn (stage : Stage) (time : Nat) (visit : Http.Visit) (deliveries : String → List Delivery)
  | shutdown
  | join

/-- Whether the calls that begin in a step may go as it says. -/
def Setting.Permits (s : Setting) : Move → Prop
  | .turn _ _ visit deliveries => s.mayVisit visit ∧ s.Allows deliveries
  | .shutdown | .join => True

namespace Course

/-- The course after one more turn. -/
def take (c : Course) (t : Turn) : Course :=
  { c with group := t.after, now := t.time, turns := c.turns ++ [t] }

/-- The course after shutdown is called: the group is cancelled, and the stages are waited for one
after the other. -/
def beginShutdown (c : Course) : Course :=
  { c with
    group := { c.group with cancelled := true }
    awaited := some Stage.inOrder }

/-- The course after one of the stages that shutdown waits for has been seen to stop. -/
def join (c : Course) (rest : List Stage) : Course := { c with awaited := some rest }

def HasReturned (c : Course) : Prop := c.awaited = some []

/-- What happens next: a turn, the call of shutdown, or the wait for one stage comes to an end. -/
inductive Step (s : Setting) : Course → Course → Prop where
  | turn {c : Course} {stage : Stage} {time : Nat} {visit : Http.Visit}
      {deliveries : String → List Delivery} {after : Group} {notes : List Note}
      (hTime : c.now ≤ time) (hVisit : s.mayVisit visit) (hDeliveries : s.Allows deliveries)
      (hTurn : c.group.turn s.plan stage time visit deliveries = some (after, notes)) :
      Step s c (c.take ⟨stage, time, c.group, after, notes⟩)
  | shutdown {c : Course} (hFirst : c.awaited = none) : Step s c c.beginShutdown
  | join {c : Course} {stage : Stage} {rest : List Stage}
      (hAwaited : c.awaited = some (stage :: rest)) (hStopped : c.group.hasStopped stage = true) :
      Step s c (c.join rest)

/-- One course goes on to another by any number of steps. -/
abbrev Leads (s : Setting) : Course → Course → Prop := Relation.ReflTransGen (Step s)

/-- The courses that a worker group can take from its start. -/
def Reachable (s : Setting) (c : Course) : Prop := Leads s {} c

/-- The course after a step, when it is possible. -/
def move? (p : Plan) (c : Course) : Move → Option Course
  | .turn stage time visit deliveries =>
    if c.now ≤ time then
      (c.group.turn p stage time visit deliveries).map fun (after, notes) =>
        c.take ⟨stage, time, c.group, after, notes⟩
    else none
  | .shutdown => if c.awaited.isNone then some c.beginShutdown else none
  | .join =>
    match c.awaited with
    | some (stage :: rest) => if c.group.hasStopped stage then some (c.join rest) else none
    | _ => none

/-- The course after some steps, when all of them are possible. -/
def follow? (p : Plan) (c : Course) (moves : List Move) : Option Course := moves.foldlM (move? p) c

/-- The steps are those that can be computed. -/
theorem step_iff_exists_move {s : Setting} {c d : Course} :
    Step s c d ↔ ∃ m, s.Permits m ∧ c.move? s.plan m = some d := by
  constructor
  · intro hStep
    cases hStep with
    | @turn stage time visit deliveries after notes hTime hVisit hDeliveries hTurn =>
        exact ⟨.turn stage time visit deliveries, ⟨hVisit, hDeliveries⟩, by
          simp [move?, hTime, hTurn]⟩
    | shutdown hFirst => exact ⟨.shutdown, trivial, by simp [move?, hFirst]⟩
    | join hAwaited hStopped => exact ⟨.join, trivial, by simp [move?, hAwaited, hStopped]⟩
  · rintro ⟨m, hPermits, hMove⟩
    cases m with
    | turn stage time visit deliveries =>
        simp only [move?] at hMove
        split_ifs at hMove with hTime
        obtain ⟨⟨after, notes⟩, hTurn, rfl⟩ := Option.map_eq_some_iff.1 hMove
        exact .turn hTime hPermits.1 hPermits.2 hTurn
    | shutdown =>
        simp only [move?] at hMove
        split_ifs at hMove with hFirst
        cases hMove
        exact .shutdown (Option.isNone_iff_eq_none.1 hFirst)
    | join =>
        simp only [move?] at hMove
        split at hMove
        · rename_i stage rest hAwaited
          split_ifs at hMove with hStopped
          cases hMove
          exact .join hAwaited hStopped
        · cases hMove

theorem leads_of_follow {s : Setting} {c d : Course} {moves : List Move}
    (hPermits : ∀ m ∈ moves, s.Permits m) (h : c.follow? s.plan moves = some d) : Leads s c d := by
  induction moves generalizing c with
  | nil =>
      cases h
      exact .refl
  | cons m moves ih =>
      obtain ⟨e, hMove, hRest⟩ := Option.bind_eq_some_iff.1 h
      have hStep : Step s c e := step_iff_exists_move.2 ⟨m, hPermits m List.mem_cons_self, hMove⟩
      exact .head hStep (ih (fun m' hm => hPermits m' (List.mem_cons_of_mem _ hm)) hRest)

/-- Steps that are all possible and permitted lead to the course that is computed. -/
theorem leads_getD {s : Setting} {c : Course} {moves : List Move}
    (hPermits : ∀ m ∈ moves, s.Permits m) (hFollow : (c.follow? s.plan moves).isSome = true) :
    Leads s c ((c.follow? s.plan moves).getD {}) := by
  obtain ⟨d, hd⟩ := Option.isSome_iff_exists.1 hFollow
  rw [hd]
  exact leads_of_follow hPermits hd

theorem Reachable.leads {s : Setting} {c d : Course} (h : Reachable s c) (hLeads : Leads s c d) :
    Reachable s d :=
  Relation.ReflTransGen.trans h hLeads

theorem Reachable.step {s : Setting} {c d : Course} (h : Reachable s c) (hStep : Step s c d) :
    Reachable s d :=
  Relation.ReflTransGen.tail h hStep

end Course

/-! ### What can be seen of a course -/

/-- What becomes of a cycle in the end. -/
inductive Fate where
  | fetchFailed
  | fetchPanicked
  | queryFailed
  | notMatched
  | emptyMessage
  /-- All senders were called, and all of their calls have ended. -/
  | dispatched
  /-- The call of a sender panicked. -/
  | dispatchPanicked
  deriving DecidableEq, Repr

namespace Note

/-- The cycle that a note is the end of. -/
def fate? : Note → Option (Nat × Fate)
  | event seq (.fetchFailed _) => some (seq, .fetchFailed)
  | event seq (.fetchPanicked _) => some (seq, .fetchPanicked)
  | event seq (.queryFailed _) => some (seq, .queryFailed)
  | event seq .noMatch => some (seq, .notMatched)
  | event seq .emptyMessage => some (seq, .emptyMessage)
  | event seq (.sendPanicked _) => some (seq, .dispatchPanicked)
  | _ => none

/-- The cycle that the crawler is called for. -/
def visited? : Note → Option Nat
  | fetch seq => some seq
  | _ => none

/-- The cycle and the text that a sender is called with. -/
def sentTo? (sender : Nat) : Note → Option (Nat × String)
  | send seq called text => if called = sender then some (seq, text) else none
  | _ => none

@[simp] theorem sentTo?_event (sender seq : Nat) (e : Event) :
    sentTo? sender (event seq e) = none := rfl

@[simp] theorem sentTo?_notice (sender : Nat) (n : Notice) : sentTo? sender (notice n) = none := rfl
@[simp] theorem sentTo?_fetch (sender seq : Nat) : sentTo? sender (fetch seq) = none := rfl

end Note

namespace Turn

/-- The cycles that are accepted into the fetch queue. -/
def accepted (t : Turn) : List Nat := t.after.toFetch.drop t.before.toFetch.length

/-- The result of the call of the crawler that ends. -/
def result? (t : Turn) : Option (Nat × FetchResult) :=
  match t.stage with
  | .fetch => t.before.fetch.result? t.before.cancelled
  | _ => none

/-- The cycles that end. No note tells of a message whose calls have all ended without a panic. -/
def fates (t : Turn) : List (Nat × Fate) :=
  match t.notes.filterMap Note.fate?, t.before.dispatch, t.after.dispatch with
  | [], .sending seq _, .idle => [(seq, .dispatched)]
  | noted, _, _ => noted

end Turn

namespace Course

/-- The cycles that have been accepted into the fetch queue, in order. -/
def accepted (c : Course) : List Nat := c.turns.flatMap Turn.accepted

/-- The results of the calls of the crawler that have ended, in order. -/
def results (c : Course) : List (Nat × FetchResult) := c.turns.filterMap Turn.result?

/-- The cycles that have ended, in order. -/
def fates (c : Course) : List (Nat × Fate) := c.turns.flatMap Turn.fates

def finished (c : Course) : List Nat := c.fates.map Prod.fst

/-- All that has been told of the group. -/
def notes (c : Course) : List Note :=
  .notice .started :: c.turns.flatMap Turn.notes ++
    if c.awaited = some [] then [.notice .stopped] else []

/-- The cycles that the crawler has been called for, in order. -/
def visited (c : Course) : List Nat := c.notes.filterMap Note.visited?

/-- The cycles and texts that a sender has been called with, in order. -/
def sentTo (c : Course) (sender : Nat) : List (Nat × String) :=
  c.notes.filterMap (Note.sentTo? sender)

section Lemmas
variable (c : Course) (t : Turn) (rest : List Stage) (sender : Nat)

@[simp] theorem take_group : (c.take t).group = t.after := rfl
@[simp] theorem take_awaited : (c.take t).awaited = c.awaited := rfl
@[simp] theorem join_group : (c.join rest).group = c.group := rfl
@[simp] theorem join_awaited : (c.join rest).awaited = some rest := rfl

@[simp] theorem accepted_take : (c.take t).accepted = c.accepted ++ t.accepted := by
  simp [accepted, take]

@[simp] theorem results_take : (c.take t).results = c.results ++ t.result?.toList := by
  cases h : t.result? <;> simp [results, take, h]

@[simp] theorem fates_take : (c.take t).fates = c.fates ++ t.fates := by
  simp [fates, take]

theorem visited_eq : c.visited = (c.turns.flatMap Turn.notes).filterMap Note.visited? := by
  unfold visited notes
  split_ifs <;> simp [List.filterMap_cons, Note.visited?]

theorem sentTo_eq : c.sentTo sender =
    (c.turns.flatMap Turn.notes).filterMap (Note.sentTo? sender) := by
  unfold sentTo notes
  split_ifs <;> simp [List.filterMap_cons, Note.sentTo?]

@[simp] theorem visited_take :
    (c.take t).visited = c.visited ++ t.notes.filterMap Note.visited? := by
  simp [visited_eq, take]

@[simp] theorem sentTo_take :
    (c.take t).sentTo sender = c.sentTo sender ++ t.notes.filterMap (Note.sentTo? sender) := by
  simp [sentTo_eq, take]

@[simp] theorem visited_beginShutdown : c.beginShutdown.visited = c.visited := by
  simp [visited_eq, beginShutdown]

@[simp] theorem sentTo_beginShutdown : c.beginShutdown.sentTo sender = c.sentTo sender := by
  simp [sentTo_eq, beginShutdown]

@[simp] theorem results_join : (c.join rest).results = c.results := rfl

@[simp] theorem visited_join : (c.join rest).visited = c.visited := by
  simp [visited_eq, join]

@[simp] theorem sentTo_join : (c.join rest).sentTo sender = c.sentTo sender := by
  simp [sentTo_eq, join]

end Lemmas

end Course

/-! ### A course to look at -/

namespace Sample

/-- A crawl whose every document matches unless it is empty or false. -/
def plan : Plan where
  name := "fruit"
  interval := 10
  request := ⟨"GET",
    ⟨"http", true, "", none, some (.domain "localhost"), none, .plain "/fruit", none, none⟩, [], ""⟩
  condition := ⟨⟨".", .identity⟩, [("NAME", ⟨".", .identity⟩)]⟩
  message := "found $NAME"

/-- The first sender takes its time, and the second one fails. -/
def deliveries (_ : String) : List Delivery :=
  [{ delay := some 3 }, { delay := some 0, ending := .returned (.error ["channel unavailable"]) }]

/-- A call of the crawler that brings a body of one character. -/
def page (delay : Nat) (octet : UInt8) : Http.Visit where
  delay := some delay
  ending := .returned (.ok ⟨[], ⟨#[octet]⟩⟩)

/-- A call of the crawler that panics. -/
def crash : Http.Visit where
  ending := .panicked (.text "connection pool gone")

/-- Two senders, neither of which ever panics. -/
def setting : Setting where
  plan := plan
  senders := 2
  mayDeliver d := ∃ result, d.ending = .returned result
  exists_visit := ⟨crash, trivial⟩
  exists_delivery := ⟨{}, .ok (), rfl⟩

/-- A call of the crawler that ends only when its cycle is cancelled. -/
def hang : Http.Visit where
  delay := none
  cancellable := true
  ending := .returned (.error .cancelled)

def turn (stage : Stage) (time : Nat) (visit : Http.Visit := crash) : Move :=
  .turn stage time visit deliveries

/-- Cycle 1 is on its way to the senders, cycle 2 has panicked, cycle 3 is being fetched, cycle 4
waits for that, and the trigger cannot hand on cycle 5. -/
def opening : List Move :=
  [turn .trigger 0, turn .trigger 0, turn .fetch 0 (page 5 0x37), turn .fetch 5, turn .fetch 5,
    turn .evaluate 5, turn .evaluate 5, turn .evaluate 5, turn .dispatch 9,
    turn .trigger 10, turn .trigger 10, turn .trigger 10, turn .fetch 10 crash, turn .fetch 10,
    turn .trigger 20, turn .trigger 20, turn .trigger 20, turn .fetch 20 (page 100 0x38),
    turn .trigger 30, turn .trigger 30, turn .trigger 30, turn .trigger 40, turn .trigger 40]

def opened : Course := (Course.follow? plan {} opening).getD {}

/-- After shutdown is called, cycle 5 is given up, cycles 1 and 3 are sent, and the call for cycle 4
is cancelled. -/
def closing : List Move :=
  [turn .trigger 50, .join, turn .dispatch 50, turn .dispatch 50, turn .fetch 120, turn .fetch 120,
    turn .evaluate 120, turn .evaluate 120, turn .evaluate 120, turn .dispatch 121,
    turn .fetch 121 hang, turn .fetch 121, turn .fetch 122, .join, turn .evaluate 122, .join,
    turn .dispatch 124, turn .dispatch 124, turn .dispatch 124, .join]

/-- The course after shutdown has returned. -/
def closed : Course := (Course.follow? plan opened.beginShutdown closing).getD {}

theorem allows_deliveries : setting.Allows deliveries := by
  intro text
  refine ⟨rfl, ?_⟩
  intro d hd
  rcases List.mem_cons.1 hd with rfl | hd
  · exact ⟨_, rfl⟩
  · rcases List.mem_singleton.1 hd with rfl
    exact ⟨_, rfl⟩

theorem permits_turn (stage : Stage) (time : Nat) (visit : Http.Visit) :
    setting.Permits (turn stage time visit) :=
  ⟨trivial, allows_deliveries⟩

theorem opened_reachable : Course.Reachable setting opened := by
  refine Course.leads_getD ?_ (by decide +kernel)
  simp only [opening, List.forall_mem_cons, permits_turn, true_and]
  simp

theorem opened_leads_closed : Course.Leads setting opened.beginShutdown closed := by
  refine Course.leads_getD ?_ (by decide +kernel)
  simp only [closing, List.forall_mem_cons, permits_turn, true_and]
  simp [Setting.Permits]

theorem opened_awaited : opened.awaited = none := by decide +kernel

theorem shut_reachable : Course.Reachable setting opened.beginShutdown :=
  opened_reachable.step (.shutdown opened_awaited)

theorem closed_reachable : Course.Reachable setting closed := shut_reachable.leads opened_leads_closed

theorem closed_hasReturned : closed.HasReturned := by
  unfold Course.HasReturned
  decide +kernel

end Sample

end Lookout.Pipeline
