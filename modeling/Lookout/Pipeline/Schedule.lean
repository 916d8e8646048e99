import Lookout.Pipeline.Group
/-!
Worker groups on one clock. Stages that can do something take turns in the order in which they
became able to; only when none can does time pass, up to the next instant at which a stage goes on.
Senders are shared by all groups.
-/
namespace Lookout.Pipeline

/-- A message as it is given to a sender. -/
structure Message where
  crawl : String
  /-- The cycle that the message is of. -/
  seq : Nat
  text : String
  deriving DecidableEq, Repr

/-- How calls of the crawler and of senders go. Calls are numbered from zero, those of the crawler
for each crawl, those of senders for each sender; a sender may look at the message it is given. -/
structure World where
  visit : (crawl : String) → (call : Nat) → Http.Visit
  senders : Nat
  delivery : (sender call : Nat) → (message : Message) → Delivery

/-- How far a worker group has come. -/
inductive Phase where
  | ready
  | running (g : Group)
  | ended

/-- A crawl with its worker group. -/
structure Worker where
  plan : Plan
  phase : Phase := .ready

/-- Whether a worker has nothing left to do. -/
def Worker.isDone (w : Worker) : Bool :=
  match w.phase with
  | .running g => g.isStopped
  | _ => true

/-- A stage of a worker. Workers go by their place. -/
structure Task where
  worker : Nat
  stage : Stage
  deriving DecidableEq, Repr

/-- What can be seen of the groups together. -/
inductive Sight where
  | ofWorker (worker : Nat) (note : Note)
  | allStarted
  | allStopped

/-- Something seen at a time. -/
structure Record where
  time : Nat
  sight : Sight

/-- All worker groups at an instant. -/
structure Schedule where
  /-- Milliseconds since the beginning. -/
  now : Nat := 0
  workers : List Worker
  /-- The stages that can do something. -/
  queue : List Task := []
  /-- When waiting stages go on, in the order in which they began to wait. -/
  timers : List (Nat × Task) := []
  /-- The calls of the crawler so far. -/
  visits : List (String × Nat) := []
  /-- The calls of each sender so far. -/
  deliveries : List (Nat × Nat) := []
  /-- What has been seen, the latest first. -/
  records : List Record := []

namespace Schedule

/-- The beginning, with no group running. -/
def ofPlans (plans : List Plan) : Schedule := { workers := plans.map fun p => { plan := p } }

/-- How often something has been counted. -/
def countOf {α : Type} [BEq α] (counts : List (α × Nat)) (key : α) : Nat :=
  (counts.lookup key).getD 0

/-- Counts something once more. -/
def countUp {α : Type} [BEq α] (key : α) : List (α × Nat) → List (α × Nat)
  | [] => [(key, 1)]
  | (k, n) :: rest => if k == key then (k, n + 1) :: rest else (k, n) :: countUp key rest

/-- Adds what is seen now. -/
def see (s : Schedule) (sight : Sight) : Schedule :=
  { s with records := ⟨s.now, sight⟩ :: s.records }

/-- Adds a note of a worker; calls are counted. -/
def note (s : Schedule) (worker : Nat) (crawl : String) (note : Note) : Schedule :=
  let s := s.see (.ofWorker worker note)
  match note with
  | .fetch _ => { s with visits := countUp crawl s.visits }
  | .send _ sender _ => { s with deliveries := countUp sender s.deliveries }
  | _ => s

/-- The group of a worker while it runs. -/
def group? (s : Schedule) (worker : Nat) : Option Group :=
  match s.workers[worker]? with
  | some { plan := _, phase := .running g } => some g
  | _ => none

/-- Puts a stage behind the others that can do something, unless it stands there already. -/
def enqueue (s : Schedule) (t : Task) : Schedule :=
  if s.queue.contains t then s else { s with queue := s.queue ++ [t] }

/-- Puts a stage in the queue if it can do something. -/
def wake (s : Schedule) (t : Task) : Schedule :=
  match s.group? t.worker with
  | some g => if g.canTurn t.stage s.now then s.enqueue t else s
  | none => s

/-- The stages beside a stage. -/
def neighbours : Stage → List Stage
  | .trigger => [.fetch]
  | .fetch => [.trigger, .evaluate]
  | .evaluate => [.fetch, .dispatch]
  | .dispatch => [.evaluate]

/-- The timers after a stage has gone from waiting for some times to waiting for others. -/
def retime (s : Schedule) (t : Task) (before after : List Nat) : Schedule :=
  if before.isEmpty then
    { s with timers := s.timers ++ (after.filter (s.now < ·)).map fun due => (due, t) }
  else if after.isEmpty then { s with timers := s.timers.filter fun (_, u) => u != t }
  else s

/-- Sets the phase of a worker. -/
def setPhase (s : Schedule) (worker : Nat) (phase : Phase) : Schedule :=
  { s with workers := s.workers.modify worker fun w => { w with phase := phase } }

/-- How calls of the senders with a text would go now, for a cycle of a crawl. -/
def nextDeliveries (w : World) (s : Schedule) (crawl : String) (seq : Nat) (text : String) :
    List Delivery :=
  (List.range w.senders).map fun sender =>
    w.delivery sender (countOf s.deliveries sender) ⟨crawl, seq, text⟩

/-- A turn of a stage, when the stage can do something. -/
def takeTurn (w : World) (t : Task) (s : Schedule) : Option Schedule :=
  match s.workers[t.worker]? with
  | some { plan := p, phase := .running g } =>
    let visit := w.visit p.name (countOf s.visits p.name)
    match g.turn p t.stage s.now visit (nextDeliveries w s p.name g.nextDispatched) with
    | none => none
    | some (after, notes) =>
      let s := s.setPhase t.worker (.running after)
      let s := notes.foldl (fun s n => s.note t.worker p.name n) s
      let s := s.retime t (g.dues t.stage) (after.dues t.stage)
      some ((neighbours t.stage).foldl (fun s stage => s.wake ⟨t.worker, stage⟩) s)
  | _ => none

/-- One turn of the first stage in the queue, or its removal when it can do no more. -/
def next? (w : World) (s : Schedule) : Option Schedule :=
  match s.queue with
  | [] => none
  | t :: rest =>
    match s.takeTurn w t with
    | some s => some s
    | none => some { s with queue := rest }

/-- Takes turns until no stage can do anything, or the bound is reached. -/
def settle (w : World) : (bound : Nat) → Schedule → Schedule
  | 0, s => s
  | bound + 1, s =>
    match s.next? w with
    | none => s
    | some s => settle w bound s

/-- The turns that are taken at one instant at most. -/
def instantBound (s : Schedule) : Nat := 10000 * (s.workers.length + 1)

/-- The next time at which a stage goes on. -/
def nextDue? (s : Schedule) : Option Nat := (s.timers.map (·.1)).min?

/-- Lets time pass up to an instant; stages whose time has come can do something again. -/
def passTo (s : Schedule) (time : Nat) : Schedule :=
  let (due, later) := s.timers.partition fun (d, _) => d ≤ time
  due.foldl (fun s (_, t) => s.enqueue t) { s with now := time, timers := later }

/-- Takes turns and lets time pass up to an instant, stopping at each instant before it at which a
stage goes on. -/
def advanceTo (w : World) (target : Nat) : (bound : Nat) → Schedule → Schedule
  | 0, s => { s with now := target }
  | bound + 1, s =>
    let s := s.settle w s.instantBound
    match s.nextDue? with
    | some due =>
      if due < target then advanceTo w target bound (s.passTo due)
      else { s with now := target }
    | none => { s with now := target }

/-- Starts the groups that are ready. -/
def start (s : Schedule) : Schedule :=
  let begin (s : Schedule) (worker : Nat) : Schedule :=
    match s.workers[worker]? with
    | some { plan := p, phase := .ready } =>
      let s := s.setPhase worker (.running {})
      let s := [Stage.dispatch, .evaluate, .fetch, .trigger].foldl
        (fun s stage => s.enqueue ⟨worker, stage⟩) s
      s.note worker p.name (.notice .started)
    | _ => s
  ((List.range s.workers.length).foldl begin s).see .allStarted

/-- Cancels the groups; those that are not running never will. -/
def cancel (s : Schedule) : Schedule :=
  let cancelOne (s : Schedule) (worker : Nat) : Schedule :=
    match s.workers[worker]? with
    | some { plan := _, phase := .running g } =>
      let s := s.setPhase worker (.running { g with cancelled := true })
      (s.wake ⟨worker, .fetch⟩).wake ⟨worker, .trigger⟩
    | _ => s.setPhase worker .ended
  (List.range s.workers.length).foldl cancelOne s

/-- Takes turns and lets time pass until all stages of all groups have stopped. -/
def drain (w : World) : (bound : Nat) → Schedule → Schedule
  | 0, s => s
  | bound + 1, s =>
    let s := s.settle w s.instantBound
    if s.workers.all Worker.isDone then s
    else
      match s.nextDue? with
      | some due => drain w bound (s.passTo due)
      | none => s

/-- The instants at which a drain stops at most: of each group there are at most seven cycles on
the way, with one wait for the crawler and one for each sender. -/
def drainBound (w : World) (s : Schedule) : Nat :=
  8 * (w.senders + 2) * (s.workers.length + 1) + s.timers.length

/-- Tells of the groups that have stopped. -/
def finish (s : Schedule) : Schedule :=
  let finishOne (s : Schedule) (worker : Nat) : Schedule :=
    match s.workers[worker]? with
    | some { plan := p, phase := .running g } =>
      if g.isStopped then
        (s.setPhase worker .ended).note worker p.name (.notice .stopped)
      else s
    | _ => s
  ((List.range s.workers.length).foldl finishOne s).see .allStopped

/-- What can be asked of all groups together. -/
inductive Command where
  | run
  | advance (milliseconds : Nat)
  | shutdown
  deriving DecidableEq, Repr

/-- Carries out a command. -/
def perform (w : World) (s : Schedule) : Command → Schedule
  | .run => s.start
  | .advance ms => s.advanceTo w (s.now + ms) (ms + 1)
  | .shutdown =>
    let s := s.cancel
    (s.drain w (drainBound w s)).finish

end Schedule

end Lookout.Pipeline
