import Lookout.Query.Failure
/-!
Streams of results, computed on demand. What stands after the part that is asked for is never
evaluated, and a failure does not end a stream: its consumer decides whether to go on.
-/
namespace Lookout.Query

/-- A stream of results. -/
inductive Stream (α : Type) where
  | nil
  /-- One result and nothing after it. -/
  | last (x : Result α)
  /-- A result and what may follow. -/
  | cons (x : Result α) (rest : Unit → Stream α)
  /-- A step that yields nothing yet. -/
  | later (next : Unit → Stream α)
  deriving Inhabited

namespace Stream

variable {α β : Type}

/-- A stream of one value. -/
def pure (a : α) : Stream α := .last (.ok a)

/-- A stream of one reason to stop. -/
def stop (s : Stop) : Stream α := .last (.error s)

/-- A stream of one failure. -/
def fail (f : Failure) : Stream α := .last (.error (.failure f))

/-- A stream of one result. -/
def ofResult (r : Result α) : Stream α := .last r

/-- The values of a list. -/
def ofList : List α → Stream α
  | [] => .nil
  | [a] => .last (.ok a)
  | a :: rest => .cons (.ok a) fun _ => ofList rest

/-- The results of a list. -/
def ofResults : List (Result α) → Stream α
  | [] => .nil
  | [r] => .last r
  | r :: rest => .cons r fun _ => ofResults rest

/-- One stream, then another. -/
def append (s : Stream α) (t : Unit → Stream α) : Stream α :=
  match s with
  | .nil => t ()
  | .last x => .cons x t
  | .cons x rest => .cons x fun _ => (rest ()).append t
  | .later next => .later fun _ => (next ()).append t

/-- Each result replaced by a stream. -/
def bindResult (s : Stream α) (k : Result α → Stream β) : Stream β :=
  match s with
  | .nil => .nil
  | .last x => k x
  | .cons x rest => (k x).append fun _ => (rest ()).bindResult k
  | .later next => .later fun _ => (next ()).bindResult k

/-- Each value replaced by a stream; other results stay. -/
def bind (s : Stream α) (k : α → Stream β) : Stream β :=
  s.bindResult fun
    | .ok a => k a
    | .error e => .last (.error e)

/-- Each value replaced by a result. -/
def mapResult (s : Stream α) (f : α → Result β) : Stream β :=
  match s with
  | .nil => .nil
  | .last x => .last (x.bind f)
  | .cons x rest => .cons (x.bind f) fun _ => (rest ()).mapResult f
  | .later next => .later fun _ => (next ()).mapResult f

/-- Each value replaced by a value. -/
def map (f : α → β) (s : Stream α) : Stream β := s.mapResult fun a => .ok (f a)

/-- The first result. -/
def first? : Stream α → Option (Result α)
  | .nil => none
  | .last x => some x
  | .cons x _ => some x
  | .later next => (next ()).first?

/-- The stream cut after its first result. -/
def takeFirst : Stream α → Stream α
  | .nil => .nil
  | .last x => .last x
  | .cons x _ => .last x
  | .later next => .later fun _ => (next ()).takeFirst

/-- The first results, as many as given. -/
def take : Nat → Stream α → Stream α
  | 0, _ => .nil
  | 1, s => s.takeFirst
  | n + 2, s => go (n + 1) s
where
  /-- Takes one result more than given. -/
  go (n : Nat) : Stream α → Stream α
    | .nil => .nil
    | .last x => .last x
    | .cons x rest =>
      match n with
      | 0 => .last x
      | n + 1 => .cons x fun _ => go n (rest ())
    | .later next => .later fun _ => go n (next ())

/-- All results but the first ones. -/
def skip (n : Nat) : Stream α → Stream α
  | .nil => .nil
  | .last x => if n == 0 then .last x else .nil
  | .cons x rest => if n == 0 then .cons x rest else .later fun _ => (rest ()).skip (n - 1)
  | .later next => .later fun _ => (next ()).skip n

/-- All values, or the first reason to stop. -/
def collectOnto (done : List α) : Stream α → Result (List α)
  | .nil => .ok done.reverse
  | .last (.ok a) => .ok (a :: done).reverse
  | .last (.error e) => .error e
  | .cons (.ok a) rest => (rest ()).collectOnto (a :: done)
  | .cons (.error e) _ => .error e
  | .later next => (next ()).collectOnto done

/-- All values, or the first reason to stop. -/
def collect (s : Stream α) : Result (List α) := s.collectOnto []

/-- The last value, or the first reason to stop. -/
def lastFrom (known : Option α) : Stream α → Result (Option α)
  | .nil => .ok known
  | .last (.ok a) => .ok (some a)
  | .last (.error e) => .error e
  | .cons (.ok a) rest => (rest ()).lastFrom (some a)
  | .cons (.error e) _ => .error e
  | .later next => (next ()).lastFrom known

/-- The stream up to the point where a label is left. -/
def untilLeft (label : Nat) : Stream α → Stream α
  | .nil => .nil
  | .last x => if isLeave x then .nil else .last x
  | .cons x rest => if isLeave x then .nil else .cons x fun _ => (rest ()).untilLeft label
  | .later next => .later fun _ => (next ()).untilLeft label
where
  /-- The result leaves the label. -/
  isLeave : Result α → Bool
    | .error (.leave l) => l == label
    | _ => false

/-- The stream up to its first failure, and then what a handler yields for that failure. -/
def attempt (handler : Failure → Stream α) : Stream α → Stream α
  | .nil => .nil
  | .last (.error (.failure f)) => handler f
  | .last x => .last x
  | .cons (.error (.failure f)) _ => handler f
  | .cons x rest => .cons x fun _ => (rest ()).attempt handler
  | .later next => .later fun _ => (next ()).attempt handler

/-- The stream without its failures. -/
def dropFailures (s : Stream α) : Stream α :=
  s.bindResult fun
    | .error (.failure _) => .nil
    | x => .last x

/-- The results that are not false values. -/
def filterResult (keep : α → Bool) : Stream α → Stream α
  | .nil => .nil
  | .last (.ok a) => if keep a then .last (.ok a) else .nil
  | .last (.error e) => .last (.error e)
  | .cons (.ok a) rest =>
    if keep a then .cons (.ok a) fun _ => (rest ()).filterResult keep
    else .later fun _ => (rest ()).filterResult keep
  | .cons (.error e) rest => .cons (.error e) fun _ => (rest ()).filterResult keep
  | .later next => .later fun _ => (next ()).filterResult keep

/-- The stream itself, or another one when it has no result. -/
def orElse (t : Unit → Stream α) : Stream α → Stream α
  | .nil => t ()
  | .last x => .last x
  | .cons x rest => .cons x rest
  | .later next => .later fun _ => (next ()).orElse t

/-- A value changed by one result after another; the change may yield several values, each of which
goes on with the rest. -/
def fold (s : Stream α) (b : β) (step : α → β → Stream β) : Stream β :=
  match s with
  | .nil => pure b
  | .last (.ok a) => step a b
  | .last (.error e) => .last (.error e)
  | .cons (.ok a) rest => (step a b).bind fun b => .later fun _ => (rest ()).fold b step
  | .cons (.error e) _ => .last (.error e)
  | .later next => .later fun _ => (next ()).fold b step

/-- The same with an output for each value that a change yields. -/
def scan {γ : Type} (s : Stream α) (b : β) (step : α → β → Stream β) (out : α → β → Stream γ) :
    Stream γ :=
  match s with
  | .nil => .nil
  | .last (.ok a) => (step a b).bind (out a)
  | .last (.error e) => .last (.error e)
  | .cons (.ok a) rest =>
    (step a b).bind fun b =>
      (out a b).append fun _ => .later fun _ => (rest ()).scan b step out
  | .cons (.error e) _ => .last (.error e)
  | .later next => .later fun _ => (next ()).scan b step out

/-- Changes made through a chain of steps, one for each value; `change` is made at its end. -/
def through (s : Stream α) (step : α → (β → Stream β) → β → Stream β) (change : β → Stream β) :
    β → Stream β :=
  match s with
  | .nil => change
  | .last (.ok a) => step a change
  | .last (.error e) => fun _ => .last (.error e)
  | .cons (.ok a) rest => step a ((rest ()).through step change)
  | .cons (.error e) _ => fun _ => .last (.error e)
  | .later next => fun b => .later fun _ => (next ()).through step change b

/-- The same with a change at every step of the chain. -/
def throughAll (s : Stream α) (step : α → (β → Stream β) → β → Stream β)
    (change : α → β → Stream β) : β → Stream β :=
  match s with
  | .nil => pure
  | .last (.ok a) => step a (change a)
  | .last (.error e) => fun _ => .last (.error e)
  | .cons (.ok a) rest =>
    step a fun b => (change a b).bind ((rest ()).throughAll step change)
  | .cons (.error e) _ => fun _ => .last (.error e)
  | .later next => fun b => .later fun _ => (next ()).throughAll step change b

/-- Whether some result is a stop or a value that satisfies a condition. -/
def anyResult (holds : α → Bool) : Stream α → Bool
  | .nil => false
  | .last (.ok a) => holds a
  | .last (.error _) => true
  | .cons (.ok a) rest => holds a || (rest ()).anyResult holds
  | .cons (.error _) _ => true
  | .later next => (next ()).anyResult holds

end Stream

end Lookout.Query
