import Lookout.Proofs.Pipeline.Scheduled
/-!
What a schedule is to one of its workers. A turn of a worker depends on the clock, on its own group
and on how often the crawler was called for its own crawl, and it changes these alone. When crawls
have different names, nothing that another worker does is among them: to a worker the whole schedule
is a view, and views go on by themselves.
-/
namespace Lookout.Pipeline

/-- Whether the calls of senders go alike for the same message, however often they were called. -/
def World.Steady (w : World) : Prop :=
  ∀ sender call call' message, w.delivery sender call message = w.delivery sender call' message

/-- How the calls of the senders go for a text of a cycle. -/
def World.deliveries (w : World) (crawl : String) (seq : Nat) (text : String) : List Delivery :=
  (List.range w.senders).map fun sender => w.delivery sender 0 ⟨crawl, seq, text⟩

/-- One worker, with all that its turns depend on and with what has been seen of it. -/
structure View where
  now : Nat
  worker : Worker
  /-- The calls of the crawler for its crawl so far. -/
  calls : Nat
  /-- What has been seen of it at which times, in order. -/
  seen : List (Nat × Note)

namespace View

/-- A turn of a stage of the worker. -/
def turn (w : World) (stage : Stage) (v : View) : Option View :=
  match v.worker with
  | { plan := p, phase := .running g } =>
    let visit := w.visit p.name v.calls
    (g.turn p stage v.now visit (w.deliveries p.name g.nextDispatched)).map fun (after, notes) =>
      { v with
        worker := { plan := p, phase := .running after }
        calls := v.calls + (notes.filterMap Note.visited?).length
        seen := v.seen ++ notes.map fun n => (v.now, n) }
  | _ => none

/-- Starts the group of the worker if it is ready. -/
def start (v : View) : View :=
  match v.worker with
  | { plan := p, phase := .ready } =>
    { v with
      worker := { plan := p, phase := .running {} }
      seen := v.seen ++ [(v.now, .notice .started)] }
  | _ => v

end View

namespace Schedule

/-- What has been seen of a worker at which times, in order. -/
def seenOf (s : Schedule) (worker : Nat) : List (Nat × Note) :=
  s.records.reverse.filterMap fun r => (r.sight.noteOf? worker).map fun n => (r.time, n)

/-- The view of a worker. -/
def view? (s : Schedule) (worker : Nat) : Option View :=
  s.workers[worker]?.map fun own =>
    ⟨s.now, own, countOf s.visits own.plan.name, s.seenOf worker⟩

/-- The crawls of the workers. -/
def plans (s : Schedule) : List Plan := s.workers.map Worker.plan

theorem plans_setPhase (s : Schedule) (worker : Nat) (phase : Phase) :
    (s.setPhase worker phase).workers.map Worker.plan = s.plans := by
  refine List.ext_getElem? fun j => ?_
  rw [plans, List.getElem?_map, List.getElem?_map, setPhase, List.getElem?_modify]
  cases s.workers[j]? with
  | none => simp
  | some own => by_cases h : worker = j <;> simp [h]

theorem length_setPhase (s : Schedule) (worker : Nat) (phase : Phase) :
    (s.setPhase worker phase).workers.length = s.workers.length :=
  List.length_modify _ _ _

theorem setPhase_self {s : Schedule} {worker : Nat} {p : Plan} {old : Phase}
    (hWorker : s.workers[worker]? = some ⟨p, old⟩) (phase : Phase) :
    (s.setPhase worker phase).workers[worker]? = some ⟨p, phase⟩ := by
  rw [setPhase, List.getElem?_modify, hWorker]
  simp

theorem setPhase_other {worker other : Nat} (hne : worker ≠ other) (s : Schedule) (phase : Phase) :
    (s.setPhase worker phase).workers[other]? = s.workers[other]? := by
  rw [setPhase, List.getElem?_modify]
  simp [hne]

/-! ### Counts -/

theorem countOf_cons (key other : String) (n : Nat) (counts : List (String × Nat)) :
    countOf ((key, n) :: counts) other = if other = key then n else countOf counts other := by
  by_cases h : other = key
  · simp [countOf, h]
  · simp [countOf, List.lookup_cons, beq_false_of_ne h, h]

theorem countOf_countUp (key other : String) (counts : List (String × Nat)) :
    countOf (countUp key counts) other = countOf counts other + if other = key then 1 else 0 := by
  induction counts with
  | nil =>
      rw [countUp, countOf_cons]
      exact (Nat.zero_add _).symm
  | cons entry rest ih =>
      obtain ⟨k, n⟩ := entry
      by_cases hKey : k = key
      · subst hKey
        simp only [countUp, beq_self_eq_true, if_true, countOf_cons]
        split <;> rfl
      · simp only [countUp, beq_false_of_ne hKey, Bool.false_eq_true, if_false, countOf_cons, ih]
        by_cases hOther : other = k
        · simp [hOther, hKey]
        · simp [hOther]

/-- Only calls of the crawler are counted, each for its crawl. -/
theorem countOf_note (s : Schedule) (worker : Nat) (crawl other : String) (n : Note) :
    countOf (s.note worker crawl n).visits other =
      countOf s.visits other + if other = crawl then n.visited?.toList.length else 0 := by
  cases n with
  | fetch seq => exact countOf_countUp crawl other s.visits
  | _ => simp [note, see, Note.visited?]

theorem countOf_foldl_note (worker : Nat) (crawl other : String) (notes : List Note) (s : Schedule) :
    countOf (notes.foldl (fun s n => s.note worker crawl n) s).visits other =
      countOf s.visits other + if other = crawl then (notes.filterMap Note.visited?).length else 0 := by
  induction notes generalizing s with
  | nil => simp
  | cons n notes ih =>
      rw [List.foldl_cons, ih, countOf_note, Nat.add_assoc]
      by_cases h : other = crawl
      · cases hn : n.visited? <;> simp [h, hn, Nat.add_comm]
      · simp [h]

/-! ### Turns -/

variable {w : World} {s after : Schedule} {i j : Nat} {stage : Stage} {p : Plan} {g next : Group}
  {told : List Note} {v : View}

/-- What a turn of a worker changes of a schedule, the queue and the timers apart. -/
structure TakesTurn (s after : Schedule) (i : Nat) (p : Plan) (next : Group) (told : List Note) :
    Prop where
  now : after.now = s.now
  workers : after.workers = (s.setPhase i (.running next)).workers
  records : after.records = (told.map fun n => ⟨s.now, .ofWorker i n⟩).reverse ++ s.records
  visits : ∀ crawl, countOf after.visits crawl =
    countOf s.visits crawl + if crawl = p.name then (told.filterMap Note.visited?).length else 0

/-- A worker whose group takes a turn takes it: the notes are seen, a timer is set if the stage begins
to wait, and the stages beside it are woken. -/
theorem takeTurn_eq (hWorker : s.workers[i]? = some ⟨p, .running g⟩)
    (hTurn : g.turn p stage s.now (w.visit p.name (countOf s.visits p.name))
      (nextDeliveries w s p.name g.nextDispatched) = some (next, told)) :
    s.takeTurn w ⟨i, stage⟩ =
      some ((neighbours stage).foldl (fun s stage => s.wake ⟨i, stage⟩)
        ((told.foldl (fun s n => s.note i p.name n) (s.setPhase i (.running next))).retime
          ⟨i, stage⟩ (g.dues stage) (next.dues stage))) := by
  unfold takeTurn
  simp only [hWorker, hTurn]

theorem takeTurn_of_turn (hWorker : s.workers[i]? = some ⟨p, .running g⟩)
    (hTurn : g.turn p stage s.now (w.visit p.name (countOf s.visits p.name))
      (nextDeliveries w s p.name g.nextDispatched) = some (next, told)) :
    ∃ after, s.takeTurn w ⟨i, stage⟩ = some after ∧ TakesTurn s after i p next told := by
  refine ⟨_, takeTurn_eq hWorker hTurn, ?_⟩
  have hVisits := fun crawl => countOf_foldl_note i p.name crawl told (s.setPhase i (.running next))
  obtain ⟨visits, deliveries, hTold⟩ := foldl_note_eq i p.name told (s.setPhase i (.running next))
  rw [hTold] at hVisits ⊢
  generalize hSeen : Schedule.mk _ _ _ _ _ _ _ = seen at hVisits ⊢
  obtain ⟨timers, hTimers⟩ := retime_eq seen ⟨i, stage⟩ (g.dues stage) (next.dues stage)
  obtain ⟨queue, hQueue⟩ := foldl_queue_eq (fun s stage => wake_eq s ⟨i, stage⟩)
    (neighbours stage) (seen.retime ⟨i, stage⟩ (g.dues stage) (next.dues stage))
  rw [hQueue, hTimers, ← hSeen]
  rw [← hSeen] at hVisits
  exact ⟨rfl, rfl, rfl, hVisits⟩

/-- A worker takes a turn only when its group runs and takes one. -/
theorem turn_of_takeTurn (h : s.takeTurn w ⟨i, stage⟩ = some after) :
    ∃ p g next told, s.workers[i]? = some ⟨p, .running g⟩ ∧
      g.turn p stage s.now (w.visit p.name (countOf s.visits p.name))
        (nextDeliveries w s p.name g.nextDispatched) = some (next, told) ∧
      TakesTurn s after i p next told := by
  have hTaken := h
  unfold takeTurn at h
  split at h
  · rename_i p g hWorker
    simp only at h
    split at h
    · cases h
    · rename_i next told hTurn
      obtain ⟨_, hAfter, hTakes⟩ := takeTurn_of_turn hWorker hTurn
      cases hTaken.symm.trans hAfter
      exact ⟨p, g, next, told, hWorker, hTurn, hTakes⟩
  · cases h

theorem nextDeliveries_eq (hw : w.Steady) (s : Schedule) (crawl : String) (seq : Nat) :
    nextDeliveries w s crawl seq = w.deliveries crawl seq := by
  funext text
  refine List.map_congr_left fun sender _ => ?_
  exact hw sender _ _ _

namespace TakesTurn

theorem plans (h : TakesTurn s after i p next told) : after.plans = s.plans := by
  rw [Schedule.plans, h.workers, plans_setPhase]

theorem seenOf (h : TakesTurn s after i p next told) (j : Nat) :
    after.seenOf j = s.seenOf j ++ if i = j then told.map fun n => (s.now, n) else [] := by
  rw [Schedule.seenOf, h.records, List.reverse_append, List.reverse_reverse, List.filterMap_append,
    Schedule.seenOf, List.filterMap_map]
  by_cases hEq : i = j
  · simp [Sight.noteOf?, hEq]
  · simp [Function.comp_def, Sight.noteOf?, hEq]

theorem view_self (h : TakesTurn s after i p next told) (hWorker : s.workers[i]? = some ⟨p, .running g⟩) :
    after.view? i = some ⟨s.now, ⟨p, .running next⟩,
      countOf s.visits p.name + (told.filterMap Note.visited?).length,
      s.seenOf i ++ told.map fun n => (s.now, n)⟩ := by
  simp [view?, h.workers, setPhase_self hWorker, h.now, h.visits, h.seenOf]

/-- The turn of a worker is no matter for a worker whose crawl has another name. -/
theorem view_other (h : TakesTurn s after i p next told) (hNames : (s.plans.map Plan.name).Nodup)
    (hWorker : s.workers[i]? = some ⟨p, .running g⟩) (hne : i ≠ j) : after.view? j = s.view? j := by
  unfold view?
  rw [h.workers, setPhase_other hne]
  cases hOther : s.workers[j]? with
  | none => rfl
  | some other =>
      have hName : other.plan.name ≠ p.name := by
        intro hEq
        refine hne ((List.getElem?_inj ?_ hNames).1 ?_)
        · simpa [Schedule.plans] using (List.getElem?_eq_some_iff.1 hWorker).1
        · simp [Schedule.plans, hWorker, hOther, hEq]
      simp [h.now, h.visits, h.seenOf, hne, hName]

/-- What holds of all workers and of what is seen of them holds after a turn as well, if it does of the
worker whose turn it is. -/
theorem forall_worker {P : Worker → List (Nat × Note) → Prop} (h : TakesTurn s after i p next told)
    (hWorker : s.workers[i]? = some ⟨p, .running g⟩)
    (hAll : ∀ j own, s.workers[j]? = some own → P own (s.seenOf j))
    (hOwn : P ⟨p, .running next⟩ (s.seenOf i ++ told.map fun n => (s.now, n))) :
    ∀ j own, after.workers[j]? = some own → P own (after.seenOf j) := by
  intro j own hj
  rw [h.seenOf]
  rw [h.workers] at hj
  by_cases hji : i = j
  · subst hji
    cases (setPhase_self hWorker _).symm.trans hj
    rwa [if_pos rfl]
  · rw [setPhase_other hji] at hj
    rw [if_neg hji, List.append_nil]
    exact hAll j own hj

end TakesTurn

theorem plans_takeTurn (h : s.takeTurn w ⟨i, stage⟩ = some after) : after.plans = s.plans := by
  obtain ⟨_, _, _, _, _, _, hTakes⟩ := turn_of_takeTurn h
  exact hTakes.plans

theorem now_takeTurn (h : s.takeTurn w ⟨i, stage⟩ = some after) : after.now = s.now := by
  obtain ⟨_, _, _, _, _, _, hTakes⟩ := turn_of_takeTurn h
  exact hTakes.now

theorem view_takeTurn_other (hNames : (s.plans.map Plan.name).Nodup) (hne : i ≠ j)
    (h : s.takeTurn w ⟨i, stage⟩ = some after) : after.view? j = s.view? j := by
  obtain ⟨_, _, _, _, hWorker, _, hTakes⟩ := turn_of_takeTurn h
  exact hTakes.view_other hNames hWorker hne

/-- A turn of a worker in a schedule is a turn of its view. -/
theorem turn_view (hw : w.Steady) (hView : s.view? i = some v)
    (h : s.takeTurn w ⟨i, stage⟩ = some after) :
    ∃ v', v.turn w stage = some v' ∧ after.view? i = some v' := by
  obtain ⟨p, g, next, told, hWorker, hTurn, hTakes⟩ := turn_of_takeTurn h
  obtain rfl : v = ⟨s.now, ⟨p, .running g⟩, countOf s.visits p.name, s.seenOf i⟩ := by
    simpa [view?, hWorker] using hView.symm
  rw [nextDeliveries_eq hw] at hTurn
  exact ⟨_, by simp only [View.turn, hTurn, Option.map_some], hTakes.view_self hWorker⟩

/-- A turn of the view of a worker is one that it can take in the schedule. -/
theorem exists_takeTurn (hw : w.Steady) (hView : s.view? i = some v) {v' : View}
    (h : v.turn w stage = some v') :
    ∃ after, s.takeTurn w ⟨i, stage⟩ = some after ∧ after.view? i = some v' := by
  obtain ⟨⟨p, phase⟩, hWorker, rfl⟩ := Option.map_eq_some_iff.1 hView
  cases phase with
  | running g =>
      obtain ⟨⟨next, told⟩, hTurn, rfl⟩ := Option.map_eq_some_iff.1 h
      have hTurn' := hTurn
      rw [← nextDeliveries_eq hw s] at hTurn'
      obtain ⟨after, hAfter, hTakes⟩ := takeTurn_of_turn hWorker hTurn'
      exact ⟨after, hAfter, hTakes.view_self hWorker⟩
  | ready => cases h
  | ended => cases h

/-! ### The start -/

/-- A change of all workers in turn is a change of each of them. -/
theorem view_foldl (change : View → View) {f : Schedule → Nat → Schedule}
    (hSelf : ∀ s, (f s i).view? i = (s.view? i).map change)
    (hOther : ∀ s k, k ≠ i → (f s k).view? i = s.view? i) {l : List Nat} (hl : l.Nodup)
    (s : Schedule) :
    (l.foldl f s).view? i = if i ∈ l then (s.view? i).map change else s.view? i := by
  induction l generalizing s with
  | nil => simp
  | cons k l ih =>
      rw [List.nodup_cons] at hl
      rw [List.foldl_cons, ih hl.2]
      by_cases hk : k = i
      · subst hk
        simp [hl.1, hSelf]
      · simp [hOther s k hk, Ne.symm hk]

/-- When the view of each worker has changed alike, a worker is what has become of one before. -/
theorem exists_of_view {change : View → View} (hView : ∀ i, after.view? i = (s.view? i).map change)
    {own : Worker} (hOwn : after.workers[i]? = some own) :
    ∃ v, s.view? i = some v ∧ (change v).now = after.now ∧ (change v).worker = own ∧
      (change v).seen = after.seenOf i := by
  have hAfter := hView i
  rw [view?, hOwn, Option.map_some] at hAfter
  obtain ⟨v, hBefore, hSame⟩ := Option.map_eq_some_iff.1 hAfter.symm
  refine ⟨v, hBefore, ?_⟩
  rw [hSame]
  exact ⟨rfl, rfl, rfl⟩

theorem plans_foldl {f : Schedule → Nat → Schedule} (hf : ∀ s k, (f s k).plans = s.plans) (l : List Nat)
    (s : Schedule) : (l.foldl f s).plans = s.plans := by
  induction l generalizing s with
  | nil => rfl
  | cons k l ih => rw [List.foldl_cons, ih, hf]

theorem view_none (h : s.workers.length ≤ i) : s.view? i = none := by
  rw [view?, List.getElem?_eq_none_iff.2 h, Option.map_none]

theorem view_foldl_range (change : View → View) {f : Schedule → Nat → Schedule}
    (hSelf : ∀ s, (f s i).view? i = (s.view? i).map change)
    (hOther : ∀ s k, k ≠ i → (f s k).view? i = s.view? i) (s : Schedule) :
    ((List.range s.workers.length).foldl f s).view? i = (s.view? i).map change := by
  rw [view_foldl change hSelf hOther List.nodup_range]
  split_ifs with hi
  · rfl
  · rw [view_none (by simpa using hi), Option.map_none]

/-- A group that is started is as at its beginning; what is told of it is seen of its worker. -/
structure Begins (s after : Schedule) (k : Nat) (p : Plan) : Prop where
  now : after.now = s.now
  workers : after.workers = (s.setPhase k (.running {})).workers
  timers : after.timers = s.timers
  visits : after.visits = s.visits
  deliveries : after.deliveries = s.deliveries
  records : after.records = ⟨s.now, .ofWorker k (.notice .started)⟩ :: s.records

theorem begins_enqueued (s : Schedule) (k : Nat) (p : Plan) (stages : List Stage) :
    Begins s ((stages.foldl (fun s stage => s.enqueue ⟨k, stage⟩) (s.setPhase k (.running {}))).note k
      p.name (.notice .started)) k p := by
  obtain ⟨queue, hQueue⟩ := foldl_queue_eq (fun s stage => enqueue_eq s ⟨k, stage⟩) stages
    (s.setPhase k (.running {}))
  rw [hQueue]
  exact ⟨rfl, rfl, rfl, rfl, rfl, rfl⟩

theorem Begins.view_self (h : Begins s after i p) (hWorker : s.workers[i]? = some ⟨p, .ready⟩) :
    after.view? i = (s.view? i).map View.start := by
  simp [view?, hWorker, h.workers, setPhase_self hWorker, h.now, h.visits, seenOf, h.records,
    Sight.noteOf?, View.start]

theorem Begins.view_other (h : Begins s after j p) (hne : j ≠ i) : after.view? i = s.view? i := by
  simp [view?, h.workers, setPhase_other hne, h.now, h.visits, seenOf, h.records, Sight.noteOf?, hne]

theorem seenOf_see {sight : Sight} (hSight : ∀ i, sight.noteOf? i = none) (s : Schedule) (i : Nat) :
    (s.see sight).seenOf i = s.seenOf i := by
  simp [seenOf, see, hSight]

theorem view_see {sight : Sight} (hSight : ∀ i, sight.noteOf? i = none) (s : Schedule) (i : Nat) :
    (s.see sight).view? i = s.view? i := by
  rw [view?, seenOf_see hSight]
  rfl

theorem view_start (s : Schedule) (i : Nat) : s.start.view? i = (s.view? i).map View.start := by
  unfold start
  rw [view_see fun _ => rfl]
  refine view_foldl_range View.start ?_ ?_ s
  · intro s
    simp only
    split
    · rename_i p hWorker
      exact (begins_enqueued s i p _).view_self hWorker
    · rename_i hIdle
      cases hView : s.view? i with
      | none => rfl
      | some v =>
          obtain ⟨⟨p, phase⟩, hWorker, rfl⟩ := Option.map_eq_some_iff.1 hView
          cases phase with
          | ready => exact absurd hWorker (hIdle p)
          | running g => rfl
          | ended => rfl
  · intro s k hk
    simp only
    split
    · rename_i p hWorker
      exact (begins_enqueued s k p _).view_other hk
    · rfl

theorem plans_start (s : Schedule) : s.start.plans = s.plans := by
  refine plans_foldl (fun s k => ?_) _ s
  simp only
  split
  · rename_i p hWorker
    rw [plans, (begins_enqueued s k p _).workers, plans_setPhase]
  · rfl

theorem view_ofPlans (plans : List Plan) (i : Nat) :
    (ofPlans plans).view? i = plans[i]?.map fun p => ⟨0, { plan := p }, 0, []⟩ := by
  simp [ofPlans, view?, seenOf, countOf]
  rfl

theorem eq_ready_of_ofPlans {plans : List Plan} {own : Worker} (h : (ofPlans plans).workers[i]? = some own) :
    ∃ p, own = { plan := p } := by
  simp only [ofPlans, List.getElem?_map] at h
  obtain ⟨p, _, rfl⟩ := Option.map_eq_some_iff.1 h
  exact ⟨p, rfl⟩

theorem plans_ofPlans (plans : List Plan) : (ofPlans plans).plans = plans := by
  simp [ofPlans, Schedule.plans, Function.comp_def]

end Schedule

end Lookout.Pipeline
