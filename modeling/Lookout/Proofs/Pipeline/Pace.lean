import Lookout.Proofs.Pipeline.Rhythm
/-!
Groups that keep pace: those whose fetches take no longer than an interval and whose messages are sent
in no time. Whenever such a group comes to rest its queues are empty, so that the trigger never waits
to hand on a cycle, and every cycle starts and is fetched a whole number of intervals after the first.
-/
namespace Lookout.Pipeline

/-- Whether fetches take no longer than an interval, and sending takes no time. -/
structure Setting.KeepsPace (s : Setting) : Prop where
  visit : ∀ visit, s.mayVisit visit → ∃ delay ≤ s.plan.interval, visit.delay = some delay
  delivery : ∀ d, s.mayDeliver d → d.delay = some 0

/-- Whether a time is that at which a cycle starts when all before it started on time: an interval
later, as many intervals have gone by as there are cycles up to this one. -/
def Plan.OnBeat (p : Plan) (started n time : Nat) : Prop :=
  time + p.interval = started + n * p.interval

namespace Plan.OnBeat
variable {p : Plan} {started n m time time' : Nat}

theorem first (p : Plan) (started : Nat) : p.OnBeat started 1 started := by simp [OnBeat]

theorem next (h : p.OnBeat started n time) : p.OnBeat started (n + 1) (time + p.interval) := by
  unfold OnBeat at h ⊢
  rw [h, Nat.succ_mul, Nat.add_assoc]

theorem unique (h : p.OnBeat started n time) (h' : p.OnBeat started n time') : time = time' :=
  Nat.add_right_cancel (h.trans h'.symm)

/-- The interval of a cycle is over before a later one starts. -/
theorem le_of_lt (hLess : m < n) (h : p.OnBeat started n time) : started + m * p.interval ≤ time := by
  have hMore : (m + 1) * p.interval ≤ n * p.interval := Nat.mul_le_mul_right _ hLess
  rw [Nat.succ_mul] at hMore
  unfold OnBeat at h
  omega

end Plan.OnBeat

/-! ### Sending takes no time -/

/-- Calls of senders that take no time have ended once all senders are called. -/
theorem any_isWaiting_of_startCalls {now called : Nat} {ds : List Delivery} {calls : List Call}
    (hDelay : ∀ d ∈ ds, d.delay = some 0) (h : startCalls now ds = (called, .ok calls)) :
    calls.any Call.isWaiting = false := by
  have hPolled := (polled_of_startCalls h).2
  clear h
  induction hPolled with
  | nil => rfl
  | @cons d call ds calls hFirst _ ih =>
      have hDue : (Call.start now d).isDue now = true := by
        simp [Call.start, Call.isDue, hDelay d List.mem_cons_self]
      have hEnded : call.isWaiting = false := by
        generalize Call.start now d = started at hFirst hDue
        cases hFirst with
        | waits hWaits => rw [hDue] at hWaits; cases hWaits
        | succeeds _ => rfl
        | fails _ => rfl
      rw [List.any_cons, hEnded, ih fun d hd => hDelay d (List.mem_cons_of_mem _ hd)]
      rfl

/-- A call that is due has not ended. -/
theorem any_isWaiting_of_isDue {now : Nat} {calls : List Call} (h : calls.any (Call.isDue now) = true) :
    calls.any Call.isWaiting = true := by
  obtain ⟨call, hCall, hDue⟩ := List.any_eq_true.1 h
  refine List.any_eq_true.2 ⟨call, hCall, ?_⟩
  cases call with
  | waiting due ending => rfl
  | succeeded => cases hDue
  | failed chain => cases hDue

namespace Group
variable {s : Setting} {started now : Nat} {stage : Stage} {visit : Http.Visit}
  {deliveries : String → List Delivery} {g after : Group} {notes : List Note}

/-- What a group is about while it keeps pace: the cycles that are handed on or wait to be fetched
have only just started, the call of the crawler ends before the next cycle starts, and no call of a
sender is in progress. -/
structure Steady (s : Setting) (started now : Nat) (g : Group) : Prop where
  offering : ∀ n, g.trigger = .offering n → s.plan.OnBeat started n now
  queued : ∀ n ∈ g.toFetch, s.plan.OnBeat started n now
  fetching : ∀ n due cancellable ending, g.fetch = .fetching n due cancellable ending →
    ∃ time ≤ started + n * s.plan.interval, due = some time
  sending : ∀ n calls, g.dispatch = .sending n calls → calls.any Call.isWaiting = false

theorem Steady.turn (hPace : s.KeepsPace) (hVisit : s.mayVisit visit) (hDeliveries : s.Allows deliveries)
    (hFiring : ∀ n, g.trigger = .firing n → s.plan.OnBeat started n now) (hg : g.Steady s started now)
    (h : g.turn s.plan stage now visit deliveries = some (after, notes)) :
    after.Steady s started now := by
  cases stage with
  | trigger =>
      cases triggerTurn_cases h with
      | fire hState =>
          refine { hg with offering := fun n hOffering => ?_ }
          cases hOffering
          exact hFiring _ hState
      | accept hState _ _ _ =>
          refine { hg with
            offering := fun _ hOffering => (nomatch hOffering)
            queued := fun n hn => ?_ }
          rcases List.mem_append.1 hn with hOld | hNew
          · exact hg.queued n hOld
          · exact List.mem_singleton.1 hNew ▸ hg.offering _ hState
      | _ => exact { hg with offering := fun _ hOffering => nomatch hOffering }
  | fetch =>
      cases fetchTurn_cases h with
      | @call seq rest _ hQueue =>
          refine { hg with
            queued := fun n hn => hg.queued n (hQueue ▸ List.mem_cons_of_mem _ hn)
            fetching := fun n due cancellable ending hFetching => ?_ }
          cases hFetching
          obtain ⟨delay, hLe, hDelay⟩ := hPace.visit visit hVisit
          have hBeat : now + s.plan.interval = started + seq * s.plan.interval :=
            hg.queued seq (hQueue ▸ List.mem_cons_self)
          exact ⟨now + delay, by omega, by rw [hDelay]; rfl⟩
      | _ => exact { hg with fetching := fun _ _ _ _ hFetching => nomatch hFetching }
  | evaluate => cases evaluateTurn_cases h <;> exact { hg with }
  | dispatch =>
      cases dispatchTurn_cases h with
      | send _ _ _ hCalls =>
          refine { hg with sending := fun n calls hSending => ?_ }
          cases hSending
          exact any_isWaiting_of_startCalls (fun d hd => hPace.delivery d ((hDeliveries _).2 d hd)) hCalls
      | poll hState hDue _ =>
          have hEnded := hg.sending _ _ hState
          rw [any_isWaiting_of_isDue hDue] at hEnded
          cases hEnded
      | empty hState _ _ => exact { hg with }
      | crash hState _ _ _ => exact { hg with }
      | _ => exact { hg with sending := fun _ _ hSending => nomatch hSending }

end Group

namespace Course
variable {s : Setting} {started : Nat} {c : Course} {n time : Nat}

/-! ### At rest nothing waits -/

/-- A group that keeps pace hands on every page at once. -/
theorem OnClock.toEvaluate_eq_nil (h : OnClock s started c) (hc : c.group.Steady s started c.now)
    (hRest : c.group.AtRest c.now) : c.group.toEvaluate = [] := by
  have hDispatch : c.group.dispatch = .idle ∧ c.group.toDispatch = [] := by
    have hStill := hRest .dispatch
    cases hState : c.group.dispatch with
    | idle => simp_all [Group.canTurn]
    | sending seq calls => simp [Group.canTurn, hState, hc.sending seq calls hState] at hStill
    | stopped =>
        have hRuns := h.hasStopped_eq_false .dispatch
        simp [Group.hasStopped, hState, DispatchState.isStopped] at hRuns
  have hStill := hRest .evaluate
  cases hState : c.group.evaluate with
  | idle => simp_all [Group.canTurn]
  | evaluating f => simp [Group.canTurn, hState] at hStill
  | offering m => simp [Group.canTurn, hState, hDispatch, depth] at hStill
  | stopped =>
      have hRuns := h.hasStopped_eq_false .evaluate
      simp [Group.hasStopped, hState, EvaluateState.isStopped] at hRuns

/-- A group that keeps pace fetches every cycle at once. -/
theorem OnClock.toFetch_eq_nil (h : OnClock s started c) (hc : c.group.Steady s started c.now)
    (hRest : c.group.AtRest c.now) : c.group.toFetch = [] := by
  have hEvaluate := h.toEvaluate_eq_nil hc hRest
  have hStill := hRest .fetch
  cases hState : c.group.fetch with
  | idle => simp_all [Group.canTurn]
  | fetching seq due cancellable ending =>
      -- The call would have ended before the cycle that waits has started.
      refine List.eq_nil_iff_forall_not_mem.2 fun n hn => ?_
      obtain ⟨time, hTime, rfl⟩ := hc.fetching seq due cancellable ending hState
      have hHeld : seq ∈ c.cyclesAt .fetchStage := by simp [cyclesAt, hState, FetchState.held]
      have hWaits : n ∈ c.cyclesAt .fetchQueue := hn
      have hLess : seq < n := h.inOrder.lt_of_distance (by decide) (by decide) (by decide) hHeld hWaits
      have hOver := (hc.queued n hn).le_of_lt hLess
      simp only [Group.canTurn, hState, Bool.or_eq_false_iff, Option.any_some, decide_eq_false_iff_not]
        at hStill
      omega
  | offering f => simp [Group.canTurn, hState, hEvaluate, depth] at hStill
  | stopped =>
      have hRuns := h.hasStopped_eq_false .fetch
      simp [Group.hasStopped, hState, FetchState.isStopped] at hRuns

/-- A group that keeps pace accepts every cycle at once. -/
theorem OnClock.not_offering (h : OnClock s started c) (hc : c.group.Steady s started c.now)
    (hRest : c.group.AtRest c.now) : c.group.trigger ≠ .offering n := by
  intro hState
  have hStill := hRest .trigger
  simp [Group.canTurn, hState, h.toFetch_eq_nil hc hRest, depth] at hStill

/-! ### No cycle is late -/

/-- A group that keeps pace, and has accepted all cycles when they start. -/
structure InPace (s : Setting) (started : Nat) (c : Course) : Prop where
  group : c.group.Steady s started c.now
  accepted : ∀ n time, (n, time) ∈ c.acceptedAt → s.plan.OnBeat started n time
  visited : ∀ n time, (n, time) ∈ c.visitedAt → s.plan.OnBeat started n time

theorem Due.onBeat (hc : c.InPace s started) (h : Due s started c n time) :
    s.plan.OnBeat started n time := by
  cases h with
  | first => exact .first _ _
  | next hAccepted => exact (hc.accepted _ _ hAccepted).next

theorem mem_visitedAt_take {t : Turn} : (n, time) ∈ (c.take t).visitedAt ↔
    (n, time) ∈ c.visitedAt ∨ n ∈ t.visited ∧ time = t.time := mem_timesOf_take

/-- The cycles that the crawler is called for in a turn waited in the fetch queue. -/
theorem mem_toFetch_of_visited {p : Plan} {stage : Stage} {now : Nat} {visit : Http.Visit}
    {deliveries : String → List Delivery} {g after : Group} {notes : List Note}
    (h : g.turn p stage now visit deliveries = some (after, notes))
    (hn : n ∈ (Turn.mk stage now g after notes).visited) : n ∈ g.toFetch := by
  have hMoved : n ∈ g.toFetch ++ (Turn.mk stage now g after notes).accepted :=
    Group.visited_of_turn h ▸ List.mem_append_left _ hn
  have hOther (hQueue : after.toFetch.length ≤ g.toFetch.length) : n ∈ g.toFetch := by
    rwa [Turn.accepted_eq_nil hQueue, List.append_nil] at hMoved
  cases stage with
  | trigger => cases Group.triggerTurn_cases h <;> simp [Turn.visited, Note.visited?] at hn
  | fetch =>
      cases Group.fetchTurn_cases h with
      | call _ hQueue => exact hOther (by simp [hQueue])
      | _ => exact hOther le_rfl
  | evaluate => cases Group.evaluateTurn_cases h <;> exact hOther le_rfl
  | dispatch => cases Group.dispatchTurn_cases h <;> exact hOther le_rfl

theorem OnClock.inPace (hPace : s.KeepsPace) (h : OnClock s started c) : c.InPace s started := by
  induction h with
  | refl =>
      refine ⟨⟨?_, ?_, ?_, ?_⟩, ?_, ?_⟩ <;> simp [startedAt, acceptedAt, visitedAt, timesOf]
  | @tail c d hPrior hTick ih =>
      cases hTick with
      | turn hVisit hDeliveries hTurn =>
          refine ⟨?_, ?_, ?_⟩
          · refine ih.group.turn hPace hVisit hDeliveries (fun n hFiring => ?_) hTurn
            exact ((OnClock.punctual hPrior).firing n hFiring).onBeat ih
          · intro n time hAccepted
            rcases mem_acceptedAt_take.1 hAccepted with hOld | ⟨hNew, rfl⟩
            · exact ih.accepted n time hOld
            · cases OnClock.beats hPrior hTurn with
              | accepts m hState _ _ hAccepted =>
                  rw [hAccepted, List.mem_singleton] at hNew
                  exact hNew ▸ ih.group.offering m hState
              | _ => simp_all
          · intro n time hVisited
            rcases mem_visitedAt_take.1 hVisited with hOld | ⟨hNew, rfl⟩
            · exact ih.visited n time hOld
            · exact ih.group.queued n (mem_toFetch_of_visited hTurn hNew)
      | pass hRest =>
          refine ⟨⟨?_, ?_, ih.group.fetching, ih.group.sending⟩, ih.accepted, ih.visited⟩
          · intro n hOffering
            exact absurd hOffering (OnClock.not_offering (c := c) hPrior ih.group hRest)
          · intro n hn
            rw [show c.group.toFetch = [] from OnClock.toFetch_eq_nil hPrior ih.group hRest] at hn
            cases hn

/-- An instant is over when a later one is. -/
theorem Over.of_le {time' : Nat} (h : c.Over time) (hLe : time' ≤ time) : c.Over time' := by
  rcases h with hLater | ⟨rfl, hRest⟩
  · exact .inl (hLe.trans_lt hLater)
  · exact hLe.lt_or_eq.imp id fun hNow => ⟨hNow, hRest⟩

/-- A group that keeps pace has accepted each cycle as soon as it was started. -/
theorem OnClock.acceptedAt_of_firedAt (hPace : s.KeepsPace) (h : OnClock s started c)
    (hFired : (n, time) ∈ c.firedAt) (hOver : c.Over time) : (n, time) ∈ c.acceptedAt := by
  have hc := h.inPace hPace
  have hBeat : s.plan.OnBeat started n time := (h.punctual.fired n time hFired).onBeat hc
  have hMem : n ∈ c.accepted ++ c.group.trigger.held := h.fired_eq ▸ mem_of_mem_timesOf hFired
  rcases List.mem_append.1 hMem with hAccepted | hHeld
  · obtain ⟨time', hTime⟩ := mem_timesOf_of_mem hAccepted
    exact (hc.accepted n time' hTime).unique hBeat ▸ hTime
  · cases hState : c.group.trigger with
    | offering m =>
        rw [hState, TriggerState.held_offering, List.mem_singleton] at hHeld
        subst hHeld
        have hNow := (hc.group.offering n hState).unique hBeat
        rcases hOver with hLater | ⟨_, hRest⟩
        · omega
        · exact absurd hState (h.not_offering hc.group hRest)
    | _ => simp [hState] at hHeld

/-- A group that keeps pace has started each cycle on time. -/
theorem OnClock.firedAt_of_over (hPace : s.KeepsPace) (h : OnClock s started c)
    (hOver : c.Over (started + n * s.plan.interval)) :
    (n + 1, started + n * s.plan.interval) ∈ c.firedAt := by
  induction n with
  | zero =>
      rw [Nat.zero_mul, Nat.add_zero] at hOver ⊢
      exact h.fired_of_due .first hOver
  | succ n ih =>
      have hTime : started + (n + 1) * s.plan.interval =
          started + n * s.plan.interval + s.plan.interval := by
        rw [Nat.succ_mul, Nat.add_assoc]
      have hBefore : c.Over (started + n * s.plan.interval) :=
        hOver.of_le (by rw [hTime]; exact Nat.le_add_right _ _)
      have hAccepted := h.acceptedAt_of_firedAt hPace (ih hBefore) hBefore
      rw [hTime] at hOver ⊢
      exact h.fired_of_due (.next hAccepted) hOver

/-- A group that keeps pace has called the crawler for each cycle as soon as it was started. -/
theorem OnClock.visitedAt_of_firedAt (hPace : s.KeepsPace) (h : OnClock s started c)
    (hFired : (n, time) ∈ c.firedAt) (hOver : c.Over time) : (n, time) ∈ c.visitedAt := by
  have hc := h.inPace hPace
  have hBeat : s.plan.OnBeat started n time := (h.punctual.fired n time hFired).onBeat hc
  have hMem : n ∈ c.visited ++ c.group.toFetch :=
    h.inOrder.visited ▸ mem_of_mem_timesOf (h.acceptedAt_of_firedAt hPace hFired hOver)
  rcases List.mem_append.1 hMem with hVisited | hQueued
  · rw [visited_eq, List.filterMap_flatMap] at hVisited
    obtain ⟨time', hTime⟩ := mem_timesOf_of_mem hVisited
    exact (hc.visited n time' hTime).unique hBeat ▸ hTime
  · have hNow := (hc.group.queued n hQueued).unique hBeat
    rcases hOver with hLater | ⟨_, hRest⟩
    · omega
    · rw [h.toFetch_eq_nil hc.group hRest] at hQueued
      cases hQueued

/-! ### The rhythm of a crawl -/

theorem interval_of_ofCrawl {crawl : Config.Crawl} {p : Plan} {interval : Nat}
    (hPlan : Plan.ofCrawl crawl = .ok p) (hWhole : crawl.interval.nanoseconds = interval * 1000000) :
    p.interval = interval := by
  have hInterval : p.interval = wholeMilliseconds crawl.interval := by
    unfold Plan.ofCrawl at hPlan
    split at hPlan
    · cases hPlan
    · split at hPlan
      · cases hPlan
      · cases hPlan
        rfl
  rw [hInterval, wholeMilliseconds, hWhole]
  omega

/-- Of every crawl whose interval is a positive number of whole milliseconds, whatever its fetches and
messages take, until shutdown is called: the cycles are started in order and once each; the first one is
started when the group is, and each later one exactly an interval after the one before it was accepted;
so two consecutive starts are never closer than an interval, and exactly an interval apart when and only
when the earlier cycle was accepted at once; and when the group keeps pace, each cycle is fetched exactly
as many intervals after the start as there are cycles before it. What is to happen at an instant has
happened when the instant is over, and every instant will be. -/
theorem cycles_start_on_time {crawl : Config.Crawl} {interval : Nat}
    (hPlan : Plan.ofCrawl crawl = .ok s.plan)
    (hWhole : crawl.interval.nanoseconds = interval * 1000000) (hPositive : 0 < interval)
    (h : OnClock s started c) :
    c.fired = List.range' 1 c.fired.length ∧
    ((∀ time, (1, time) ∈ c.firedAt → time = started) ∧
      (c.Over started → (1, started) ∈ c.firedAt)) ∧
    (∀ n > 0,
      (∀ next, (n + 1, next) ∈ c.firedAt → ∃ time, (n, time) ∈ c.acceptedAt ∧ next = time + interval) ∧
      ∀ time, (n, time) ∈ c.acceptedAt → c.Over (time + interval) →
        (n + 1, time + interval) ∈ c.firedAt) ∧
    (∀ n time next, (n, time) ∈ c.firedAt → (n + 1, next) ∈ c.firedAt →
      time + interval ≤ next ∧ (next = time + interval ↔ (n, time) ∈ c.acceptedAt)) ∧
    (s.KeepsPace → ∀ n, (∀ time, (n + 1, time) ∈ c.visitedAt → time = started + n * interval) ∧
      (c.Over (started + n * interval) → (n + 1, started + n * interval) ∈ c.visitedAt)) ∧
    ∀ later, ∃ d, Relation.ReflTransGen (Tick s) c d ∧ d.now = c.now + later ∧ d.group.AtRest d.now := by
  have hInterval := interval_of_ofCrawl hPlan hWhole
  have hc := h.punctual
  have hFiredPos {n time : Nat} (hFired : (n, time) ∈ c.firedAt) : 0 < n := by
    cases hc.fired n time hFired with
    | first => exact Nat.one_pos
    | next _ => exact Nat.succ_pos _
  have hNext {n next : Nat} (hn : 0 < n) (hFired : (n + 1, next) ∈ c.firedAt) :
      ∃ time, (n, time) ∈ c.acceptedAt ∧ next = time + interval := by
    cases hc.fired _ next hFired with
    | first => exact absurd hn (lt_irrefl 0)
    | next hAccepted => exact ⟨_, hAccepted, congrArg _ hInterval⟩
  refine ⟨?_, ⟨?_, h.fired_of_due .first⟩, fun n hn => ⟨fun next => hNext hn, ?_⟩, ?_, ?_,
    exists_later (hInterval ▸ hPositive) c⟩
  · exact h.fired_eq_range
  · exact fun time hFired => (hc.fired 1 time hFired).unique h .first
  · intro time hAccepted hOver
    rw [← hInterval] at hOver ⊢
    exact h.fired_of_due (.next hAccepted) hOver
  · intro n time next hFired hAfter
    obtain ⟨accepted, hAccepted, rfl⟩ := hNext (hFiredPos hFired) hAfter
    obtain ⟨fired, hLe, hFired'⟩ := hc.accepted n accepted hAccepted
    have hSame := (hc.fired n fired hFired').unique h (hc.fired n time hFired)
    subst hSame
    refine ⟨Nat.add_le_add_right hLe _, fun hNow => ?_, fun hAtOnce => ?_⟩
    · exact Nat.add_right_cancel hNow ▸ hAccepted
    · rw [h.acceptedAt_unique hAccepted hAtOnce]
  · intro hPace n
    rw [← hInterval]
    refine ⟨fun time hVisited => ?_, fun hOver => ?_⟩
    · have hBeat : time + _ = _ := (h.inPace hPace).visited _ time hVisited
      rw [Nat.succ_mul] at hBeat
      omega
    · exact h.visitedAt_of_firedAt hPace (h.firedAt_of_over hPace hOver) hOver

end Course

namespace Sample

/-- A crawl every two milliseconds. -/
def fruit : Config.Crawl where
  name := "fruit"
  enabled := true
  interval := ⟨2000000, by decide⟩
  target := { method := "GET", url := "http://[::1]/fruit" }
  query := { check := ".", bindings := [("NAME", ".")] }
  message := "found $NAME"

def fruitPlan : Plan := (Plan.ofCrawl fruit).toOption.getD plan

theorem ofCrawl_fruit : Plan.ofCrawl fruit = .ok fruitPlan := by
  have hOk (e : Except PlanError Plan) (h : e.toBool = true) : e = .ok (e.toOption.getD plan) := by
    cases e with
    | ok p => rfl
    | error e => cases h
  unfold fruitPlan
  exact hOk (Plan.ofCrawl fruit) (by decide +kernel)

/-- Fetches take up to two milliseconds, and sending takes no time. -/
def paced : Setting where
  plan := fruitPlan
  senders := 2
  mayVisit visit := ∃ delay ≤ 2, visit.delay = some delay
  mayDeliver d := d.delay = some 0
  exists_visit := ⟨page 2 0x37, 2, le_rfl, rfl⟩
  exists_delivery := ⟨{}, rfl⟩

theorem paced_keepsPace : paced.KeepsPace := by
  refine ⟨fun visit hVisit => ?_, fun d hd => hd⟩
  rwa [show paced.plan.interval = 2 from Course.interval_of_ofCrawl ofCrawl_fruit rfl]

/-- Three cycles of a group that is started at the fifth millisecond. -/
def pacing : Course :=
  (Course.onward fruitPlan (page 2 0x37) fun _ => [{}, {}])^[30] (Course.startedAt 5)

theorem pacing_onClock : Course.OnClock paced 5 pacing :=
  Course.onClock_iterate_onward (s := paced) ⟨2, le_rfl, rfl⟩
    (fun _ => ⟨rfl, fun d hd => by simp_all [paced]⟩) 5 30

end Sample

theorem Course.pacing_on_time :
    Plan.ofCrawl Sample.fruit = .ok Sample.paced.plan ∧
    Sample.fruit.interval.nanoseconds = 2 * 1000000 ∧ OnClock Sample.paced 5 Sample.pacing ∧
    Sample.paced.KeepsPace ∧ Sample.pacing.firedAt = [(1, 5), (2, 7), (3, 9)] ∧ Sample.pacing.Over 9 ∧
    (3, 9) ∈ Sample.pacing.visitedAt := by
  have hWhole : Sample.fruit.interval.nanoseconds = 2 * 1000000 := by decide
  obtain ⟨_, _, _, _, hVisited, _⟩ :=
    cycles_start_on_time Sample.ofCrawl_fruit hWhole (by decide) Sample.pacing_onClock
  have hOver : Sample.pacing.Over 9 := by
    have hLater : 9 < Sample.pacing.now := by decide +kernel
    exact .inl hLater
  have hFired : Sample.pacing.firedAt = [(1, 5), (2, 7), (3, 9)] := by decide +kernel
  exact ⟨Sample.ofCrawl_fruit, hWhole, Sample.pacing_onClock, Sample.paced_keepsPace, hFired, hOver,
    (hVisited Sample.paced_keepsPace 2).2 hOver⟩

end Lookout.Pipeline
