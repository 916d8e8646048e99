import Lookout.Config.Validation
import Lookout.Proofs.Pipeline.Realization
/-!
A group and its neighbours. All that a group looks at is its own crawl: its calls of the crawler, what
the senders do with its messages, and the time. What becomes of the other groups, whether they fail,
panic, wait for a sender or never come back, cannot be seen of it.
-/
namespace Lookout.Pipeline

/-- Whether the crawler and the senders go alike for a crawl in two worlds. -/
structure World.AgreeOn (crawl : String) (w w' : World) : Prop where
  visit : w.visit crawl = w'.visit crawl
  senders : w.senders = w'.senders
  delivery : ∀ sender call message, message.crawl = crawl →
    w.delivery sender call message = w'.delivery sender call message

theorem World.AgreeOn.symm {crawl : String} {w w' : World} (h : w.AgreeOn crawl w') :
    w'.AgreeOn crawl w :=
  ⟨h.visit.symm, h.senders.symm, fun sender call message hCrawl =>
    (h.delivery sender call message hCrawl).symm⟩

namespace View
variable {w w' : World} {clock : Clock} {v v' : View} {stage : Stage} {p : Plan}

theorem plan_turn (h : v.turn w stage = some v') : v'.worker.plan = v.worker.plan := by
  obtain ⟨now, ⟨p, phase⟩, calls, seen⟩ := v
  cases phase with
  | running g =>
      obtain ⟨_, _, rfl⟩ := Option.map_eq_some_iff.1 h
      rfl
  | ready => cases h
  | ended => cases h

theorem plan_start (v : View) : v.start.worker.plan = v.worker.plan := by
  obtain ⟨now, ⟨p, phase⟩, calls, seen⟩ := v
  cases phase <;> rfl

/-- A worker looks at nothing in the world but what concerns its crawl. -/
theorem turn_congr (h : World.AgreeOn v.worker.plan.name w w') : v.turn w stage = v.turn w' stage := by
  obtain ⟨now, ⟨p, phase⟩, calls, seen⟩ := v
  have hDeliveries : w.deliveries p.name = w'.deliveries p.name := by
    funext seq text
    unfold World.deliveries
    rw [h.senders]
    exact List.map_congr_left fun sender _ => h.delivery sender 0 _ rfl
  have hVisit : w.visit p.name = w'.visit p.name := h.visit
  cases phase <;> simp only [turn, hVisit, hDeliveries]

theorem follows_of_agreeOn (h : World.AgreeOn p.name w w') :
    Motion.Follows (motion w clock) (motion w' clock) (fun v v' => v' = v ∧ v.worker.plan = p) where
  start v v' hv := ⟨congrArg start hv.1, (plan_start v).trans hv.2⟩
  now v v' hv := congrArg View.now hv.1.symm
  step := by
    rintro v _ after ⟨rfl, rfl⟩ hStep
    cases hStep with
    | turn hTurn =>
        have hSame := (turn_congr h).symm.trans hTurn
        exact ⟨after, .single (.turn hSame), rfl, plan_turn hTurn⟩
    | pass hRest => exact ⟨_, .single (.pass hRest), rfl, rfl⟩

theorem runs_of_agreeOn (h : World.AgreeOn p.name w w') {commands : List Schedule.Command}
    (hRuns : (motion w clock).Runs commands (.ofPlan p) v) :
    (motion w' clock).Runs commands (.ofPlan p) v := by
  obtain ⟨_, hSame, rfl, _⟩ := (follows_of_agreeOn h).runs ⟨rfl, rfl⟩ hRuns
  exact hSame

end View

/-- Settings without a flaw have each group wait sometimes. -/
theorem Plan.interval_pos {c : Config.Crawl} {p : Plan} (hValid : c.validate = .ok ())
    (hPlan : Plan.ofCrawl c = .ok p) : 0 < p.interval := by
  have hInterval : c.interval.nanoseconds ≠ 0 := by
    intro hZero
    unfold Config.Crawl.validate at hValid
    split_ifs at hValid
  unfold Plan.ofCrawl at hPlan
  split at hPlan
  · cases hPlan
  · split at hPlan
    · cases hPlan
    · cases hPlan
      simp only [wholeMilliseconds]
      omega

namespace Sample

/-- Another crawl of the same page. -/
def neighbour : Plan := { plan with name := "vegetables" }

/-- The pages of the first crawl bring matches, and its messages take their time. Calls of the crawler
for other crawls go as given, and the sender never comes back from their messages. -/
def street (visit : Http.Visit) : World where
  visit crawl _ := if crawl = plan.name then page 5 0x37 else visit
  senders := 1
  delivery _ _ message := { delay := if message.crawl = plan.name then some 3 else none }

theorem steady_street (visit : Http.Visit) : (street visit).Steady := fun _ _ _ _ => rfl

theorem agreeOn_street (visit visit' : Http.Visit) : (street visit).AgreeOn plan.name (street visit') where
  visit := by simp [street]
  senders := rfl
  delivery _ _ _ _ := rfl

/-- A match is on its way to the sender when the second call of the crawler is made. -/
def story : List (Nat × Note) :=
  [(0, .notice .started), (0, .fetch 1), (5, .event 1 (.fetched 1)), (5, .event 1 .matched),
    (5, .event 1 (.sending 1 1)), (5, .send 1 0 "found 7"), (10, .fetch 2)]

end Sample

end Lookout.Pipeline
