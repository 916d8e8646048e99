import Lookout.Proofs.Pipeline.Rest
import Mathlib.Logic.Relation
import Mathlib.Tactic.ByContra
/-!
Worker groups side by side. Whichever stage of whichever group can take a turn may take it, so that
the groups interleave in every way there is; time passes between their turns. What can be seen of a
group then is what can be seen of it when it is alone: from a run of all groups its own turns can be
picked, and a run of it alone can be filled up with turns of the others.
-/
namespace Lookout.Pipeline

/-! ### Runs of commands -/

/-- Something that can be started and that goes on by steps in time. -/
structure Motion (σ : Type) where
  start : σ → σ
  now : σ → Nat
  step : σ → σ → Prop

namespace Motion
variable {σ τ : Type}

/-- How a command can be carried out. To advance is to go on in any way until the time has come. That
groups end is not looked at. -/
inductive Carries (m : Motion σ) : Schedule.Command → σ → σ → Prop where
  | run {s : σ} : Carries m .run s (m.start s)
  | advance {ms : Nat} {s after : σ} (hSteps : Relation.ReflTransGen m.step s after)
      (hTime : m.now after = m.now s + ms) : Carries m (.advance ms) s after

/-- How commands can be carried out in turn. -/
inductive Runs (m : Motion σ) : List Schedule.Command → σ → σ → Prop where
  | nil {s : σ} : Runs m [] s s
  | cons {command : Schedule.Command} {commands : List Schedule.Command} {s mid after : σ}
      (hFirst : Carries m command s mid) (hRest : Runs m commands mid after) :
      Runs m (command :: commands) s after

/-- Whether one motion can go on as another one does, in states that are related. -/
structure Follows (m : Motion σ) (m' : Motion τ) (R : σ → τ → Prop) : Prop where
  start : ∀ s t, R s t → R (m.start s) (m'.start t)
  now : ∀ s t, R s t → m.now s = m'.now t
  step : ∀ s t s', R s t → m.step s s' → ∃ t', Relation.ReflTransGen m'.step t t' ∧ R s' t'

variable {m : Motion σ} {m' : Motion τ} {R : σ → τ → Prop}

theorem Follows.steps (h : Follows m m' R) {s s' : σ} {t : τ} (hR : R s t)
    (hSteps : Relation.ReflTransGen m.step s s') :
    ∃ t', Relation.ReflTransGen m'.step t t' ∧ R s' t' := by
  induction hSteps with
  | refl => exact ⟨t, .refl, hR⟩
  | tail _ hStep ih =>
      obtain ⟨mid, hMid, hMidR⟩ := ih
      obtain ⟨t', hLast, hLastR⟩ := h.step _ _ _ hMidR hStep
      exact ⟨t', hMid.trans hLast, hLastR⟩

/-- What can be carried out in one motion can be carried out in one that follows it. -/
theorem Follows.runs (h : Follows m m' R) {commands : List Schedule.Command} {s s' : σ} {t : τ}
    (hR : R s t) (hRuns : m.Runs commands s s') : ∃ t', m'.Runs commands t t' ∧ R s' t' := by
  induction hRuns generalizing t with
  | nil => exact ⟨t, .nil, hR⟩
  | cons hFirst _ ih =>
      cases hFirst with
      | run =>
          obtain ⟨t', hRest, hLast⟩ := ih (h.start _ _ hR)
          exact ⟨t', .cons .run hRest, hLast⟩
      | advance hSteps hTime =>
          obtain ⟨mid, hMid, hMidR⟩ := h.steps hR hSteps
          obtain ⟨t', hRest, hLast⟩ := ih hMidR
          refine ⟨t', .cons (.advance hMid ?_) hRest, hLast⟩
          rw [← h.now _ _ hMidR, ← h.now _ _ hR, hTime]

end Motion

/-! ### Turns in any order -/

/-- When time may pass: at any moment, or only when no stage of any group can do anything. -/
inductive Clock where
  | free
  | patient
  deriving DecidableEq, Repr

namespace Schedule

/-- A stage of a worker takes a turn, or time passes. -/
inductive Step (w : World) (clock : Clock) : Schedule → Schedule → Prop where
  | turn {s after : Schedule} {t : Task} (hTurn : s.takeTurn w t = some after) : Step w clock s after
  | pass {s : Schedule} (hRest : clock = .patient → s.AtRest) :
      Step w clock s { s with now := s.now + 1 }

/-- All workers together, with turns in any order. -/
def motion (w : World) (clock : Clock) : Motion Schedule where
  start := Schedule.start
  now := Schedule.now
  step := Step w clock

/-- Whether something can be seen of a worker when the commands are carried out from the beginning. -/
def Possible (w : World) (clock : Clock) (plans : List Plan) (commands : List Command) (worker : Nat)
    (seen : List (Nat × Note)) : Prop :=
  ∃ s, (motion w clock).Runs commands (ofPlans plans) s ∧ s.seenOf worker = seen

end Schedule

namespace View

/-- Whether no stage of the worker can do anything. -/
def AtRest (v : View) : Prop := v.worker.AtRest v.now

/-- A stage of the worker takes a turn, or time passes. -/
inductive Step (w : World) (clock : Clock) : View → View → Prop where
  | turn {v after : View} {stage : Stage} (hTurn : v.turn w stage = some after) : Step w clock v after
  | pass {v : View} (hRest : clock = .patient → v.AtRest) : Step w clock v { v with now := v.now + 1 }

/-- One worker by itself, with turns in any order. -/
def motion (w : World) (clock : Clock) : Motion View where
  start := View.start
  now := View.now
  step := Step w clock

/-- A worker at the beginning. -/
def ofPlan (p : Plan) : View := ⟨0, { plan := p }, 0, []⟩

end View

namespace Schedule
variable {w : World} {clock : Clock} {s after : Schedule} {i : Nat} {p : Plan} {v : View}

/-! ### From all groups to one -/

theorem Step.of_patient (h : Step w .patient s after) : Step w clock s after := by
  cases h with
  | turn hTurn => exact .turn hTurn
  | pass hRest => exact .pass fun _ => hRest rfl

theorem now_of_view (hView : s.view? i = some v) : v.now = s.now := by
  obtain ⟨_, _, rfl⟩ := Option.map_eq_some_iff.1 hView
  rfl

theorem seen_of_view (hView : s.view? i = some v) : v.seen = s.seenOf i := by
  obtain ⟨_, _, rfl⟩ := Option.map_eq_some_iff.1 hView
  rfl

theorem view_pass (hView : s.view? i = some v) :
    ({ s with now := s.now + 1 } : Schedule).view? i = some { v with now := v.now + 1 } := by
  obtain ⟨own, hOwn, rfl⟩ := Option.map_eq_some_iff.1 hView
  simp only [view?, hOwn, Option.map_some]
  rfl

theorem atRest_iff : s.AtRest ↔ ∀ j v, s.view? j = some v → v.AtRest := by
  constructor
  · intro h j v hView
    obtain ⟨own, hOwn, rfl⟩ := Option.map_eq_some_iff.1 hView
    exact h own (List.mem_of_getElem? hOwn)
  · intro h own hOwn
    obtain ⟨j, hj⟩ := List.mem_iff_getElem?.1 hOwn
    exact h j _ (by rw [view?, hj, Option.map_some])

/-- Whether a view is that of a worker, where the crawls of all workers have different names. -/
structure Shows (plans : List Plan) (i : Nat) (s : Schedule) (v : View) : Prop where
  view : s.view? i = some v
  plans : s.plans = plans

/-- The turns of one worker can be picked from those of all. -/
theorem follows_view (hw : w.Steady) {plans : List Plan} (hNames : (plans.map Plan.name).Nodup) :
    Motion.Follows (motion w clock) (View.motion w clock) (Shows plans i) where
  start s v h := ⟨by rw [motion, view_start, h.view]; rfl, (plans_start s).trans h.plans⟩
  now s v h := (now_of_view h.view).symm
  step := by
    intro s v s' h hStep
    cases hStep with
    | @turn _ t hTurn =>
        have hPlans := (plans_takeTurn hTurn).trans h.plans
        by_cases hOwn : t.worker = i
        · subst hOwn
          obtain ⟨v', hTurn', hView⟩ := turn_view hw h.view hTurn
          exact ⟨v', .single (.turn hTurn'), hView, hPlans⟩
        · have hSame := view_takeTurn_other (h.plans ▸ hNames) hOwn hTurn
          exact ⟨v, .refl, hSame.trans h.view, hPlans⟩
    | pass hRest =>
        refine ⟨_, .single (.pass fun hPatient => ?_), view_pass h.view, h.plans⟩
        exact atRest_iff.1 (hRest hPatient) i v h.view

/-! ### From one group to all -/

/-- When a worker is at rest and not all are, another one can take a turn. -/
theorem exists_turn_of_other (w : World) (hView : s.view? i = some v) (hRest : v.AtRest)
    (hBusy : ¬ s.AtRest) : ∃ j stage after, j ≠ i ∧ s.takeTurn w ⟨j, stage⟩ = some after := by
  obtain ⟨own, j, stage, after, hWorker, hAwake, hTaken⟩ := exists_turn_of_not_atRest w hBusy
  refine ⟨j, stage, after, fun hEq => hAwake ?_, hTaken⟩
  subst hEq
  obtain rfl : v = ⟨s.now, own, _, _⟩ := by simpa [view?, hWorker] using hView.symm
  exact hRest

/-- When a worker is at rest, all can come to rest by turns of the others. -/
theorem exists_rest (w : World) (clock : Clock) {bound : Nat} (hBound : s.unrest ≤ bound)
    (hNames : (s.plans.map Plan.name).Nodup) (hView : s.view? i = some v) (hRest : v.AtRest)
    (hInterval : ∀ j q, j ≠ i → s.plans[j]? = some q → 0 < q.interval) :
    ∃ after, Relation.ReflTransGen (Step w clock) s after ∧ after.plans = s.plans ∧ after.AtRest ∧
      after.view? i = some v := by
  induction bound generalizing s with
  | zero =>
      refine ⟨s, .refl, rfl, ?_, hView⟩
      by_contra hBusy
      obtain ⟨j, stage, after, hne, hTaken⟩ := exists_turn_of_other w hView hRest hBusy
      have hLess := unrest_takeTurn (hInterval j · hne) hTaken
      omega
  | succ bound ih =>
      by_cases hAll : s.AtRest
      · exact ⟨s, .refl, rfl, hAll, hView⟩
      · obtain ⟨j, stage, mid, hne, hTaken⟩ := exists_turn_of_other w hView hRest hAll
        have hLess := unrest_takeTurn (hInterval j · hne) hTaken
        have hPlans := plans_takeTurn hTaken
        have hSame := (view_takeTurn_other hNames hne hTaken).trans hView
        rw [← hPlans] at hNames hInterval
        obtain ⟨after, hSteps, hAfter, hResting, hKept⟩ := ih (by omega) hNames hSame hInterval
        exact ⟨after, .head (.turn hTaken) hSteps, hAfter.trans hPlans, hResting, hKept⟩

/-- The turns of one worker can be filled up with turns of the others. -/
theorem view_follows (hw : w.Steady) {plans : List Plan} (hNames : (plans.map Plan.name).Nodup)
    (hInterval : clock = .patient → ∀ j q, j ≠ i → plans[j]? = some q → 0 < q.interval) :
    Motion.Follows (View.motion w clock) (motion w clock) (fun v s => Shows plans i s v) where
  start v s h := ⟨by rw [motion, view_start, h.view]; rfl, (plans_start s).trans h.plans⟩
  now v s h := now_of_view h.view
  step := by
    intro v s v' h hStep
    cases hStep with
    | turn hTurn =>
        obtain ⟨after, hTaken, hView⟩ := exists_takeTurn hw h.view hTurn
        exact ⟨after, .single (.turn hTaken), hView, (plans_takeTurn hTaken).trans h.plans⟩
    | pass hRest =>
        cases clock with
        | free => exact ⟨_, .single (.pass fun hPatient => by cases hPatient), view_pass h.view, h.plans⟩
        | patient =>
            -- Time waits for the other groups as well.
            have hPositive := hInterval rfl
            rw [← h.plans] at hNames hPositive
            obtain ⟨mid, hSteps, hPlans, hAll, hSame⟩ :=
              exists_rest w .patient (Nat.le_refl _) hNames h.view (hRest rfl) hPositive
            exact ⟨_, .tail hSteps (.pass fun _ => hAll), view_pass hSame, hPlans.trans h.plans⟩

/-- What can be seen of a worker is what can be seen of it by itself. -/
theorem possible_iff (hw : w.Steady) {plans : List Plan} (hNames : (plans.map Plan.name).Nodup)
    (hPlan : plans[i]? = some p)
    (hInterval : clock = .patient → ∀ j q, j ≠ i → plans[j]? = some q → 0 < q.interval)
    {commands : List Command} {seen : List (Nat × Note)} :
    Possible w clock plans commands i seen ↔
      ∃ v, (View.motion w clock).Runs commands (.ofPlan p) v ∧ v.seen = seen := by
  have hStart : Shows plans i (ofPlans plans) (.ofPlan p) :=
    ⟨by rw [view_ofPlans, hPlan]; rfl, plans_ofPlans plans⟩
  constructor
  · rintro ⟨s, hRuns, rfl⟩
    obtain ⟨v, hAlone, hShows⟩ := (follows_view hw hNames).runs hStart hRuns
    exact ⟨v, hAlone, seen_of_view hShows.view⟩
  · rintro ⟨v, hRuns, rfl⟩
    obtain ⟨s, hAll, hShows⟩ := (view_follows hw hNames hInterval).runs hStart hRuns
    exact ⟨s, hAll, (seen_of_view hShows.view).symm⟩

end Schedule

end Lookout.Pipeline
