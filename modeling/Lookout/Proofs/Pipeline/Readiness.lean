import Lookout.Proofs.Pipeline.Faults
import Mathlib.Data.List.Forall2
/-!
Crawls made ready together. Either every enabled crawl is made ready, in order, or the first fault of the
first enabled crawl with a fault is told; crawls that are not enabled never count.
-/
namespace Lookout.Pipeline
variable {crawls : List Config.Crawl} {ps : List Plan} {e : PlanError}

theorem plansOf_eq_ok_iff :
    plansOf crawls = .ok ps ↔ List.Forall₂ (fun c p => Plan.ofCrawl c = .ok p) crawls ps := by
  induction crawls generalizing ps with
  | nil => simp [plansOf, eq_comm]
  | cons c crawls ih =>
      rw [plansOf, List.forall₂_cons_left_iff]
      cases hPlan : Plan.ofCrawl c with
      | error f => simp
      | ok p =>
          cases hRest : plansOf crawls with
          | error f => simp [← ih, hRest]
          | ok done => simp [← ih, hRest, eq_comm (a := ps)]

theorem plansOf_eq_error_iff :
    plansOf crawls = .error e ↔ ∃ before c after, crawls = before ++ c :: after ∧
      Plan.ofCrawl c = .error e ∧ ∀ d ∈ before, ∃ p, Plan.ofCrawl d = .ok p := by
  induction crawls with
  | nil => simp [plansOf]
  | cons c crawls ih =>
      rw [plansOf]
      constructor
      · intro h
        cases hPlan : Plan.ofCrawl c with
        | error f =>
            rw [hPlan] at h
            cases h
            exact ⟨[], c, crawls, rfl, hPlan, nofun⟩
        | ok p =>
            cases hRest : plansOf crawls with
            | ok done => simp [hPlan, hRest] at h
            | error f =>
                simp only [hPlan, hRest, Except.error.injEq] at h
                obtain ⟨before, d, after, rfl, hFails, hReady⟩ := ih.1 (h ▸ hRest)
                exact ⟨c :: before, d, after, rfl, hFails,
                  List.forall_mem_cons.2 ⟨⟨p, hPlan⟩, hReady⟩⟩
      · rintro ⟨before, d, after, hSplit, hFails, hReady⟩
        cases before with
        | nil =>
            obtain ⟨rfl, rfl⟩ := List.cons.inj hSplit
            rw [hFails]
        | cons _ before =>
            obtain ⟨rfl, rfl⟩ := List.cons.inj hSplit
            obtain ⟨⟨p, hPlan⟩, hReady⟩ := List.forall_mem_cons.1 hReady
            rw [hPlan, ih.2 ⟨before, d, after, rfl, hFails, hReady⟩]

theorem tells_plansOf (crawls : List Config.Crawl) : Tells (crawls.flatMap faults) (plansOf crawls) := by
  induction crawls with
  | nil => rfl
  | cons c crawls ih =>
      have hFirst := tells_ofCrawl c
      revert hFirst ih
      rw [plansOf, List.flatMap_cons]
      cases Plan.ofCrawl c with
      | error e => exact fun _ hFirst => hFirst.append _
      | ok p =>
          cases plansOf crawls with
          | error e => exact fun hRest hFirst => hRest.behind hFirst
          | ok done => exact fun hRest hFirst => Tells.behind (r := .ok _) hRest hFirst

/-! ### The enabled crawls -/

/-- The crawls that are to run. -/
abbrev enabledOf (crawls : List Config.Crawl) : List Config.Crawl := crawls.filter (·.enabled)

theorem plans_eq_plan_iff :
    plans crawls = .error (.plan e) ↔ plansOf (enabledOf crawls) = .error e := by
  unfold plans
  split <;> simp_all

theorem plans_eq_ok_iff :
    plans crawls = .ok ps ↔ plansOf (enabledOf crawls) = .ok ps ∧ ps ≠ [] := by
  unfold plans
  cases plansOf (enabledOf crawls) with
  | error f => simp
  | ok done =>
      cases done with
      | nil => simp [eq_comm]
      | cons p rest =>
          constructor
          · intro h
            cases h
            exact ⟨rfl, List.cons_ne_nil p rest⟩
          · rintro ⟨h, -⟩
            cases h
            rfl

/-- The plans belong to the enabled crawls, one to each and in their order. -/
theorem forall₂_of_plans (h : plans crawls = .ok ps) :
    List.Forall₂ (fun c p => Plan.ofCrawl c = .ok p) (enabledOf crawls) ps :=
  plansOf_eq_ok_iff.1 (plans_eq_ok_iff.1 h).1

theorem plans_eq_none_iff :
    plans crawls = .error .noEnabledCrawls ↔ ∀ c ∈ crawls, c.enabled = false := by
  have hNone : enabledOf crawls = [] ↔ ∀ c ∈ crawls, c.enabled = false := by
    simp [enabledOf, List.filter_eq_nil_iff]
  rw [← hNone]
  unfold plans
  constructor
  · intro h
    split at h
    · cases h
    · rename_i hReady
      exact List.forall₂_nil_right_iff.1 (plansOf_eq_ok_iff.1 hReady)
    · cases h
  · intro h
    rw [show crawls.filter (·.enabled) = [] from h]
    rfl

theorem exists_plans_iff :
    (∃ ps, plans crawls = .ok ps) ↔
      (∃ c ∈ crawls, c.enabled = true) ∧ ∀ c ∈ crawls, c.enabled = true → ∀ e, ¬ Fault c e := by
  have hTells := tells_plansOf (enabledOf crawls)
  constructor
  · rintro ⟨ps, h⟩
    constructor
    · by_contra hOff
      have hNone : plans crawls = .error .noEnabledCrawls :=
        plans_eq_none_iff.2 fun c hc => Bool.eq_false_iff.2 fun hEnabled => hOff ⟨c, hc, hEnabled⟩
      cases h.symm.trans hNone
    · intro c hc hEnabled e he
      rw [(plans_eq_ok_iff.1 h).1] at hTells
      have hFree := List.flatMap_eq_nil_iff.1 hTells c (List.mem_filter.2 ⟨hc, hEnabled⟩)
      exact List.not_mem_nil (hFree ▸ mem_faults.2 he)
  · rintro ⟨⟨c, hc, hEnabled⟩, hFree⟩
    cases hPlans : plans crawls with
    | ok ps => exact ⟨ps, rfl⟩
    | error f =>
        cases f with
        | noEnabledCrawls => exact absurd hEnabled (by simp [plans_eq_none_iff.1 hPlans c hc])
        | plan e =>
            obtain ⟨_, d, _, hSplit, hFails, -⟩ := plansOf_eq_error_iff.1 (plans_eq_plan_iff.1 hPlans)
            have hd : d ∈ enabledOf crawls := by simp [hSplit]
            obtain ⟨p, hPlan⟩ :=
              exists_ofCrawl_iff.2 (hFree d (List.mem_filter.1 hd).1 (List.mem_filter.1 hd).2)
            cases hFails.symm.trans hPlan

theorem plans_eq_error_iff (h : ∀ c ∈ crawls, c.enabled = true → IsOrdered c) :
    plans crawls = .error (.plan e) ↔ ∃ before c after, crawls = before ++ c :: after ∧
      c.enabled = true ∧ FirstFault c e ∧ ∀ d ∈ before, d.enabled = true → ∀ f, ¬ Fault d f := by
  rw [plans_eq_plan_iff, plansOf_eq_error_iff]
  constructor
  · rintro ⟨_, c, _, hSplit, hFails, hReady⟩
    obtain ⟨before, more, rfl, rfl, hMore⟩ := List.filter_eq_append_iff.1 hSplit
    obtain ⟨off, after, rfl, hOff, hEnabled, -⟩ := List.filter_eq_cons_iff.1 hMore
    refine ⟨before ++ off, c, after, (List.append_assoc ..).symm, hEnabled, ?_, fun d hd hOn => ?_⟩
    · exact (ofCrawl_eq_error_iff (h c (by simp) hEnabled)).1 hFails
    · rcases List.mem_append.1 hd with hBefore | hd
      · exact exists_ofCrawl_iff.1 (hReady d (List.mem_filter.2 ⟨hBefore, hOn⟩))
      · exact absurd hOn (hOff d hd)
  · rintro ⟨before, c, after, rfl, hEnabled, hFirst, hReady⟩
    refine ⟨enabledOf before, c, enabledOf after, by simp [enabledOf, hEnabled], ?_, fun d hd => ?_⟩
    · exact (ofCrawl_eq_error_iff (h c (by simp) hEnabled)).2 hFirst
    · exact exists_ofCrawl_iff.2 (hReady d (List.mem_filter.1 hd).1 (List.mem_filter.1 hd).2)

/-- There is an error without a fault just when no crawl is enabled. If an enabled crawl has a fault, the
first fault of the first such crawl is told. Otherwise there is one plan for each enabled crawl, in order,
and as many crawls are left over as are not enabled. Crawls that are not enabled can be put in anywhere
without a change. -/
theorem ready_or_first_fault (hOrdered : ∀ c ∈ crawls, c.enabled = true → IsOrdered c) :
    (plans crawls = .error .noEnabledCrawls ↔ ∀ c ∈ crawls, c.enabled = false) ∧
    (∀ e, plans crawls = .error (.plan e) ↔ ∃ before c after, crawls = before ++ c :: after ∧
      c.enabled = true ∧ FirstFault c e ∧ ∀ d ∈ before, d.enabled = true → ∀ f, ¬ Fault d f) ∧
    ((∃ ps, plans crawls = .ok ps) ↔
      (∃ c ∈ crawls, c.enabled = true) ∧ ∀ c ∈ crawls, c.enabled = true → ∀ e, ¬ Fault c e) ∧
    (∀ ps, plans crawls = .ok ps →
      List.Forall₂ (fun c p => Plan.ofCrawl c = .ok p) (crawls.filter (·.enabled)) ps ∧
      ps.length ≤ crawls.length ∧
      crawls.length - ps.length = (crawls.filter (!·.enabled)).length) ∧
    (∀ before off after, crawls = before ++ after → (∀ d ∈ off, d.enabled = false) →
      plans (before ++ off ++ after) = plans crawls) := by
  refine ⟨plans_eq_none_iff, fun e => plans_eq_error_iff hOrdered, exists_plans_iff, fun ps h => ?_,
    fun before off after hSplit hOff => ?_⟩
  · have hPlans := forall₂_of_plans h
    have hCount := List.length_eq_length_filter_add (l := crawls) (·.enabled)
    have hLength : (crawls.filter (·.enabled)).length = ps.length := hPlans.length_eq
    exact ⟨hPlans, by omega, by omega⟩
  · have hNone : off.filter (·.enabled) = [] := List.filter_eq_nil_iff.2 fun d hd => by simp [hOff d hd]
    simp only [hSplit, plans, List.filter_append, hNone, List.append_nil]

namespace Sample

/-- A crawl that is not enabled, with a malformed method. -/
def stray : Config.Crawl := { name := "stray", target := { method := "GE T" } }

/-- A crawl with nothing wrong. -/
def sound : Config.Crawl :=
  { name := "sound", enabled := true, target := { method := "GET", url := "http://[::1]/a" },
    query := { check := "." } }

/-- A crawl with a malformed name and a malformed value of header fields, and malformed queries. -/
def flawed : Config.Crawl :=
  { name := "flawed", enabled := true,
    target := { method := "GET", url := "http://[::1]/b", header := [("a b", "x"), ("c", "\n")] },
    query := { check := "1 +", bindings := [("X", "1 +"), ("Y", ".")] } }

end Sample

open Sample in
/-- Of its four faults the crawl tells the name of its first header field, also with more crawls that are
not enabled before it. -/
theorem flawed_tells_name :
    (∀ c ∈ [stray, sound, flawed], c.enabled = true → IsOrdered c) ∧
    plans ([stray] ++ [stray, stray] ++ [sound, flawed]) =
      .error (.plan (.request "flawed" (.headerName "a b"))) ∧
    ∃ before c after, [stray, sound, flawed] = before ++ c :: after ∧ c.enabled = true ∧
      FirstFault c (.request "flawed" (.headerName "a b")) ∧
      ∀ d ∈ before, d.enabled = true → ∀ f, ¬ Fault d f := by
  have hOrdered : ∀ c ∈ [stray, sound, flawed], c.enabled = true → IsOrdered c := by
    intro c hc _
    simp only [List.mem_cons, List.not_mem_nil, or_false] at hc
    rcases hc with rfl | rfl | rfl <;> exact ⟨by decide, by decide⟩
  obtain ⟨-, hError, -, -, hInsert⟩ := ready_or_first_fault hOrdered
  have hTold : plans [stray, sound, flawed] =
      .error (.plan (.request "flawed" (.headerName "a b"))) := rfl
  exact ⟨hOrdered, (hInsert [stray] [stray, stray] [sound, flawed] rfl (by decide)).trans hTold,
    (hError _).1 hTold⟩

end Lookout.Pipeline
