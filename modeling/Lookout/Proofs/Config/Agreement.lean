import Lookout.Alert.Delivery
import Lookout.Config.Validation
import Lookout.Proofs.Pipeline.Readiness
/-!
Settings that make sense can be carried out: their alerts have destinations, and the targets of their
crawls can be requested, short of their header fields.
-/
namespace Lookout.Config

open Pipeline (plans)

variable {c : Config} {crawl : Crawl}

/-! ### Targets -/

theorem isToken_of_mem_allowedMethods {method : String} (h : method ∈ allowedMethods) :
    Http.isToken method = true := by
  revert method
  decide

theorem HttpTarget.of_validate {t : HttpTarget} (h : t.validate = .ok ()) :
    Http.isToken t.method = true ∧ ∃ url, Url.parse t.url = .ok url := by
  unfold validate at h
  split at h
  · cases h
  · rename_i hMethod
    have hAllowed : t.method ∈ allowedMethods := by simpa using hMethod
    refine ⟨isToken_of_mem_allowedMethods hAllowed, ?_⟩
    split at h
    · cases h
    · rename_i url hUrl
      exact ⟨url, hUrl⟩

theorem Crawl.target_of_validate (h : crawl.validate = .ok ()) : crawl.target.validate = .ok () := by
  unfold validate at h
  split at h
  · cases h
  · split at h
    · cases h
    · split at h
      · cases h
      · cases hTarget : crawl.target.validate with
        | ok _ => rfl
        | error flaw =>
            rw [hTarget] at h
            cases h

theorem of_validateCrawls {crawls : List Crawl} (h : validateCrawls crawls = .ok ()) :
    ∀ crawl ∈ crawls, crawl.validate = .ok () := by
  induction crawls with
  | nil => nofun
  | cons crawl crawls ih =>
      rw [validateCrawls] at h
      split at h
      · cases h
      · rename_i hFirst
        exact List.forall_mem_cons.2 ⟨hFirst, ih h⟩

/-- What is wrong with a crawl that makes sense is a header field or a query. -/
theorem Crawl.fault_of_validate (h : crawl.validate = .ok ()) {e : Pipeline.PlanError}
    (hFault : Pipeline.Fault crawl e) :
    (∃ name, e = .request crawl.name (.headerName name)) ∨
      (∃ name, e = .request crawl.name (.headerValue name)) ∨ ∃ q, e = .query crawl.name q := by
  obtain ⟨hToken, url, hUrl⟩ := HttpTarget.of_validate (target_of_validate h)
  cases hFault with
  | method hMethod => cases hMethod.symm.trans hToken
  | url hParse => cases hParse.symm.trans hUrl
  | headerName => exact .inl ⟨_, rfl⟩
  | headerValue => exact .inr (.inl ⟨_, rfl⟩)
  | check => exact .inr (.inr ⟨_, rfl⟩)
  | ofVariable => exact .inr (.inr ⟨_, rfl⟩)

/-! ### Alerts -/

/-- Whether destinations are those of the chosen service, one for each chat or webhook in their order. -/
def Alerts.ServedBy (a : Alerts) (ds : List Alert.Destination) : Prop :=
  match a.kind with
  | .telegram =>
    List.Forall₂ (fun chat d => d = .telegram Alert.telegramApi a.telegram.botToken chat)
      a.telegram.chatIds ds
  | .discord =>
    List.Forall₂ (fun text d => ∃ url, Url.parse text = .ok url ∧ d = .discord url)
      a.discord.webhookUrls ds

theorem webhooks_of_validate {texts : List String} (h : validateWebhooks texts = .ok ()) :
    ∃ ds, Alert.webhooks texts = .ok ds ∧
      List.Forall₂ (fun text d => ∃ url, Url.parse text = .ok url ∧ d = .discord url) texts ds := by
  induction texts with
  | nil => exact ⟨[], rfl, .nil⟩
  | cons text texts ih =>
      rw [validateWebhooks] at h
      split at h
      · cases h
      · rename_i url hUrl
        obtain ⟨ds, hRest, hEach⟩ := ih h
        refine ⟨.discord url :: ds, ?_, .cons ⟨url, hUrl, rfl⟩ hEach⟩
        rw [Alert.webhooks, Alert.Destination.ofWebhook, hUrl]
        simp only [hRest]

/-- A webhook that makes no sense cannot be set up either. -/
theorem webhooks_of_flaw {texts : List String} {text : String} {e : Url.ParseError}
    (h : validateWebhooks texts = .error (.webhook text e)) :
    Alert.webhooks texts = .error ⟨text, e⟩ := by
  induction texts with
  | nil => cases h
  | cons first texts ih =>
      rw [validateWebhooks] at h
      rw [Alert.webhooks, Alert.Destination.ofWebhook]
      split at h
      · rename_i hUrl
        cases h
        rw [hUrl]
      · rename_i url hUrl
        rw [hUrl]
        simp only [ih h]

theorem Telegram.chatIds_of_validate {t : Telegram} (h : t.validate = .ok ()) : t.chatIds ≠ [] := by
  unfold validate at h
  split at h
  · cases h
  · split at h
    · cases h
    · rename_i hSome
      exact fun hNone => hSome (List.isEmpty_iff.2 hNone)

theorem Discord.of_validate {d : Discord} (h : d.validate = .ok ()) :
    d.webhookUrls ≠ [] ∧ validateWebhooks d.webhookUrls = .ok () := by
  unfold validate at h
  split at h
  · cases h
  · rename_i hSome
    exact ⟨fun hNone => hSome (List.isEmpty_iff.2 hNone), h⟩

/-- Alerts that make sense have a destination for each of their deliveries, and at least one. -/
theorem Alerts.destinations_of_validate {a : Alerts} (h : a.validate = .ok ()) :
    ∃ ds, Alert.destinations a = .ok ds ∧ a.ServedBy ds ∧ ds ≠ [] := by
  unfold validate at h
  unfold Alert.destinations ServedBy
  cases hKind : a.kind with
  | telegram =>
      rw [hKind] at h
      refine ⟨_, rfl, ?_, ?_⟩
      · exact List.forall₂_map_right_iff.2 (List.forall₂_same.2 fun _ _ => rfl)
      · simpa using Telegram.chatIds_of_validate h
  | discord =>
      rw [hKind] at h
      obtain ⟨hSome, hEach⟩ := Discord.of_validate h
      obtain ⟨ds, hReady, hServed⟩ := webhooks_of_validate hEach
      refine ⟨ds, hReady, hServed, fun hNone => hSome ?_⟩
      rw [hNone] at hServed
      exact List.forall₂_nil_right_iff.1 hServed

theorem Alerts.destinations_of_flaw {a : Alerts} {text : String} {e : Url.ParseError}
    (h : a.validate = .error (.webhook text e)) : Alert.destinations a = .error ⟨text, e⟩ := by
  unfold validate at h
  unfold Alert.destinations
  cases hKind : a.kind with
  | telegram =>
      rw [hKind] at h
      simp only [Telegram.validate] at h
      split at h
      · cases h
      · split at h <;> cases h
  | discord =>
      rw [hKind] at h
      simp only [Discord.validate] at h
      split at h
      · cases h
      · exact webhooks_of_flaw h

/-! ### All settings -/

theorem of_validate (h : c.validate = .ok ()) :
    c.alerts.validate = .ok () ∧ ∀ crawl ∈ c.crawls, crawl.validate = .ok () := by
  unfold validate at h
  split at h
  · cases h
  · rename_i hAlerts
    refine ⟨hAlerts, of_validateCrawls ?_⟩
    cases hCrawls : validateCrawls c.crawls with
    | ok _ => rfl
    | error flaw =>
        rw [hCrawls] at h
        cases h

/-- If settings make sense, there is a destination for each delivery of the chosen service, and at least
one; no target, enabled or not, has a method or an address that cannot be requested; and crawls can fail to
be made ready only if none is enabled or if a header field or a query of an enabled one is malformed. If
they make no sense because of the address of a webhook, there are no destinations for the same reason. -/
theorem validate_agrees (c : Config) :
    (c.validate = .ok () →
      (∃ ds, Alert.destinations c.alerts = .ok ds ∧ c.alerts.ServedBy ds ∧ ds ≠ []) ∧
      (∀ crawl ∈ c.crawls, ∀ e, Http.Request.ofTarget crawl.target = .error e →
        ∃ name, e = .headerName name ∨ e = .headerValue name) ∧
      (∀ e, plans c.crawls = .error e → e = .noEnabledCrawls ∨
        ∃ crawl ∈ c.crawls, crawl.enabled = true ∧ ∃ f, e = .plan f ∧ Pipeline.Fault crawl f ∧
          ((∃ name, f = .request crawl.name (.headerName name)) ∨
            (∃ name, f = .request crawl.name (.headerValue name)) ∨ ∃ q, f = .query crawl.name q))) ∧
    (∀ text e, c.validate = .error (.alerts (.webhook text e)) →
      Alert.destinations c.alerts = .error ⟨text, e⟩) := by
  constructor
  · intro h
    obtain ⟨hAlerts, hCrawls⟩ := of_validate h
    refine ⟨Alerts.destinations_of_validate hAlerts, fun crawl hCrawl e hFails => ?_, fun e hFails => ?_⟩
    · have hPlan : Pipeline.Plan.ofCrawl crawl = .error (.request crawl.name e) := by
        simp only [Pipeline.Plan.ofCrawl, hFails]
      rcases Crawl.fault_of_validate (hCrawls crawl hCrawl) (Pipeline.fault_of_ofCrawl hPlan) with
        ⟨name, hName⟩ | ⟨name, hValue⟩ | ⟨q, hQuery⟩
      · cases hName
        exact ⟨name, .inl rfl⟩
      · cases hValue
        exact ⟨name, .inr rfl⟩
      · cases hQuery
    · cases e with
      | noEnabledCrawls => exact .inl rfl
      | plan f =>
          obtain ⟨_, crawl, _, hSplit, hPlan, -⟩ :=
            Pipeline.plansOf_eq_error_iff.1 (Pipeline.plans_eq_plan_iff.1 hFails)
          have hCrawl : crawl ∈ Pipeline.enabledOf c.crawls := by simp [hSplit]
          obtain ⟨hMem, hEnabled⟩ := List.mem_filter.1 hCrawl
          have hFault := Pipeline.fault_of_ofCrawl hPlan
          exact .inr ⟨crawl, hMem, hEnabled, f, rfl, hFault,
            Crawl.fault_of_validate (hCrawls crawl hMem) hFault⟩
  · intro text e h
    unfold validate at h
    split at h
    · rename_i hAlerts
      cases h
      exact Alerts.destinations_of_flaw hAlerts
    · cases hCrawls : validateCrawls c.crawls with
      | ok _ =>
          rw [hCrawls] at h
          cases h
      | error flaw =>
          rw [hCrawls] at h
          cases h

namespace Sample

/-- Settings that make sense, with a header field that cannot be sent. -/
def sendable : Config where
  crawls := [{ Pipeline.Sample.flawed with interval := ⟨1, by decide⟩, message := "found" }]
  alerts :=
    { kind := .discord, discord := { webhookUrls := ["http://[::1]/a", "http://[::1]/b"] } }

/-- The same settings with an address that makes no sense. -/
def misdirected : Config :=
  { sendable with alerts := { kind := .discord, discord := { webhookUrls := ["http://[::1]/a", "::bad"] } } }

end Sample

open Sample in
theorem sendable_agrees :
    sendable.validate = .ok () ∧
    (∃ ds, Alert.destinations sendable.alerts = .ok ds ∧ sendable.alerts.ServedBy ds ∧ ds ≠ []) ∧
    plans sendable.crawls = .error (.plan (.request "flawed" (.headerName "a b"))) ∧
    (∃ crawl ∈ sendable.crawls, crawl.enabled = true ∧ Pipeline.Fault crawl (.request "flawed" (.headerName "a b"))) ∧
    misdirected.validate = .error (.alerts (.webhook "::bad" .relative)) ∧
    Alert.destinations misdirected.alerts = .error ⟨"::bad", .relative⟩ := by
  have hValid : sendable.validate = .ok () := rfl
  obtain ⟨hDestinations, -, hPlans⟩ := (validate_agrees sendable).1 hValid
  have hTold : plans sendable.crawls = .error (.plan (.request "flawed" (.headerName "a b"))) := rfl
  have hFlaw : misdirected.validate = .error (.alerts (.webhook "::bad" .relative)) := rfl
  refine ⟨hValid, hDestinations, hTold, ?_, hFlaw, (validate_agrees misdirected).2 _ _ hFlaw⟩
  rcases hPlans _ hTold with hNone | ⟨crawl, hCrawl, hEnabled, f, hError, hFault, -⟩
  · cases hNone
  · cases hError
    exact ⟨crawl, hCrawl, hEnabled, hFault⟩

end Lookout.Config
