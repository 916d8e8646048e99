import Lookout.Proofs.Pipeline.Answers
/-!
What comes of a message that is handed to several senders, whatever mix of their calls succeeds,
fails or panics, at once or later. Which senders are called depends only on the calls that panic as
they are made. What is told in the end depends only on how the calls end, and not on which of them
ends first: failures are listed in the order of the senders, and a panic ends the whole message.
-/
namespace Lookout.Pipeline

/-- Why a call failed that ends like this, if it did. -/
def SendEnding.failure? : SendEnding → Option (List String)
  | .returned (.error chain) => some chain
  | _ => none

/-- Whether the call of a sender panics as it is made. -/
def Delivery.PanicsAtOnce (d : Delivery) : Prop :=
  d.delay = some 0 ∧ SendEnding.panics d.ending = true

/-- Why calls of senders fail, in the order of the senders. -/
def failuresOf (ds : List Delivery) : List (List String) :=
  ds.filterMap fun d => SendEnding.failure? d.ending

/-- How many senders are called: all of them when no call panics as it is made, otherwise those up
to and including the first whose call does. -/
inductive Calls : List Delivery → Nat → Prop where
  | all {ds : List Delivery} (hNone : ∀ d ∈ ds, ¬ d.PanicsAtOnce) : Calls ds ds.length
  | upTo {before behind : List Delivery} {d : Delivery} (hNone : ∀ e ∈ before, ¬ e.PanicsAtOnce)
      (hPanics : d.PanicsAtOnce) : Calls (before ++ d :: behind) (before.length + 1)

/-- What is told of a message in the end, when so many of its senders were called: the panic of one
that was called, or all failures at once, or nothing. -/
inductive Concludes (ds : List Delivery) (called : Nat) : List Event → Prop where
  | panicked {d : Delivery} {p : Payload} (hCalled : d ∈ ds.take called)
      (hEnding : d.ending = .panicked p) : Concludes ds called [.sendPanicked p.message]
  | failed (hCalm : ∀ d ∈ ds, SendEnding.panics d.ending = false) (hFailed : failuresOf ds ≠ []) :
      Concludes ds called [.sendFailed (failuresOf ds)]
  | sent (hCalm : ∀ d ∈ ds, SendEnding.panics d.ending = false) (hNone : failuresOf ds = []) :
      Concludes ds called []

/-- A call of a sender that goes like this, from its beginning on: it ends as is said, and while it
waits there is a time for that if there is ever to be one. -/
structure Call.Follows (d : Delivery) (call : Call) : Prop where
  ending : call.ending = d.ending
  due : call.isWaiting = true → call.due?.isSome = d.delay.isSome

namespace Call
variable {now : Nat} {d : Delivery} {call done : Call} {message : String}

theorem Follows.start (now : Nat) (d : Delivery) : Follows d (Call.start now d) :=
  ⟨rfl, fun _ => Option.isSome_map⟩

/-- Polling does not change how a call goes. -/
theorem Follows.polled (h : Follows d call) (hPolled : call.Polled now done) : Follows d done := by
  constructor
  · rw [hPolled.ending]
    exact h.ending
  · intro hWaits
    cases hPolled with
    | waits _ => exact h.due hWaits
    | succeeds _ => cases hWaits
    | fails _ => cases hWaits

/-- A call that has just begun is found to have panicked exactly when it panics at once. -/
theorem poll_start_error_iff :
    (∃ message, (Call.start now d).poll now = .error message) ↔ d.PanicsAtOnce := by
  obtain ⟨delay, ending⟩ := d
  have hDue : ((delay.map (now + ·)).any (· ≤ now) = true) ↔ delay = some 0 := by
    cases delay with
    | none => simp
    | some delay =>
        simp only [Option.map_some, Option.any_some, decide_eq_true_eq, Option.some.injEq]
        omega
  simp only [Call.start, poll, Delivery.PanicsAtOnce]
  split_ifs with hNow
  · cases ending with
    | panicked p => simp [Ending.guarded, SendEnding.panics, hDue.1 hNow]
    | returned result => cases result <;> simp [Ending.guarded, SendEnding.panics]
  · simp [← hDue, hNow]

/-- A call that has ended failed for the reason that its ending gives. -/
theorem failure?_of_ended (h : call.isWaiting = false) :
    call.failure? = SendEnding.failure? call.ending := by
  cases call with
  | waiting due ending => cases h
  | succeeded => rfl
  | failed chain => rfl

end Call

/-- Of two lists that stand in a relation item by item, each item of the second has one of the first
that it stands in the relation to. -/
theorem exists_rel_of_mem {α β : Type} {R : α → β → Prop} {l : List α} {l' : List β} {b : β}
    (h : List.Forall₂ R l l') (hb : b ∈ l') : ∃ a ∈ l, R a b := by
  induction h with
  | nil => cases hb
  | cons hFirst _ ih =>
      rcases List.mem_cons.1 hb with rfl | hb
      · exact ⟨_, List.mem_cons_self, hFirst⟩
      · obtain ⟨a, ha, hRel⟩ := ih hb
        exact ⟨a, List.mem_cons_of_mem _ ha, hRel⟩

/-! ### Calls as they begin -/

section Starting
variable {now called : Nat} {ds : List Delivery} {calls done : List Call} {message : String}

theorem follows_of_startCalls (h : startCalls now ds = (called, .ok calls)) :
    List.Forall₂ Call.Follows ds calls :=
  (polled_of_startCalls h).2.imp fun d _ hPolled => (Call.Follows.start now d).polled hPolled

/-- When the calls are in progress, all senders have been called and none panicked at once. -/
theorem calls_of_startCalls_ok (h : startCalls now ds = (called, .ok calls)) :
    called = ds.length ∧ ∀ d ∈ ds, ¬ d.PanicsAtOnce := by
  refine ⟨(polled_of_startCalls h).1, ?_⟩
  induction ds generalizing called calls with
  | nil => exact fun d hd => absurd hd List.not_mem_nil
  | cons d rest ih =>
      simp only [startCalls] at h
      split at h
      · cases h
      · rename_i first hFirst
        split at h
        · cases h
        · rename_i hRest
          intro e he
          rcases List.mem_cons.1 he with rfl | he
          · intro hPanics
            obtain ⟨message, hMessage⟩ := Call.poll_start_error_iff.2 hPanics
            cases hMessage.symm.trans hFirst
          · exact ih hRest e he

/-- When the calls do not get under way, the last sender that was called panicked at once, and none
before it did. -/
theorem calls_of_startCalls_error (h : startCalls now ds = (called, .error message)) :
    ∃ before d behind p, ds = before ++ d :: behind ∧ (∀ e ∈ before, ¬ e.PanicsAtOnce) ∧
      d.PanicsAtOnce ∧ called = before.length + 1 ∧ d.ending = .panicked p ∧ p.message = message := by
  induction ds generalizing called with
  | nil => cases h
  | cons d rest ih =>
      simp only [startCalls] at h
      split at h
      · rename_i hFirst
        cases h
        obtain ⟨p, hEnding, hMessage⟩ := Call.exists_panicked_of_poll hFirst
        exact ⟨[], d, rest, p, rfl, fun e he => absurd he List.not_mem_nil,
          Call.poll_start_error_iff.1 ⟨_, hFirst⟩, rfl, hEnding, hMessage⟩
      · rename_i first hFirst
        split at h
        · rename_i n message' hRest
          cases h
          obtain ⟨before, e, behind, p, rfl, hNone, hPanics, rfl, hEnding⟩ := ih hRest
          refine ⟨d :: before, e, behind, p, rfl, ?_, hPanics, rfl, hEnding⟩
          intro a ha
          rcases List.mem_cons.1 ha with rfl | ha
          · intro hAtOnce
            obtain ⟨message', hMessage⟩ := Call.poll_start_error_iff.2 hAtOnce
            cases hMessage.symm.trans hFirst
          · exact hNone a ha
        · cases h

/-- When the calls do not get under way, the message has come to its end. -/
theorem concludes_of_startCalls (h : startCalls now ds = (called, .error message)) :
    Calls ds called ∧ Concludes ds called [.sendPanicked message] := by
  obtain ⟨before, d, behind, p, rfl, hNone, hPanics, rfl, hEnding, rfl⟩ := calls_of_startCalls_error h
  exact ⟨.upTo hNone hPanics, .panicked (by simp [List.take_append]) hEnding⟩

end Starting

/-! ### Calls as they end -/

section Ending
variable {now : Nat} {ds : List Delivery} {calls done : List Call} {message : String}

theorem follows_of_pollCalls (hCalls : List.Forall₂ Call.Follows ds calls)
    (h : pollCalls now calls = .ok done) : List.Forall₂ Call.Follows ds done := by
  have hPolls := polled_of_pollCalls h
  clear h
  induction hCalls generalizing done with
  | nil =>
      cases hPolls
      exact .nil
  | cons hFirst _ ih =>
      cases hPolls with
      | cons hPolled hRest => exact .cons (hFirst.polled hPolled) (ih hRest)

theorem concludes_of_pollCalls (hCalls : List.Forall₂ Call.Follows ds calls)
    (h : pollCalls now calls = .error message) : Concludes ds ds.length [.sendPanicked message] := by
  obtain ⟨call, hCall, p, hEnding, rfl⟩ := exists_panicked_of_pollCalls h
  obtain ⟨d, hd, hFollows⟩ := exists_rel_of_mem hCalls hCall
  exact .panicked (by simpa using hd) (hFollows.ending ▸ hEnding)

/-- When all calls have ended, their failures are those of the senders, in their order. -/
theorem failures_of_ended (hCalls : List.Forall₂ Call.Follows ds calls)
    (h : calls.any Call.isWaiting = false) : calls.filterMap Call.failure? = failuresOf ds := by
  induction hCalls with
  | nil => rfl
  | @cons d call _ _ hFirst _ ih =>
      rw [List.any_cons, Bool.or_eq_false_iff] at h
      have hFailure : call.failure? = SendEnding.failure? d.ending := by
        rw [Call.failure?_of_ended h.1, hFirst.ending]
      have hRest := ih h.2
      unfold failuresOf at hRest ⊢
      rw [List.filterMap_cons, List.filterMap_cons, hFailure, hRest]

/-- None of the senders panics then. -/
theorem calm_of_ended (hCalls : List.Forall₂ Call.Follows ds calls)
    (h : calls.any Call.isWaiting = false) : ∀ d ∈ ds, SendEnding.panics d.ending = false := by
  have hEndings : calls.map Call.ending = ds.map Delivery.ending := by
    clear h
    induction hCalls with
    | nil => rfl
    | cons hFirst _ ih => rw [List.map_cons, List.map_cons, hFirst.ending, ih]
  have hNone := panics_of_ended h
  rw [hEndings, List.any_eq_false] at hNone
  intro d hd
  exact eq_false_of_ne_true (hNone d.ending (List.mem_map_of_mem hd))

/-- When all calls have ended, what is told of the message is what comes of its senders. -/
theorem concludes_of_ended (seq : Nat) (hCalls : List.Forall₂ Call.Follows ds calls)
    (h : calls.any Call.isWaiting = false) :
    ∃ outcome : List Event, Group.sendingNotes seq calls = outcome.map (Note.event seq) ∧
      Concludes ds ds.length outcome := by
  have hFailures := failures_of_ended hCalls h
  have hCalm := calm_of_ended hCalls h
  cases hNone : failuresOf ds with
  | nil =>
      rw [hNone] at hFailures
      exact ⟨[], by simp [Group.sendingNotes, hFailures], .sent hCalm hNone⟩
  | cons chain others =>
      rw [hNone] at hFailures
      have hFailed : failuresOf ds ≠ [] := by simp [hNone]
      refine ⟨[.sendFailed (failuresOf ds)], ?_, .failed hCalm hFailed⟩
      simp [Group.sendingNotes, hFailures, hNone]

end Ending

end Lookout.Pipeline
