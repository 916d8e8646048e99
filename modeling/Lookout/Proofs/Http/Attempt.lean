import Lookout.Http.Attempt
import Mathlib.Tactic.SplitIfs
/-!
What a look of a call can lead to. A call that has not returned can do so as soon as its cycle is cancelled,
each look brings it nearer to its end, and silence of a server ends with an error.
-/
namespace Lookout.Http

namespace Exchange

/-- The client gives up a server that keeps silent. -/
theorem of_silence {e : Exchange} (url : Url) (hSilence : e.reply = .silence) :
    e.wait url = requestTimeout ∧ e.result url = .error (givenUp url) := by
  have hNone : e.inTime? url = none := by simp [inTime?, hSilence, Reply.page?]
  simp [wait, result, hNone]

end Exchange

namespace Attempt
variable {r : Request} {time : Nat} {cancelled : Bool} {a a' : Attempt} {what : Look}
  {requests : List Request}

/-- What a look of a call can lead to. -/
inductive Looks (r : Request) (time : Nat) (cancelled : Bool) : Attempt → Attempt → List Request → Prop where
  | goesOn (hOpen : cancelled = false) : Looks r time cancelled .entered .waiting []
  | stops {a : Attempt} (hPending : a.result? = none) (hCancelled : cancelled = true) :
      Looks r time cancelled a (.returned (.error .cancelled)) []
  | sends (e : Exchange) : Looks r time cancelled .waiting (.sent time e) [r]
  | receives {since : Nat} {e : Exchange} (hDue : since + e.wait r.url ≤ time) :
      Looks r time cancelled (.sent since e) (.returned (e.result r.url)) []

theorem looks_of_look? (h : a.look? r time cancelled what = some (a', requests)) :
    Looks r time cancelled a a' requests := by
  unfold look? at h
  split at h
  · cases h
    cases cancelled with
    | false => exact .goesOn rfl
    | true => exact .stops rfl rfl
  · split_ifs at h with hCancelled
    cases h
    exact .stops rfl hCancelled
  · split_ifs at h with hCancelled
    cases h
    exact .stops rfl hCancelled
  · cases h
    exact .sends _
  · split_ifs at h with hDue
    cases h
    exact .receives hDue
  · cases h

/-- A call that has not returned can return as soon as its cycle is cancelled. -/
theorem exists_look (r : Request) (time : Nat) (hPending : a.result? = none) :
    ∃ what, a.look? r time true what = some (.returned (.error .cancelled), []) := by
  cases a with
  | entered => exact ⟨.check, rfl⟩
  | waiting => exact ⟨.cancellation, rfl⟩
  | sent since e => exact ⟨.cancellation, rfl⟩
  | returned result => cases hPending

/-- The number of looks that a call takes at most until its result is taken. -/
def stepsLeft : Attempt → Nat
  | entered => 4
  | waiting => 3
  | sent _ _ => 2
  | returned _ => 1

theorem Looks.stepsLeft_lt (h : Looks r time cancelled a a' requests) : a'.stepsLeft < a.stepsLeft := by
  cases h with
  | @stops a hPending _ => cases a <;> simp_all [stepsLeft, result?]
  | _ => simp [stepsLeft]

end Attempt

end Lookout.Http
