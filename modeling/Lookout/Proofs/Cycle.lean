import Lookout.Cycle
import Lookout.Proofs.Json.Fields
import Mathlib.Data.List.Basic
/-!
Contexts over whole histories: which of them are of one cycle, which are cancelled, and which annotations
each has.
-/
namespace Lookout.Contexts

open Json (KeysIncrease)

variable {events : List Event} {event : Event} {s s' : Contexts} {c d : Context} {texts : List String}
  {p q i n : Nat}

/-! ### Histories -/

/-- What an event makes of contexts, with the texts that it records. -/
inductive Step (s : Contexts) : Event → Contexts → List String → Prop where
  | begin (crawl : String) : Step s (.begin crawl)
      { s with
        list := s.list ++ [⟨crawl, s.begun, [], s.tokens.length⟩]
        begun := s.begun + 1
        tokens := s.tokens ++ [s.groupCancelled] } []
  | copy {i : Nat} {c : Context} (h : s.list[i]? = some c) :
      Step s (.copy i) { s with list := s.list ++ [c] } []
  | annotate {i : Nat} {c : Context} (h : s.list[i]? = some c) (key value : String) :
      Step s (.annotate i key value) { s with list := s.list.set i (c.annotate key value) }
        [(c.annotate key value).annotationText]
  | cancel {i : Nat} {c : Context} (h : s.list[i]? = some c) :
      Step s (.cancel i) { s with tokens := s.tokens.set c.token true } []
  | cancelGroup :
      Step s .cancelGroup { s with groupCancelled := true, tokens := s.tokens.map fun _ => true } []

theorem step_of_step? (h : s.step? event = some (s', texts)) : Step s event s' texts := by
  cases event with
  | begin crawl =>
      cases h
      exact .begin crawl
  | copy i =>
      obtain ⟨c, hc, h⟩ := Option.bind_eq_some_iff.1 h
      cases h
      exact .copy hc
  | annotate i key value =>
      obtain ⟨c, hc, h⟩ := Option.bind_eq_some_iff.1 h
      cases h
      exact .annotate hc key value
  | cancel i =>
      obtain ⟨c, hc, h⟩ := Option.bind_eq_some_iff.1 h
      cases h
      exact .cancel hc
  | cancelGroup =>
      cases h
      exact .cancelGroup

/-- What holds of a context where a cycle begins, and of an annotated one if it held before, holds of all
contexts. -/
theorem Step.forall_mem {P : Context → Prop} (h : Step s event s' texts)
    (hBegin : ∀ crawl, P ⟨crawl, s.begun, [], s.tokens.length⟩)
    (hAnnotate : ∀ c key value, P c → P (c.annotate key value)) (hPrior : ∀ c ∈ s.list, P c) :
    ∀ c ∈ s'.list, P c := by
  intro d hd
  cases h with
  | begin crawl =>
      rcases List.mem_append.1 hd with hOld | hNew
      · exact hPrior d hOld
      · exact (List.mem_singleton.1 hNew) ▸ hBegin crawl
  | copy hi =>
      rcases List.mem_append.1 hd with hOld | hNew
      · exact hPrior d hOld
      · exact (List.mem_singleton.1 hNew) ▸ hPrior _ (List.mem_of_getElem? hi)
  | @annotate i c hi key value =>
      rcases List.mem_or_eq_of_mem_set hd with hOld | rfl
      · exact hPrior d hOld
      · exact hAnnotate c key value (hPrior c (List.mem_of_getElem? hi))
  | cancel hi => exact hPrior d hd
  | cancelGroup => exact hPrior d hd

/-- The contexts that events lead to from the beginning, when there are none and nothing is cancelled. -/
inductive Reached : List Event → Contexts → Prop where
  | start : Reached [] {}
  | step {events : List Event} {event : Event} {s s' : Contexts} {texts : List String}
      (prior : Reached events s) (last : s.step? event = some (s', texts)) :
      Reached (events ++ [event]) s'

/-- Where the context comes from that an event adds, if it adds one: from a copied one, or from none. -/
def Event.source? : Event → Option (Option Nat)
  | .begin _ => some none
  | .copy i => some (some i)
  | _ => none

/-- Where all contexts come from, in the order in which they arose. -/
def sources (events : List Event) : List (Option Nat) := events.filterMap Event.source?

theorem sources_concat (events : List Event) (event : Event) :
    sources (events ++ [event]) = sources events ++ event.source?.toList := by
  rw [sources, List.filterMap_append]
  cases h : event.source? <;> simp [sources, h]

/-- Whether a context descends by copies from the first one of a cycle; numbers are their places. -/
inductive Descends (events : List Event) (first : Nat) : Nat → Prop where
  | begun (h : (sources events)[first]? = some none) : Descends events first first
  | copied {i p : Nat} (h : Descends events first i) (hCopy : (sources events)[p]? = some (some i)) :
      Descends events first p

/-- Whether two contexts descend from the same first one. -/
def OfOneCycle (events : List Event) (p q : Nat) : Prop :=
  ∃ first, Descends events first p ∧ Descends events first q

/-! ### Numbers of cycles -/

theorem getElem?_concat_eq_some_iff {α : Type} {l : List α} {a b : α} :
    (l ++ [a])[p]? = some b ↔ l[p]? = some b ∨ p = l.length ∧ a = b := by
  rcases lt_trichotomy p l.length with hLess | rfl | hMore
  · simp [List.getElem?_append_left hLess, hLess.ne]
  · simp
  · simp [List.getElem?_append_right hMore.le, List.getElem?_eq_none hMore.le, hMore.ne',
      (Nat.sub_pos_of_lt hMore).ne']

/-- The numbers of cycles that the contexts have, in order. -/
def cycles (s : Contexts) : List Nat := s.list.map Context.cycle

theorem cycles_getElem? (h : s.list[p]? = some c) : s.cycles[p]? = some c.cycle := by
  rw [cycles, List.getElem?_map, h, Option.map_some]

theorem cycles_set (h : s.list[i]? = some c) (key value : String) :
    (s.list.set i (c.annotate key value)).map Context.cycle = s.cycles := by
  obtain ⟨hi, rfl⟩ := List.getElem?_eq_some_iff.1 h
  have hi' : i < s.cycles.length := by simpa [cycles] using hi
  have hSame : s.cycles.set i s.cycles[i] = s.cycles := List.set_getElem_self hi'
  simpa [cycles, List.map_set, Context.annotate] using hSame

/-- Whether numbers are given out as their sources say: a new one where a cycle begins, and the number of
the copied context otherwise. -/
structure Numbered (origins : List (Option Nat)) (numbers : List Nat) (begun : Nat) : Prop where
  length_eq : origins.length = numbers.length
  lt_begun : ∀ n ∈ numbers, n < begun
  copied : ∀ p i : Nat, origins[p]? = some (some i) → i < p ∧ numbers[p]? = numbers[i]?
  unique : ∀ p q n : Nat, origins[p]? = some none → origins[q]? = some none →
    numbers[p]? = some n → numbers[q]? = some n → p = q

namespace Numbered
variable {origins : List (Option Nat)} {numbers : List Nat} {begun : Nat}

theorem lt_length (h : Numbered origins numbers begun) {source : Option Nat}
    (hSource : origins[p]? = some source) : p < numbers.length :=
  h.length_eq ▸ (List.getElem?_eq_some_iff.1 hSource).1

theorem copied_append (h : Numbered origins numbers begun) (hCopy : origins[p]? = some (some i))
    (more : List Nat) : i < p ∧ (numbers ++ more)[p]? = (numbers ++ more)[i]? := by
  obtain ⟨hBefore, hSame⟩ := h.copied p i hCopy
  have hp := h.lt_length hCopy
  rw [List.getElem?_append_left hp, List.getElem?_append_left (hBefore.trans hp)]
  exact ⟨hBefore, hSame⟩

theorem begin (h : Numbered origins numbers begun) :
    Numbered (origins ++ [none]) (numbers ++ [begun]) (begun + 1) where
  length_eq := by simp [h.length_eq]
  lt_begun := by
    intro n hn
    rcases List.mem_append.1 hn with hOld | hNew
    · exact Nat.lt_succ_of_lt (h.lt_begun n hOld)
    · exact (List.mem_singleton.1 hNew) ▸ Nat.lt_succ_self begun
  copied := by
    intro p i hSource
    rcases getElem?_concat_eq_some_iff.1 hSource with hOld | ⟨-, hNew⟩
    · exact h.copied_append hOld [begun]
    · cases hNew
  unique := by
    intro p q n hp hq hpNumber hqNumber
    have hFresh {m : Nat} (hm : numbers[m]? = some begun) : False :=
      Nat.lt_irrefl _ (h.lt_begun _ (List.mem_of_getElem? hm))
    rw [getElem?_concat_eq_some_iff] at hp hq hpNumber hqNumber
    grind [h.unique p q n, h.length_eq]

theorem copy (h : Numbered origins numbers begun) (hi : numbers[i]? = some n) :
    Numbered (origins ++ [some i]) (numbers ++ [n]) begun := by
  have hLess : i < numbers.length := (List.getElem?_eq_some_iff.1 hi).1
  refine ⟨by simp [h.length_eq], fun m hm => ?_, fun p j hSource => ?_,
    fun p q m hp hq hpNumber hqNumber => ?_⟩
  · rcases List.mem_append.1 hm with hOld | hNew
    · exact h.lt_begun m hOld
    · exact (List.mem_singleton.1 hNew) ▸ h.lt_begun n (List.mem_of_getElem? hi)
  · rcases getElem?_concat_eq_some_iff.1 hSource with hOld | ⟨rfl, hNew⟩
    · exact h.copied_append hOld [n]
    · obtain rfl : i = j := Option.some.inj hNew
      rw [h.length_eq, List.getElem?_append_left hLess, List.getElem?_concat_length, hi]
      exact ⟨hLess, rfl⟩
  · rcases getElem?_concat_eq_some_iff.1 hp with hpOld | ⟨-, hNew⟩
    · rcases getElem?_concat_eq_some_iff.1 hq with hqOld | ⟨-, hNew⟩
      · rw [List.getElem?_append_left (h.lt_length hpOld)] at hpNumber
        rw [List.getElem?_append_left (h.lt_length hqOld)] at hqNumber
        exact h.unique p q m hpOld hqOld hpNumber hqNumber
      · cases hNew
    · cases hNew

end Numbered

theorem Step.numbered (h : Step s event s' texts) (hPrior : Numbered (sources events) s.cycles s.begun) :
    Numbered (sources (events ++ [event])) s'.cycles s'.begun := by
  rw [sources_concat]
  cases h with
  | begin crawl => simpa [cycles, Event.source?] using hPrior.begin
  | copy hi => simpa [cycles, Event.source?] using hPrior.copy (cycles_getElem? hi)
  | annotate hi key value =>
      rw [cycles, cycles_set hi]
      simpa [Event.source?] using hPrior
  | cancel hi => simpa [cycles, Event.source?] using hPrior
  | cancelGroup => simpa [cycles, Event.source?] using hPrior

theorem Reached.numbered (h : Reached events s) : Numbered (sources events) s.cycles s.begun := by
  induction h with
  | start => exact ⟨rfl, by simp [cycles], by simp [sources], by simp [sources]⟩
  | step prior last ih => exact (step_of_step? last).numbered ih

/-- A context has the number of each one that it descends from. -/
theorem Numbered.of_descends {numbers : List Nat} {begun first : Nat}
    (h : Numbered (sources events) numbers begun) (hDescends : Descends events first p) :
    (sources events)[first]? = some none ∧ numbers[p]? = numbers[first]? := by
  induction hDescends with
  | begun hFirst => exact ⟨hFirst, rfl⟩
  | copied _ hCopy ih => exact ⟨ih.1, (h.copied _ _ hCopy).2.trans ih.2⟩

theorem Numbered.exists_descends {numbers : List Nat} {begun : Nat}
    (h : Numbered (sources events) numbers begun) (hp : p < numbers.length) :
    ∃ first, Descends events first p := by
  induction p using Nat.strong_induction_on with
  | _ p ih =>
      obtain ⟨source, hSource⟩ : ∃ source, (sources events)[p]? = some source :=
        ⟨_, List.getElem?_eq_getElem (h.length_eq ▸ hp)⟩
      cases source with
      | none => exact ⟨p, .begun hSource⟩
      | some i =>
          have hBefore := (h.copied p i hSource).1
          obtain ⟨first, hFirst⟩ := ih i hBefore (hBefore.trans hp)
          exact ⟨first, hFirst.copied hSource⟩

/-- Contexts have the same number just when they descend from the same first one. -/
theorem Reached.cycle_eq_iff (h : Reached events s) (hp : s.list[p]? = some c) (hq : s.list[q]? = some d) :
    c.cycle = d.cycle ↔ OfOneCycle events p q := by
  have hNumbered := h.numbered
  have hpNumber := cycles_getElem? hp
  have hqNumber := cycles_getElem? hq
  constructor
  · intro hSame
    obtain ⟨first, hFirst⟩ := hNumbered.exists_descends (List.getElem?_eq_some_iff.1 hpNumber).1
    obtain ⟨other, hOther⟩ := hNumbered.exists_descends (List.getElem?_eq_some_iff.1 hqNumber).1
    obtain ⟨hBegan, hNumber⟩ := hNumbered.of_descends hFirst
    obtain ⟨hOtherBegan, hOtherNumber⟩ := hNumbered.of_descends hOther
    obtain rfl := hNumbered.unique first other c.cycle hBegan hOtherBegan (hNumber ▸ hpNumber)
      (hOtherNumber ▸ hSame ▸ hqNumber)
    exact ⟨first, hFirst, hOther⟩
  · rintro ⟨first, hFirst, hOther⟩
    have hNumber := (hNumbered.of_descends hFirst).2.trans (hNumbered.of_descends hOther).2.symm
    exact Option.some.inj (hpNumber.symm.trans (hNumber.trans hqNumber))

/-! ### Cancellation -/

/-- Whether tokens are cancelled as events say, when the contexts have the given numbers: the token of a
number with the group, and with each context that has the number. -/
structure Marked (events : List Event) (numbers : List Nat) (tokens : List Bool) (group : Bool) : Prop where
  group_iff : group = true ↔ .cancelGroup ∈ events
  present : ∀ q, .cancel q ∈ events → q < numbers.length
  token_iff : ∀ n : Nat, tokens[n]? = some true ↔
    n < tokens.length ∧ (.cancelGroup ∈ events ∨ ∃ q, .cancel q ∈ events ∧ numbers[q]? = some n)

namespace Marked
variable {numbers : List Nat} {tokens : List Bool} {group : Bool}

/-- An event that cancels nothing leaves the tokens as they are. -/
theorem later (h : Marked events numbers tokens group) (event : Event) (hGroup : .cancelGroup ≠ event)
    (hCancel : ∀ q, .cancel q ≠ event) (more : List Nat) :
    Marked (events ++ [event]) (numbers ++ more) tokens group := by
  obtain ⟨hGroupIff, hPresent, hTokens⟩ := h
  refine ⟨by simp [hGroupIff, hGroup], fun q hq => ?_, fun n => ?_⟩
  · have hBefore := hPresent q (by simpa [hCancel] using hq)
    rw [List.length_append]
    omega
  · simp only [hTokens, List.mem_append, List.mem_singleton, hGroup, hCancel, or_false]
    refine and_congr_right fun _ => or_congr_right (exists_congr fun q => and_congr_right fun hq => ?_)
    rw [List.getElem?_append_left (hPresent q hq)]

/-- A token made later is cancelled if that of the group is. -/
theorem concat (h : Marked events numbers tokens group)
    (hFresh : ∀ q, .cancel q ∈ events → numbers[q]? ≠ some tokens.length) :
    Marked events numbers (tokens ++ [group]) group := by
  obtain ⟨hGroupIff, hPresent, hTokens⟩ := h
  refine ⟨hGroupIff, hPresent, fun n => ?_⟩
  rw [getElem?_concat_eq_some_iff, hTokens, hGroupIff, List.length_append, List.length_singleton]
  constructor
  · rintro (⟨hn, hHit⟩ | ⟨rfl, hHit⟩)
    · exact ⟨Nat.lt_succ_of_lt hn, hHit⟩
    · exact ⟨Nat.lt_succ_self _, .inl hHit⟩
  · rintro ⟨hn, hHit⟩
    rcases Nat.lt_succ_iff_lt_or_eq.1 hn with hOld | rfl
    · exact .inl ⟨hOld, hHit⟩
    · exact .inr ⟨rfl, hHit.resolve_right fun ⟨q, hq, hNumber⟩ => hFresh q hq hNumber⟩

theorem cancel (h : Marked events numbers tokens group) (hi : numbers[i]? = some n) :
    Marked (events ++ [.cancel i]) numbers (tokens.set n true) group := by
  obtain ⟨hGroupIff, hPresent, hTokens⟩ := h
  refine ⟨by simp [hGroupIff], fun q hq => ?_, fun m => ?_⟩
  · rcases List.mem_append.1 hq with hOld | hNew
    · exact hPresent q hOld
    · obtain rfl : q = i := by simpa using hNew
      exact (List.getElem?_eq_some_iff.1 hi).1
  · have hSplit : (∃ q, .cancel q ∈ events ++ [.cancel i] ∧ numbers[q]? = some m) ↔
        (∃ q, .cancel q ∈ events ∧ numbers[q]? = some m) ∨ n = m := by
      simp only [List.mem_append, List.mem_singleton, Event.cancel.injEq, or_and_right, exists_or,
        exists_eq_left, hi, Option.some_inj]
    rw [hSplit, List.getElem?_set, List.length_set, List.mem_append]
    simp only [List.mem_singleton, reduceCtorEq, or_false]
    by_cases hSame : n = m
    · simp [hSame]
    · simp [hSame, hTokens]

theorem cancelGroup (h : Marked events numbers tokens group) :
    Marked (events ++ [.cancelGroup]) numbers (tokens.map fun _ => true) true := by
  refine ⟨by simp, fun q hq => h.present q (by simpa using hq), fun n => ?_⟩
  rw [List.getElem?_map, List.length_map]
  by_cases hn : n < tokens.length <;> simp [hn]

end Marked

theorem Step.length_tokens (h : Step s event s' texts) (hPrior : s.tokens.length = s.begun) :
    s'.tokens.length = s'.begun := by
  cases h <;> simpa using hPrior

theorem Step.marked (h : Step s event s' texts) (hNumbered : Numbered (sources events) s.cycles s.begun)
    (hLength : s.tokens.length = s.begun) (hToken : ∀ c ∈ s.list, c.token = c.cycle)
    (hPrior : Marked events s.cycles s.tokens s.groupCancelled) :
    Marked (events ++ [event]) s'.cycles s'.tokens s'.groupCancelled := by
  cases h with
  | begin crawl =>
      have hFresh (q : Nat) : s.cycles[q]? ≠ some s.tokens.length := fun hq =>
        Nat.lt_irrefl _ (hLength ▸ hNumbered.lt_begun _ (List.mem_of_getElem? hq))
      have hNext := (hPrior.concat fun q _ => hFresh q).later (.begin crawl) (by simp) (by simp) [s.begun]
      simpa [cycles] using hNext
  | @copy i c hi =>
      have hNext := hPrior.later (.copy i) (by simp) (by simp) [c.cycle]
      simpa [cycles] using hNext
  | @annotate i c hi key value =>
      have hNext := hPrior.later (.annotate i key value) (by simp) (by simp) []
      rw [cycles, cycles_set hi]
      simpa using hNext
  | @cancel i c hi =>
      have hNext := hPrior.cancel (cycles_getElem? hi)
      simpa [cycles, hToken c (List.mem_of_getElem? hi)] using hNext
  | cancelGroup => simpa [cycles] using hPrior.cancelGroup

theorem Reached.length_tokens (h : Reached events s) : s.tokens.length = s.begun := by
  induction h with
  | start => rfl
  | step prior last ih => exact (step_of_step? last).length_tokens ih

theorem Reached.token_eq (h : Reached events s) : ∀ c ∈ s.list, c.token = c.cycle := by
  induction h with
  | start => simp
  | step prior last ih =>
      exact (step_of_step? last).forall_mem (fun _ => prior.length_tokens) (fun _ _ _ hc => hc) ih

theorem Reached.marked (h : Reached events s) : Marked events s.cycles s.tokens s.groupCancelled := by
  induction h with
  | start => exact ⟨by simp, by simp, by simp⟩
  | step prior last ih =>
      exact (step_of_step? last).marked prior.numbered prior.length_tokens prior.token_eq ih

theorem isCancelled_iff : s.isCancelled c = true ↔ s.tokens[c.token]? = some true := by
  rw [isCancelled, List.getD_eq_getElem?_getD]
  cases s.tokens[c.token]? <;> simp

/-- A context is cancelled just when the group was cancelled at some time, or a context of its cycle. -/
theorem Reached.isCancelled_iff (h : Reached events s) (hp : s.list[p]? = some c) :
    s.isCancelled c = true ↔
      .cancelGroup ∈ events ∨ ∃ q, .cancel q ∈ events ∧ OfOneCycle events p q := by
  have hMarked := h.marked
  have hBegun := h.length_tokens ▸ h.numbered.lt_begun c.cycle (List.mem_of_getElem? (cycles_getElem? hp))
  rw [Contexts.isCancelled_iff, h.token_eq c (List.mem_of_getElem? hp), hMarked.token_iff,
    and_iff_right hBegun]
  refine or_congr_right (exists_congr fun q => and_congr_right fun hq => ?_)
  obtain ⟨d, hd⟩ : ∃ d, s.list[q]? = some d :=
    ⟨_, List.getElem?_eq_getElem (by simpa [cycles] using hMarked.present q hq)⟩
  rw [cycles_getElem? hd, Option.some_inj, eq_comm, h.cycle_eq_iff hp hd]

/-! ### Annotations -/

/-- The value that an event gives an annotation of a context. -/
def Event.valueAt? (p : Nat) (key : String) : Event → Option String
  | .annotate i k value => if i = p ∧ k = key then some value else none
  | _ => none

/-- The value of an annotation that a context begins with: the one that the copied context has then. -/
def inherited? (s : Contexts) (source : Option Nat) (key : String) : Option String := do
  (← s.list[← source]?).annotation? key

/-- Whether a context has its annotations from when it arose and from later events that annotate it: the
last value given to each, or else the value that it began with. -/
def Arisen (events : List Event) (p : Nat) (value : String → Option String) : Prop :=
  ∃ before event after source s, events = before ++ event :: after ∧ event.source? = some source ∧
    (sources before).length = p ∧ Reached before s ∧
    ∀ key, value key = (after.filterMap (Event.valueAt? p key)).getLast?.or (s.inherited? source key)

variable {value value' : String → Option String}

theorem Reached.arisen (h : Reached events s) (event : Event) (source : Option Nat)
    (hSource : event.source? = some source) (hp : p = s.list.length) :
    Arisen (events ++ [event]) p (s.inherited? source) := by
  refine ⟨events, event, [], source, s, rfl, hSource, ?_, h, fun key => rfl⟩
  rw [h.numbered.length_eq, cycles, List.length_map, hp]

theorem Arisen.concat (h : Arisen events p value)
    (hValue : ∀ key, value' key = (event.valueAt? p key).or (value key)) :
    Arisen (events ++ [event]) p value' := by
  obtain ⟨before, first, after, source, s, rfl, hSource, hp, hReached, hLast⟩ := h
  refine ⟨before, first, after ++ [event], source, s, by simp, hSource, hp, hReached, fun key => ?_⟩
  rw [hValue, hLast, List.filterMap_append, ← Option.or_assoc]
  cases hEvent : event.valueAt? p key <;> simp [hEvent]

theorem Arisen.later (h : Arisen events p value) (hValue : ∀ key, event.valueAt? p key = none) :
    Arisen (events ++ [event]) p value :=
  h.concat fun key => by rw [hValue, Option.none_or]

theorem annotation?_annotate (c : Context) (key value other : String) :
    (c.annotate key value).annotation? other = if key = other then some value else c.annotation? other := by
  split_ifs with hKey
  · exact hKey ▸ Json.lookup_insertField_self key value c.annotations
  · exact Json.lookup_insertField_of_ne (Ne.symm hKey) value c.annotations

/-- A context has the annotations that were given to it alone, and before those the ones of the context it
was copied from. -/
theorem Reached.arisen_annotations (h : Reached events s) (hp : s.list[p]? = some c) :
    Arisen events p c.annotation? := by
  induction h generalizing p c with
  | start => simp at hp
  | @step events event s s' texts prior last ih =>
      cases step_of_step? last with
      | begin crawl =>
          rcases getElem?_concat_eq_some_iff.1 hp with hOld | ⟨hNew, rfl⟩
          · exact (ih hOld).later fun key => rfl
          · exact prior.arisen (.begin crawl) none rfl hNew
      | @copy i c hi =>
          rcases getElem?_concat_eq_some_iff.1 hp with hOld | ⟨hNew, rfl⟩
          · exact (ih hOld).later fun key => rfl
          · have hCopied : s.inherited? (some i) = c.annotation? := by
              funext key
              simp [inherited?, hi]
            exact hCopied ▸ prior.arisen (.copy i) (some i) rfl hNew
      | @annotate i d hi key value =>
          rw [List.getElem?_set] at hp
          split_ifs at hp with hSame hLess
          · obtain rfl := hSame
            obtain rfl := Option.some.inj hp
            refine (ih hi).concat fun other => ?_
            rw [annotation?_annotate]
            by_cases hKey : key = other <;> simp [Event.valueAt?, hKey]
          · exact (ih hp).later fun other => by simp [Event.valueAt?, hSame]
      | cancel hi => exact (ih hp).later fun key => rfl
      | cancelGroup => exact (ih hp).later fun key => rfl

theorem Reached.keysIncrease (h : Reached events s) : ∀ c ∈ s.list, KeysIncrease c.annotations := by
  induction h with
  | start => simp
  | step prior last ih =>
      exact (step_of_step? last).forall_mem (fun _ => List.Pairwise.nil)
        (fun c key value hc => hc.insertField key value) ih

/-! ### Whole histories -/

theorem Descends.append {first : Nat} (h : Descends events first p) (more : List Event) :
    Descends (events ++ more) first p := by
  have hKept {i : Nat} {source : Option Nat} (hi : (sources events)[i]? = some source) :
      (sources (events ++ more))[i]? = some source := by
    rw [sources, List.filterMap_append]
    exact (List.getElem?_append_left (List.getElem?_eq_some_iff.1 hi).1).trans hi
  induction h with
  | begun hFirst => exact .begun (hKept hFirst)
  | copied _ hCopy ih => exact ih.copied (hKept hCopy)

/-- A context stays, and stays cancelled. -/
theorem Reached.isCancelled_append (h : Reached events s) {more : List Event}
    (hMore : Reached (events ++ more) s') (hp : s.list[p]? = some c) :
    ∃ c', s'.list[p]? = some c' ∧ (s.isCancelled c = true → s'.isCancelled c' = true) := by
  have hLess : p < s'.list.length := by
    have hLength := h.numbered.length_eq
    have hLength' := hMore.numbered.length_eq
    have hBefore := (List.getElem?_eq_some_iff.1 hp).1
    simp only [cycles, List.length_map, sources, List.filterMap_append, List.length_append]
      at hLength hLength'
    omega
  refine ⟨_, List.getElem?_eq_getElem hLess, fun hCancelled => ?_⟩
  rw [hMore.isCancelled_iff (List.getElem?_eq_getElem hLess)]
  rcases (h.isCancelled_iff hp).1 hCancelled with hGroup | ⟨q, hq, first, hFirst, hOther⟩
  · exact .inl (List.mem_append_left more hGroup)
  · exact .inr ⟨q, List.mem_append_left more hq, first, hFirst.append more, hOther.append more⟩

/-- After any history of a group, and if no two cycles get one number: the group is cancelled just when it
was cancelled at some time, and a context just when the group or a context of its cycle was, and then it
stays so; contexts share a number just when they descend by copies from the same first one; and each has
the annotations given to it since it arose, the last value of each, over those that the copied context had
then. Cancelling a context cancels neither the group nor another cycle. Annotating one changes no other one,
and records all annotations that it has then, in order of their keys. -/
theorem Reached.tells_history {Id : Type} {ids : Nat → Id} (hIds : Function.Injective ids)
    (h : Reached events s) :
    (s.groupCancelled = true ↔ .cancelGroup ∈ events) ∧
    (∀ p c, s.list[p]? = some c →
      (s.isCancelled c = true ↔
        .cancelGroup ∈ events ∨ ∃ q, .cancel q ∈ events ∧ OfOneCycle events p q) ∧
      (∀ more s', Reached (events ++ more) s' →
        ∃ c', s'.list[p]? = some c' ∧ (s.isCancelled c = true → s'.isCancelled c' = true)) ∧
      (∀ q d, s.list[q]? = some d → (ids c.cycle = ids d.cycle ↔ OfOneCycle events p q)) ∧
      Arisen events p c.annotation?) ∧
    (∀ q s' texts, s.step? (.cancel q) = some (s', texts) →
      s'.groupCancelled = s.groupCancelled ∧ s'.list = s.list ∧
      ∀ p c, s.list[p]? = some c → ¬ OfOneCycle events p q → s'.isCancelled c = s.isCancelled c) ∧
    (∀ q key value s' texts, s.step? (.annotate q key value) = some (s', texts) →
      (∀ p ≠ q, s'.list[p]? = s.list[p]?) ∧
      ∃ c, s'.list[q]? = some c ∧
        texts = [" ".intercalate (c.annotations.map fun (k, v) => k ++ "=" ++ v)] ∧
        KeysIncrease c.annotations ∧ ∀ k v, (k, v) ∈ c.annotations ↔ c.annotation? k = some v) := by
  refine ⟨h.marked.group_iff, fun p c hp => ⟨h.isCancelled_iff hp, fun more s' hMore => ?_,
    fun q d hq => ?_, h.arisen_annotations hp⟩, fun q s' texts hStep => ?_,
    fun q key value s' texts hStep => ?_⟩
  · exact h.isCancelled_append hMore hp
  · rw [hIds.eq_iff]
    exact h.cycle_eq_iff hp hq
  · cases step_of_step? hStep with
    | @cancel _ d hq =>
        refine ⟨rfl, rfl, fun p c hp hApart => ?_⟩
        have hToken : d.token ≠ c.token := by
          rw [h.token_eq d (List.mem_of_getElem? hq), h.token_eq c (List.mem_of_getElem? hp)]
          exact fun hSame => hApart ((h.cycle_eq_iff hp hq).1 hSame.symm)
        rw [isCancelled, isCancelled, List.getD_eq_getElem?_getD, List.getD_eq_getElem?_getD,
          List.getElem?_set_ne hToken]
  · have hNext := h.step hStep
    cases step_of_step? hStep with
    | @annotate _ c hq key value =>
        have hLess := (List.getElem?_eq_some_iff.1 hq).1
        refine ⟨fun p hp => List.getElem?_set_ne (Ne.symm hp), c.annotate key value,
          List.getElem?_set_self hLess, rfl, ?_⟩
        have hKeys := hNext.keysIncrease _ (List.mem_of_getElem? (List.getElem?_set_self hLess))
        exact ⟨hKeys, fun k v => ⟨Json.lookup_of_mem hKeys.nodup, Json.mem_of_lookup⟩⟩

/-- A cycle begins and is annotated, a copy of its context is annotated anew and cancelled, and another
cycle begins. -/
def sharedEvents : List Event :=
  [.begin "pool", .annotate 0 "attempt" "1", .copy 0, .annotate 1 "attempt" "2", .cancel 1, .begin "pool"]

theorem shared_reached : Reached sharedEvents
    { list := [⟨"pool", 0, [("attempt", "1")], 0⟩, ⟨"pool", 0, [("attempt", "2")], 0⟩, ⟨"pool", 1, [], 1⟩]
      begun := 2
      tokens := [true, false] } :=
  .step (.step (.step (.step (.step (.step .start rfl) rfl) rfl) rfl) rfl) rfl

/-- The first context is cancelled with its copy, and the other cycle is not. -/
theorem shared_tells : ∃ s, Reached sharedEvents s ∧ Function.Injective (id : Nat → Nat) ∧
    (s.groupCancelled = true ↔ .cancelGroup ∈ sharedEvents) ∧
    (∀ p c, s.list[p]? = some c →
      (s.isCancelled c = true ↔
        .cancelGroup ∈ sharedEvents ∨ ∃ q, .cancel q ∈ sharedEvents ∧ OfOneCycle sharedEvents p q) ∧
      Arisen sharedEvents p c.annotation?) ∧
    OfOneCycle sharedEvents 0 1 ∧ ¬ OfOneCycle sharedEvents 1 2 := by
  obtain ⟨hGroup, hEach, -, -⟩ := shared_reached.tells_history Function.injective_id
  refine ⟨_, shared_reached, Function.injective_id, hGroup,
    fun p c hp => ⟨(hEach p c hp).1, (hEach p c hp).2.2.2⟩, ?_, ?_⟩
  · exact ((hEach 0 _ rfl).2.2.1 1 _ rfl).1 rfl
  · exact fun h => absurd (((hEach 1 _ rfl).2.2.1 2 _ rfl).2 h) (by decide)

end Lookout.Contexts
