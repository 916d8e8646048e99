import Lookout.Condition.Evaluation
import Lookout.Panic
import Lookout.Proofs.Json.Fields
import Lookout.Proofs.Json.Whole
import Lookout.Proofs.Text.Order
import Mathlib.Data.WSeq.Basic
/-!
Conditions over any query engine. The outputs of its queries may go on for ever, come late or never, and
asking for one may end in a panic. A condition asks every query for the first output only, the check before
the variables and these in order of name, up to the first one that fails.
-/
namespace Lookout

open Stream' (WSeq)
open scoped Computation
open Json (KeyByKey KeysIncrease)

namespace Query

/-- How asking a query for an output ends. -/
abbrev Answer := Ending (Result Json.Value)

/-- A query engine: the outputs of a query over a document. -/
abbrev Engine := Query → Json.Value → WSeq Answer

/-- The text of a first output, when there is one, or why there is none. A panic is told in words. -/
def textOf : Option Answer → Except Stop String
  | none => .ok ""
  | some answer =>
    match answer.guarded with
    | .error message => .error (.panic message)
    | .ok (.error stop) => .error stop
    | .ok (.ok v) => .ok v.normalized.render

/-- The text that outputs give: that of the first one, or the empty text if there is none. -/
inductive Gives (outputs : WSeq Answer) : (text : String) → Prop
  | empty (h : none ∈ outputs.head) : Gives outputs ""
  | first {v : Json.Value} (h : some (.returned (.ok v)) ∈ outputs.head) :
      Gives outputs v.normalized.render

/-- Outputs fail if the first one is an error or a panic. -/
inductive Fails (outputs : WSeq Answer) : (stop : Stop) → Prop
  | error {stop : Stop} (h : some (.returned (.error stop)) ∈ outputs.head) : Fails outputs stop
  | panic {p : Payload} (h : some (.panicked p) ∈ outputs.head) : Fails outputs (.panic p.message)

/-- The outputs of a stream. -/
def Stream.toWSeq : Stream Json.Value → WSeq Answer
  | .nil => .nil
  | .last x => .cons (.returned x) .nil
  | .cons x rest => .cons (.returned x) (rest ()).toWSeq
  | .later next => .think (next ()).toWSeq

/-- The engine of this program. -/
def engine : Engine := fun q document => (q.outputs document).toWSeq

variable {outputs : WSeq Answer} {text : String} {stop : Stop}

theorem ok_mem_map_textOf : .ok text ∈ outputs.head.map textOf ↔ Gives outputs text := by
  constructor
  · intro h
    obtain ⟨answer, hHead, hText⟩ := Computation.exists_of_mem_map h
    rcases answer with _ | ⟨⟨stop⟩ | ⟨v⟩⟩ | p
    · cases hText
      exact .empty hHead
    · cases hText
    · cases hText
      exact .first hHead
    · cases hText
  · rintro (hHead | hHead)
    · exact Computation.mem_map textOf hHead
    · exact Computation.mem_map textOf hHead

theorem error_mem_map_textOf : .error stop ∈ outputs.head.map textOf ↔ Fails outputs stop := by
  constructor
  · intro h
    obtain ⟨answer, hHead, hText⟩ := Computation.exists_of_mem_map h
    rcases answer with _ | ⟨⟨stop⟩ | ⟨v⟩⟩ | p
    · cases hText
    · cases hText
      exact .error hHead
    · cases hText
    · cases hText
      exact .panic hHead
  · rintro (hHead | hHead)
    · exact Computation.mem_map textOf hHead
    · exact Computation.mem_map textOf hHead

theorem Gives.not_fails (hGives : Gives outputs text) : ¬Fails outputs stop := by
  intro hFails
  have hFirst := ok_mem_map_textOf.2 hGives
  cases Computation.mem_unique hFirst (error_mem_map_textOf.2 hFails)

theorem first?_mem_head_toWSeq (s : Stream Json.Value) :
    s.first?.map Ending.returned ∈ s.toWSeq.head := by
  induction s with
  | nil =>
      rw [Stream.toWSeq, WSeq.head_nil]
      exact Computation.ret_mem _
  | last x =>
      rw [Stream.toWSeq, WSeq.head_cons]
      exact Computation.ret_mem _
  | cons x rest =>
      rw [Stream.toWSeq, WSeq.head_cons]
      exact Computation.ret_mem _
  | later next ih =>
      rw [Stream.toWSeq, WSeq.head_think]
      exact Computation.think_mem (ih ())

end Query

namespace Condition

open Query (Answer Engine Gives Fails)

/-! ### Results of work that may not end -/

section Work

variable {ε δ α β : Type} {x : ExceptT ε Computation α} {f : α → ExceptT ε Computation β}

theorem ok_mem_bind {b : β} :
    .ok b ∈ (x >>= f).run ↔ ∃ a, .ok a ∈ x.run ∧ .ok b ∈ (f a).run := by
  constructor
  · intro h
    obtain ⟨e | a, hFirst, hThen⟩ := Computation.exists_of_mem_bind h
    · cases Computation.eq_of_pure_mem hThen
    · exact ⟨a, hFirst, hThen⟩
  · rintro ⟨a, hFirst, hThen⟩
    exact Computation.mem_bind hFirst hThen

theorem error_mem_bind {e : ε} :
    .error e ∈ (x >>= f).run ↔ .error e ∈ x.run ∨ ∃ a, .ok a ∈ x.run ∧ .error e ∈ (f a).run := by
  constructor
  · intro h
    obtain ⟨e | a, hFirst, hThen⟩ := Computation.exists_of_mem_bind h
    · cases Computation.eq_of_pure_mem hThen
      exact .inl hFirst
    · exact .inr ⟨a, hFirst, hThen⟩
  · rintro (hFirst | ⟨a, hFirst, hThen⟩)
    · exact Computation.mem_bind hFirst (Computation.ret_mem _)
    · exact Computation.mem_bind hFirst hThen

theorem ok_mem_adapt {g : ε → δ} {a : α} : .ok a ∈ (x.adapt g).run ↔ .ok a ∈ x.run := by
  constructor
  · intro h
    obtain ⟨e | a, hFirst, hSame⟩ := Computation.exists_of_mem_map h
    · cases hSame
    · cases hSame
      exact hFirst
  · exact Computation.mem_map (Except.mapError g)

theorem error_mem_adapt {g : ε → δ} {d : δ} :
    .error d ∈ (x.adapt g).run ↔ ∃ e, .error e ∈ x.run ∧ d = g e := by
  constructor
  · intro h
    obtain ⟨e | a, hFirst, hSame⟩ := Computation.exists_of_mem_map h
    · cases hSame
      exact ⟨e, hFirst, rfl⟩
    · cases hSame
  · rintro ⟨e, hFirst, rfl⟩
    exact Computation.mem_map (Except.mapError g) hFirst

theorem mem_run_pure {a : α} {r : Except ε α} :
    r ∈ (pure a : ExceptT ε Computation α).run ↔ r = .ok a :=
  Computation.mem_pure_iff _ _

theorem bind_mem {r : Except ε α} {s : α → Except ε β} (hFirst : r ∈ x.run)
    (hThen : ∀ a, s a ∈ (f a).run) : (r >>= s) ∈ (x >>= f).run := by
  cases r with
  | error e => exact error_mem_bind.2 (.inl hFirst)
  | ok a => exact Computation.mem_bind hFirst (hThen a)

theorem mapError_mem {r : Except ε α} (g : ε → δ) (h : r ∈ x.run) : r.mapError g ∈ (x.adapt g).run :=
  Computation.mem_map (Except.mapError g) h

theorem terminates_bind (hFirst : x.run.Terminates) (hThen : ∀ a, (f a).run.Terminates) :
    (x >>= f).run.Terminates := by
  obtain ⟨e | a, h⟩ := (Computation.terminates_iff _).1 hFirst
  · exact Computation.terminates_of_mem (error_mem_bind.2 (.inl h))
  · obtain ⟨e | b, hb⟩ := (Computation.terminates_iff _).1 (hThen a)
    · exact Computation.terminates_of_mem (error_mem_bind.2 (.inr ⟨a, h, hb⟩))
    · exact Computation.terminates_of_mem (ok_mem_bind.2 ⟨a, h, hb⟩)

theorem bind_equiv {y : ExceptT ε Computation α} {g : α → ExceptT ε Computation β} (hFirst : x.run ~ y.run)
    (hThen : ∀ a, (f a).run ~ (g a).run) : (x >>= f).run ~ (y >>= g).run := by
  refine Computation.bind_congr hFirst ?_
  rintro (e | a)
  · exact Computation.Equiv.refl _
  · exact hThen a

end Work

/-! ### A condition over an engine -/

/-- The text of the first output of a query. -/
def textUnder (outputs : Engine) (q : Query) (document : Json.Value) :
    ExceptT Query.Stop Computation String :=
  .mk ((outputs q document).head.map Query.textOf)

/-- The texts of the variables in turn, up to the first failure. -/
def variablesUnder (outputs : Engine) (document : Json.Value) :
    List (String × Query) → ExceptT ApplyError Computation (List (String × String))
  | [] => return []
  | (name, q) :: rest => do
    let text ← (textUnder outputs q document).adapt (.ofVariable name)
    return (name, text) :: (← variablesUnder outputs document rest)

/-- Decides a condition on a document. -/
def applyToUnder (outputs : Engine) (c : Condition) (document : Json.Value) :
    ExceptT ApplyError Computation Outcome := do
  let text ← (textUnder outputs c.check document).adapt .check
  return ⟨isTruthy text.toList, ← variablesUnder outputs document c.bindings⟩

/-- Decides a condition on a response body. -/
def applyUnder (outputs : Engine) (c : Condition) (body : ByteArray) :
    ExceptT ApplyError Computation Outcome :=
  match Json.ofOctets body with
  | .error e => throw (.json e)
  | .ok document => c.applyToUnder outputs document

/-- The queries of a condition. -/
def queries (c : Condition) : List Query := c.check :: c.bindings.map (·.2)

/-- What a condition finds in a body, by the first outputs of its queries. -/
inductive Finds (outputs : Engine) (c : Condition) (body : ByteArray) : (found : Outcome) → Prop
  | intro {document : Json.Value} {text : String} {texts : List (String × String)}
      (hBody : Json.ofOctets body = .ok document) (hCheck : Gives (outputs c.check document) text)
      (hTexts : KeyByKey (fun q => Gives (outputs q document)) c.bindings texts) :
      Finds outputs c body ⟨isTruthy text.toList, texts⟩

/-- Why a condition fails on a body: the body is no document, or else the check fails, or else a variable
does. Of the variables that fail it is the one whose name has the lowest octets. -/
inductive Breaks (outputs : Engine) (c : Condition) (body : ByteArray) : (e : ApplyError) → Prop
  | json {e : Json.ReadError} (hBody : Json.ofOctets body = .error e) : Breaks outputs c body (.json e)
  | check {document : Json.Value} {stop : Query.Stop} (hBody : Json.ofOctets body = .ok document)
      (hCheck : Fails (outputs c.check document) stop) : Breaks outputs c body (.check stop)
  | ofVariable {document : Json.Value} {text name : String} {q : Query} {stop : Query.Stop}
      (hBody : Json.ofOctets body = .ok document) (hCheck : Gives (outputs c.check document) text)
      (hMem : (name, q) ∈ c.bindings) (hFails : Fails (outputs q document) stop)
      (hBelow : ∀ b ∈ c.bindings, Text.octets b.1 < Text.octets name →
        ∃ text, Gives (outputs b.2 document) text) :
      Breaks outputs c body (.ofVariable name stop)

variable {outputs others : Engine} {c : Condition} {q : Query} {document : Json.Value} {body : ByteArray}
  {text : String} {stop : Query.Stop} {bindings : List (String × Query)} {texts : List (String × String)}
  {e : ApplyError} {found : Outcome}

theorem ok_mem_textUnder : .ok text ∈ (textUnder outputs q document).run ↔ Gives (outputs q document) text :=
  Query.ok_mem_map_textOf

theorem error_mem_textUnder :
    .error stop ∈ (textUnder outputs q document).run ↔ Fails (outputs q document) stop :=
  Query.error_mem_map_textOf

theorem ok_mem_variablesUnder :
    .ok texts ∈ (variablesUnder outputs document bindings).run ↔
      KeyByKey (fun q => Gives (outputs q document)) bindings texts := by
  unfold KeyByKey
  induction bindings generalizing texts with
  | nil =>
      rw [variablesUnder, mem_run_pure, List.forall₂_nil_left_iff]
      exact ⟨Except.ok.inj, congrArg _⟩
  | cons b rest ih =>
      obtain ⟨name, q⟩ := b
      simp only [variablesUnder, ok_mem_bind, ok_mem_adapt, ok_mem_textUnder, mem_run_pure, ih,
        Except.ok.injEq, List.forall₂_cons_left_iff]
      constructor
      · rintro ⟨text, hText, texts, hRest, rfl⟩
        exact ⟨(name, text), texts, ⟨rfl, hText⟩, hRest, rfl⟩
      · rintro ⟨⟨_, text⟩, texts, ⟨rfl, hText⟩, hRest, rfl⟩
        exact ⟨text, hText, texts, hRest, rfl⟩

/-- The first variable that fails is the one that is told. -/
theorem error_mem_variablesUnder :
    .error e ∈ (variablesUnder outputs document bindings).run ↔
      ∃ before name q rest stop, bindings = before ++ (name, q) :: rest ∧
        (∀ b ∈ before, ∃ text, Gives (outputs b.2 document) text) ∧
        Fails (outputs q document) stop ∧ e = .ofVariable name stop := by
  induction bindings with
  | nil =>
      rw [variablesUnder, mem_run_pure]
      simp
  | cons b rest ih =>
      obtain ⟨name, q⟩ := b
      -- Either this variable fails, or it gives a text and one of the rest fails.
      simp only [variablesUnder, error_mem_bind, error_mem_adapt, ok_mem_adapt, ok_mem_textUnder,
        error_mem_textUnder, mem_run_pure, ih, reduceCtorEq, and_false, exists_false, or_false]
      constructor
      · rintro (⟨stop, hFails, rfl⟩ |
          ⟨text, hText, before, name', q', rest, stop, rfl, hBefore, hFails, rfl⟩)
        · exact ⟨[], name, q, rest, stop, rfl, List.forall_mem_nil _, hFails, rfl⟩
        · exact ⟨(name, q) :: before, name', q', rest, stop, rfl,
            List.forall_mem_cons.2 ⟨⟨text, hText⟩, hBefore⟩, hFails, rfl⟩
      · rintro ⟨before, name', q', rest', stop, hSplit, hBefore, hFails, rfl⟩
        cases before with
        | nil =>
            cases hSplit
            exact .inl ⟨stop, hFails, rfl⟩
        | cons b before =>
            cases hSplit
            obtain ⟨⟨text, hText⟩, hBefore⟩ := List.forall_mem_cons.1 hBefore
            exact .inr ⟨text, hText, before, name', q', rest', stop, rfl, hBefore, hFails, rfl⟩

/-! ### Success and failure -/

theorem ok_mem_applyUnder : .ok found ∈ (applyUnder outputs c body).run ↔ Finds outputs c body found := by
  unfold applyUnder
  cases hBody : Json.ofOctets body with
  | error e =>
      refine iff_of_false (fun h => ?_) fun h => ?_
      · cases Computation.eq_of_pure_mem h
      · cases h with
        | intro hRead => cases hBody.symm.trans hRead
  | ok document =>
      simp only [applyToUnder, ok_mem_bind, ok_mem_adapt, ok_mem_textUnder, ok_mem_variablesUnder,
        mem_run_pure, Except.ok.injEq]
      constructor
      · rintro ⟨text, hText, texts, hTexts, rfl⟩
        exact .intro hBody hText hTexts
      · rintro ⟨hRead, hText, hTexts⟩
        cases hBody.symm.trans hRead
        exact ⟨_, hText, _, hTexts, rfl⟩

/-- Of variables in order of name those that stand before one are those with names of lower octets. -/
theorem mem_before_iff {before rest : List (String × Query)} {name : String}
    (hNames : KeysIncrease (before ++ (name, q) :: rest)) {b : String × Query}
    (hMem : b ∈ before ++ (name, q) :: rest) :
    b ∈ before ↔ Text.octets b.1 < Text.octets name := by
  obtain ⟨-, hRest, hBefore⟩ := List.pairwise_append.1 hNames
  constructor
  · exact fun h => Text.octets_lt (hBefore b h _ List.mem_cons_self)
  · intro hLt
    rcases List.mem_append.1 hMem with h | h
    · exact h
    · rcases List.mem_cons.1 h with rfl | h
      · exact absurd hLt (lt_irrefl _)
      · exact absurd hLt (Text.octets_lt ((List.pairwise_cons.1 hRest).1 b h)).not_gt

theorem error_mem_applyUnder (hNames : KeysIncrease c.bindings) :
    .error e ∈ (applyUnder outputs c body).run ↔ Breaks outputs c body e := by
  unfold applyUnder
  cases hBody : Json.ofOctets body with
  | error fault =>
      constructor
      · intro h
        cases Computation.eq_of_pure_mem h
        exact .json hBody
      · rintro (hRead | ⟨hRead, -⟩ | ⟨hRead, -⟩) <;> cases hBody.symm.trans hRead
        exact Computation.ret_mem _
  | ok document =>
      simp only [applyToUnder, error_mem_bind, error_mem_adapt, ok_mem_adapt, ok_mem_textUnder,
        error_mem_textUnder, error_mem_variablesUnder, mem_run_pure, reduceCtorEq, and_false, exists_false,
        or_false]
      constructor
      · rintro (⟨stop, hFails, rfl⟩ |
          ⟨text, hText, before, name, q, rest, stop, hSplit, hBefore, hFails, rfl⟩)
        · exact .check hBody hFails
        · refine .ofVariable hBody hText (hSplit ▸ List.mem_append_cons_self) hFails fun b hMem hLt => ?_
          rw [hSplit] at hMem hNames
          exact hBefore b ((mem_before_iff hNames hMem).2 hLt)
      · rintro (hRead | ⟨hRead, hFails⟩ | @⟨_, text, name, q, stop, hRead, hText, hMem, hFails, hBelow⟩) <;>
          cases hBody.symm.trans hRead
        · exact .inl ⟨_, hFails, rfl⟩
        · obtain ⟨before, rest, hSplit⟩ := List.append_of_mem hMem
          refine .inr ⟨text, hText, before, name, q, rest, stop, hSplit, fun b hb => ?_, hFails, rfl⟩
          rw [hSplit] at hNames hBelow
          have hAmong := List.mem_append_left ((name, q) :: rest) hb
          exact hBelow b hAmong ((mem_before_iff hNames hAmong).1 hb)

/-- Whether every query of a condition, asked for its first output over the document in a body, comes to
an answer. -/
def Answered (outputs : Engine) (c : Condition) (body : ByteArray) : Prop :=
  ∀ document, Json.ofOctets body = .ok document →
    ∀ q ∈ c.queries, (outputs q document).head.Terminates

theorem check_mem_queries (c : Condition) : c.check ∈ c.queries := List.mem_cons_self

theorem variable_mem_queries {b : String × Query} (h : b ∈ c.bindings) : b.2 ∈ c.queries :=
  List.mem_cons_of_mem _ (List.mem_map_of_mem h)

theorem terminates_adapt_textUnder {ε : Type} (g : Query.Stop → ε)
    (h : (outputs q document).head.Terminates) :
    ((textUnder outputs q document).adapt g).run.Terminates :=
  (Computation.terminates_map_iff _ _).2 ((Computation.terminates_map_iff _ _).2 h)

theorem terminates_variablesUnder (h : ∀ b ∈ bindings, (outputs b.2 document).head.Terminates) :
    (variablesUnder outputs document bindings).run.Terminates := by
  induction bindings with
  | nil => exact Computation.ret_terminates _
  | cons b rest ih =>
      obtain ⟨hFirst, hRest⟩ := List.forall_mem_cons.1 h
      exact terminates_bind (terminates_adapt_textUnder _ hFirst) fun text =>
        terminates_bind (ih hRest) fun texts => Computation.ret_terminates _

theorem terminates_applyUnder (h : Answered outputs c body) : (applyUnder outputs c body).run.Terminates := by
  unfold applyUnder
  cases hBody : Json.ofOctets body with
  | error e => exact Computation.ret_terminates _
  | ok document =>
      have hQueries := h document hBody
      exact terminates_bind (terminates_adapt_textUnder _ (hQueries _ c.check_mem_queries)) fun text =>
        terminates_bind (terminates_variablesUnder fun b hb => hQueries _ (variable_mem_queries hb))
          fun texts => Computation.ret_terminates _

/-- If every query comes to an answer, a condition fails only by an error or a panic that is a first
output. -/
theorem exists_finds_iff (hNames : KeysIncrease c.bindings) (hAnswered : Answered outputs c body) :
    (∃ found, Finds outputs c body found) ↔ ∃ document, Json.ofOctets body = .ok document ∧
      ∀ q ∈ c.queries, ∀ stop, ¬Fails (outputs q document) stop := by
  constructor
  · rintro ⟨_, @⟨document, text, texts, hBody, hCheck, hTexts⟩⟩
    refine ⟨document, hBody, List.forall_mem_cons.2 ⟨fun stop => hCheck.not_fails, fun q hq stop => ?_⟩⟩
    obtain ⟨b, hb, rfl⟩ := List.mem_map.1 hq
    obtain ⟨text, hText⟩ := hTexts.exists_of_mem b hb
    exact hText.not_fails
  · rintro ⟨document, hBody, hNone⟩
    obtain ⟨e | found, hResult⟩ := (Computation.terminates_iff _).1 (terminates_applyUnder hAnswered)
    · cases (error_mem_applyUnder hNames).1 hResult with
      | json hRead => cases hBody.symm.trans hRead
      | check hRead hFails =>
          cases hBody.symm.trans hRead
          exact absurd hFails (hNone _ c.check_mem_queries _)
      | ofVariable hRead _ hMem hFails _ =>
          cases hBody.symm.trans hRead
          exact absurd hFails (hNone _ (variable_mem_queries hMem) _)
    · exact ⟨found, ok_mem_applyUnder.1 hResult⟩

/-! ### First outputs that agree -/

theorem variablesUnder_equiv
    (h : ∀ b ∈ bindings, (others b.2 document).head ~ (outputs b.2 document).head) :
    (variablesUnder others document bindings).run ~ (variablesUnder outputs document bindings).run := by
  induction bindings with
  | nil => exact Computation.Equiv.refl _
  | cons b rest ih =>
      obtain ⟨hFirst, hRest⟩ := List.forall_mem_cons.1 h
      exact bind_equiv (Computation.map_congr (Computation.map_congr hFirst)) fun text =>
        bind_equiv (ih hRest) fun texts => Computation.Equiv.refl _

theorem applyUnder_equiv (h : ∀ document, Json.ofOctets body = .ok document →
      ∀ q ∈ c.queries, (others q document).head ~ (outputs q document).head) :
    (applyUnder others c body).run ~ (applyUnder outputs c body).run := by
  unfold applyUnder
  cases hBody : Json.ofOctets body with
  | error e => exact Computation.Equiv.refl _
  | ok document =>
      have hQueries := h document hBody
      have hCheck := hQueries _ c.check_mem_queries
      exact bind_equiv (Computation.map_congr (Computation.map_congr hCheck)) fun text =>
        bind_equiv (variablesUnder_equiv fun b hb => hQueries _ (variable_mem_queries hb)) fun texts =>
          Computation.Equiv.refl _

/-! ### The engine of this program -/

theorem applyVariables_cons (document : Json.Value) (name : String) (q : Query)
    (rest : List (String × Query)) :
    applyVariables document ((name, q) :: rest) = do
      let text ← (firstText q document).mapError (.ofVariable name)
      return (name, text) :: (← applyVariables document rest) := by
  rw [applyVariables]
  cases firstText q document with
  | error stop => rfl
  | ok text => cases applyVariables document rest <;> rfl

theorem applyTo_eq (c : Condition) (document : Json.Value) :
    c.applyTo document = do
      let text ← (firstText c.check document).mapError .check
      return ⟨isTruthy text.toList, ← applyVariables document c.bindings⟩ := by
  rw [applyTo]
  cases firstText c.check document with
  | error stop => rfl
  | ok text => cases applyVariables document c.bindings <;> rfl

theorem firstText_mem (q : Query) (document : Json.Value) :
    firstText q document ∈ (textUnder Query.engine q document).run := by
  have hFirst := Computation.mem_map Query.textOf (Query.first?_mem_head_toWSeq (q.outputs document))
  unfold firstText Query.first
  rcases hOutput : (q.outputs document).first? with _ | e | v <;> rw [hOutput] at hFirst <;> exact hFirst

theorem applyVariables_mem (document : Json.Value) (bindings : List (String × Query)) :
    applyVariables document bindings ∈ (variablesUnder Query.engine document bindings).run := by
  induction bindings with
  | nil => exact Computation.ret_mem _
  | cons b rest ih =>
      rw [applyVariables_cons]
      exact bind_mem (mapError_mem _ (firstText_mem b.2 document)) fun text =>
        bind_mem ih fun texts => Computation.ret_mem _

/-- What the condition of this program says is what it says over the engine of this program. -/
theorem mem_applyUnder_engine {result : Except ApplyError Outcome} :
    result ∈ (applyUnder Query.engine c body).run ↔ result = c.apply body := by
  suffices hApply : c.apply body ∈ (applyUnder Query.engine c body).run by
    exact ⟨fun h => Computation.mem_unique h hApply, fun h => h ▸ hApply⟩
  unfold apply applyUnder
  cases Json.ofOctets body with
  | error e => exact Computation.ret_mem _
  | ok document =>
      simp only [applyTo_eq]
      exact bind_mem (mapError_mem _ (firstText_mem c.check document)) fun text =>
        bind_mem (applyVariables_mem document c.bindings) fun texts => Computation.ret_mem _

/-! ### The first outputs decide -/

/-- Over any engine a condition finds something exactly if the body is a document and no query has an
error or a panic for its first output, and it finds the texts of the first outputs; else it tells the
fault of the body, that of the check, or that of the variable whose name is the lowest of those that fail.
Engines whose first outputs agree lead to the same result, and the result over the engine of this program
is that of this program. -/
theorem applyUnder_by_first_outputs (hNames : KeysIncrease c.bindings) (outputs : Engine)
    (body : ByteArray) :
    (∀ found, .ok found ∈ (applyUnder outputs c body).run ↔ Finds outputs c body found) ∧
    (∀ e, .error e ∈ (applyUnder outputs c body).run ↔ Breaks outputs c body e) ∧
    (Answered outputs c body →
      (applyUnder outputs c body).run.Terminates ∧
      ((∃ found, Finds outputs c body found) ↔ ∃ document, Json.ofOctets body = .ok document ∧
        ∀ q ∈ c.queries, ∀ stop, ¬Fails (outputs q document) stop)) ∧
    (∀ others : Engine, (∀ document, Json.ofOctets body = .ok document →
        ∀ q ∈ c.queries, (others q document).head ~ (outputs q document).head) →
      (applyUnder others c body).run ~ (applyUnder outputs c body).run) ∧
    ∀ result, result ∈ (applyUnder Query.engine c body).run ↔ result = c.apply body :=
  ⟨fun _ => ok_mem_applyUnder, fun _ => error_mem_applyUnder hNames,
    fun h => ⟨terminates_applyUnder h, exists_finds_iff hNames h⟩, fun _ => applyUnder_equiv,
    fun _ => mem_applyUnder_engine⟩

/-- Outputs of which the first one never comes. -/
def silence : WSeq Answer := Stream'.Seq.ofStream (Stream'.const none)

/-- An engine where one query has a single output but never tells that it was the last one, one panics
after a while, and no other has an output. -/
def unevenEngine : Engine := fun q _ =>
  if q.source = "true, repeat" then .cons (.returned (.ok (.bool true))) silence
  else if q.source = "late" then .think (.cons (.panicked (.text "overflow")) silence)
  else .nil

/-- The condition with the first of three variables, or with all of them: the two others fail. -/
def unevenCondition (all : Bool) : Condition where
  check := ⟨"true, repeat", .identity⟩
  bindings := ("A", ⟨"empty", .identity⟩) ::
    if all then [("LATE", ⟨"late", .identity⟩), ("LATER", ⟨"late", .identity⟩)] else []

/-- Of two variables that fail the lower one is told; without them there is a match, although it never
turns out whether the check has more outputs. -/
theorem unevenCondition_outcomes :
    (∀ all, KeysIncrease (unevenCondition all).bindings) ∧
    .error (.ofVariable "LATE" (.panic "overflow")) ∈
      (applyUnder unevenEngine (unevenCondition true) "5".toUTF8).run ∧
    .ok ⟨true, [("A", "")]⟩ ∈ (applyUnder unevenEngine (unevenCondition false) "5".toUTF8).run := by
  have hBody : Json.ofOctets "5".toUTF8 = .ok (.number (.int 5)) :=
    Json.ofOctets_whole (n := 5) (by decide)
  have hCheck : Gives (unevenEngine ⟨"true, repeat", .identity⟩ (.number (.int 5))) "true" := by
    refine Query.Gives.first (v := .bool true) ?_
    rw [unevenEngine, if_pos rfl, WSeq.head_cons]
    exact Computation.ret_mem _
  have hNone : Gives (unevenEngine ⟨"empty", .identity⟩ (.number (.int 5))) "" := by
    refine .empty ?_
    rw [unevenEngine, if_neg (by decide), if_neg (by decide), WSeq.head_nil]
    exact Computation.ret_mem _
  have hLate : Fails (unevenEngine ⟨"late", .identity⟩ (.number (.int 5))) (.panic "overflow") := by
    refine Query.Fails.panic (p := .text "overflow") ?_
    rw [unevenEngine, if_neg (by decide), if_pos rfl, WSeq.head_think, WSeq.head_cons]
    exact Computation.think_mem (Computation.ret_mem _)
  have hNames (all : Bool) : KeysIncrease (unevenCondition all).bindings := by
    unfold KeysIncrease
    revert all
    decide
  have hBreaks : Breaks unevenEngine (unevenCondition true) "5".toUTF8
      (.ofVariable "LATE" (.panic "overflow")) := by
    refine .ofVariable hBody hCheck (List.mem_cons_of_mem _ List.mem_cons_self) hLate fun b hb hBelow => ?_
    have hParts : KeysIncrease ([("A", Query.mk "empty" .identity)] ++
        ("LATE", .mk "late" .identity) :: [("LATER", .mk "late" .identity)]) := hNames true
    cases List.mem_singleton.1 ((mem_before_iff hParts hb).2 hBelow)
    exact ⟨"", hNone⟩
  have hTexts : KeyByKey (fun q => Gives (unevenEngine q (.number (.int 5))))
      (unevenCondition false).bindings [("A", "")] :=
    .cons ⟨rfl, hNone⟩ .nil
  have hFinds : Finds unevenEngine (unevenCondition false) "5".toUTF8
      ⟨isTruthy "true".toList, [("A", "")]⟩ := .intro hBody hCheck hTexts
  exact ⟨hNames, ((applyUnder_by_first_outputs (hNames true) _ _).2.1 _).2 hBreaks,
    ((applyUnder_by_first_outputs (hNames false) _ _).1 _).2 hFinds⟩

end Condition

end Lookout
