import Lookout.Pipeline.Plan
import Lookout.Proofs.Text.Order
import Mathlib.Data.Prod.Lex
/-!
What can be wrong with a crawl, and which of several faults is told: a crawl that cannot be made ready
tells the first of its faults in the order of method, address, header fields and queries, where header
fields and variables are in the order of their octets.
-/
namespace Lookout.Pipeline

open Http (RequestError isToken isHeaderName isHeaderValue)
open Text (octets)

/-! ### Faults -/

/-- What is wrong with a crawl. -/
inductive Fault (c : Config.Crawl) : PlanError → Prop
  | method : isToken c.target.method = false → Fault c (.request c.name (.method c.target.method))
  | url {e : Url.ParseError} :
    Url.parse c.target.url = .error e → Fault c (.request c.name (.url c.target.url e))
  | headerName {name value : String} :
    (name, value) ∈ c.target.header → isHeaderName name = false →
      Fault c (.request c.name (.headerName name))
  | headerValue {name value : String} :
    (name, value) ∈ c.target.header → isHeaderValue value = false →
      Fault c (.request c.name (.headerValue name))
  | check {e : Query.CompileError} :
    Query.compile c.query.check = .error e → Fault c (.query c.name (.check e))
  | ofVariable {name source : String} {e : Query.CompileError} :
    (name, source) ∈ c.query.bindings → Query.compile source = .error e →
      Fault c (.query c.name (.ofVariable name e))

/-- Where a fault is looked for: the part of the crawl, the name in it and the side of that name. -/
def PlanError.place : PlanError → Nat ×ₗ List Nat ×ₗ Nat
  | .request _ (.method _) => toLex (0, toLex ([], 0))
  | .request _ (.url _ _) => toLex (1, toLex ([], 0))
  | .request _ (.headerName name) => toLex (2, toLex (octets name, 0))
  | .request _ (.headerValue name) => toLex (2, toLex (octets name, 1))
  | .query _ (.check _) => toLex (3, toLex ([], 0))
  | .query _ (.ofVariable name _) => toLex (4, toLex (octets name, 0))

/-- What is wrong with a crawl before anything else is. -/
structure FirstFault (c : Config.Crawl) (e : PlanError) : Prop where
  fault : Fault c e
  first : ∀ f, Fault c f → f ≠ e → e.place < f.place

/-- Whether the names of header fields and of variables increase, as they do in a mapping. -/
structure IsOrdered (c : Config.Crawl) : Prop where
  header : c.target.header.Pairwise (·.1 < ·.1)
  bindings : c.query.bindings.Pairwise (·.1 < ·.1)

/-! ### All faults in turn -/

/-- Whether a result tells the first of some faults, or is a success when there are none. -/
def Tells {ε α : Type} (faults : List ε) : Except ε α → Prop
  | .ok _ => faults = []
  | .error e => faults.head? = some e

/-- The faults of a header field: its name comes before its value. -/
def headerFaults (field : String × String) : List RequestError :=
  (if isHeaderName field.1 then [] else [.headerName field.1]) ++
    if isHeaderValue field.2 then [] else [.headerValue field.1]

/-- The faults of a target in turn. -/
def targetFaults (t : Config.HttpTarget) : List RequestError :=
  (if isToken t.method then [] else [.method t.method]) ++
    ((match Url.parse t.url with
      | .ok _ => []
      | .error e => [.url t.url e]) ++
    t.header.flatMap headerFaults)

/-- The faults of a variable. -/
def variableFaults (binding : String × String) : List Condition.SetupError :=
  match Query.compile binding.2 with
  | .ok _ => []
  | .error e => [.ofVariable binding.1 e]

/-- The faults of queries in turn. -/
def queryFaults (q : Config.QueryTexts) : List Condition.SetupError :=
  (match Query.compile q.check with
    | .ok _ => []
    | .error e => [.check e]) ++
  q.bindings.flatMap variableFaults

/-- The faults of a crawl in turn. -/
def faults (c : Config.Crawl) : List PlanError :=
  (targetFaults c.target).map (.request c.name) ++ (queryFaults c.query).map (.query c.name)

variable {c : Config.Crawl} {e : PlanError}

theorem mem_headerFaults {field : String × String} {f : RequestError} :
    f ∈ headerFaults field ↔ (isHeaderName field.1 = false ∧ f = .headerName field.1) ∨
      (isHeaderValue field.2 = false ∧ f = .headerValue field.1) := by
  unfold headerFaults
  cases isHeaderName field.1 <;> cases isHeaderValue field.2 <;> simp

theorem mem_variableFaults {binding : String × String} {f : Condition.SetupError} :
    f ∈ variableFaults binding ↔
      ∃ e, Query.compile binding.2 = .error e ∧ f = .ofVariable binding.1 e := by
  unfold variableFaults
  cases Query.compile binding.2 <;> simp

theorem fault_of_mem_targetFaults {f : RequestError} (h : f ∈ targetFaults c.target) :
    Fault c (.request c.name f) := by
  rcases List.mem_append.1 h with hMethod | hRest
  · split at hMethod
    · cases hMethod
    · rename_i hToken
      rw [List.mem_singleton.1 hMethod]
      exact .method (Bool.eq_false_of_not_eq_true hToken)
  · rcases List.mem_append.1 hRest with hUrl | hHeader
    · split at hUrl
      · cases hUrl
      · rename_i hParse
        rw [List.mem_singleton.1 hUrl]
        exact .url hParse
    · obtain ⟨field, hField, hIn⟩ := List.mem_flatMap.1 hHeader
      rcases mem_headerFaults.1 hIn with ⟨hName, rfl⟩ | ⟨hValue, rfl⟩
      · exact .headerName hField hName
      · exact .headerValue hField hValue

theorem fault_of_mem_queryFaults {f : Condition.SetupError} (h : f ∈ queryFaults c.query) :
    Fault c (.query c.name f) := by
  rcases List.mem_append.1 h with hCheck | hVariables
  · split at hCheck
    · cases hCheck
    · rename_i hCompile
      rw [List.mem_singleton.1 hCheck]
      exact .check hCompile
  · obtain ⟨binding, hBinding, hIn⟩ := List.mem_flatMap.1 hVariables
    obtain ⟨e, hCompile, rfl⟩ := mem_variableFaults.1 hIn
    exact .ofVariable hBinding hCompile

theorem mem_faults : e ∈ faults c ↔ Fault c e := by
  constructor
  · intro h
    rcases List.mem_append.1 h with hTarget | hQuery
    · obtain ⟨f, hf, rfl⟩ := List.mem_map.1 hTarget
      exact fault_of_mem_targetFaults hf
    · obtain ⟨f, hf, rfl⟩ := List.mem_map.1 hQuery
      exact fault_of_mem_queryFaults hf
  · intro h
    unfold faults targetFaults queryFaults
    cases h with
    | method hToken => simp [hToken]
    | url hParse => simp [hParse]
    | headerName hField hName =>
        have hIn := List.mem_flatMap.2 ⟨_, hField, mem_headerFaults.2 (.inl ⟨hName, rfl⟩)⟩
        exact List.mem_append_left _
          (List.mem_map_of_mem (List.mem_append_right _ (List.mem_append_right _ hIn)))
    | headerValue hField hValue =>
        have hIn := List.mem_flatMap.2 ⟨_, hField, mem_headerFaults.2 (.inr ⟨hValue, rfl⟩)⟩
        exact List.mem_append_left _
          (List.mem_map_of_mem (List.mem_append_right _ (List.mem_append_right _ hIn)))
    | check hCompile => simp [hCompile]
    | ofVariable hBinding hCompile =>
        have hIn := List.mem_flatMap.2 ⟨_, hBinding, mem_variableFaults.2 ⟨_, hCompile, rfl⟩⟩
        exact List.mem_append_right _ (List.mem_map_of_mem (List.mem_append_right _ hIn))

/-- The part of the crawl that a fault is in. -/
abbrev PlanError.part (e : PlanError) : Nat := (ofLex e.place).1

theorem place_lt_of_part {e f : PlanError} (h : e.part < f.part) : e.place < f.place :=
  Prod.Lex.lt_iff.2 (.inl h)

theorem place_lt_of_name {part i j : Nat} {a b : String} (h : a < b) :
    toLex (part, toLex (octets a, i)) < toLex (part, toLex (octets b, j)) :=
  Prod.Lex.toLex_lt_toLex.2 (.inr ⟨rfl, Prod.Lex.toLex_lt_toLex.2 (.inl (Text.octets_lt h))⟩)

theorem headerFaults_ordered (crawl : String) {header : List (String × String)}
    (h : header.Pairwise (·.1 < ·.1)) :
    (header.flatMap headerFaults).Pairwise fun f g =>
      (PlanError.request crawl f).place < (PlanError.request crawl g).place := by
  refine List.pairwise_flatMap.2 ⟨fun field _ => ?_, h.imp fun {first later} hNames f hf g hg => ?_⟩
  · unfold headerFaults
    cases isHeaderName field.1 <;> cases isHeaderValue field.2 <;> simp [PlanError.place]
    exact Prod.Lex.toLex_lt_toLex.2 (.inr ⟨rfl, Prod.Lex.toLex_lt_toLex.2 (.inr ⟨rfl, Nat.one_pos⟩)⟩)
  · rcases mem_headerFaults.1 hf with ⟨-, rfl⟩ | ⟨-, rfl⟩ <;>
      rcases mem_headerFaults.1 hg with ⟨-, rfl⟩ | ⟨-, rfl⟩ <;>
      exact place_lt_of_name hNames

theorem part_of_mem_headerFaults {crawl : String} {header : List (String × String)} {f : RequestError}
    (h : f ∈ header.flatMap headerFaults) : (PlanError.request crawl f).part = 2 := by
  obtain ⟨field, -, hIn⟩ := List.mem_flatMap.1 h
  rcases mem_headerFaults.1 hIn with ⟨-, rfl⟩ | ⟨-, rfl⟩ <;> rfl

theorem targetFaults_ordered {crawl : String} {t : Config.HttpTarget}
    (h : t.header.Pairwise (·.1 < ·.1)) :
    (targetFaults t).Pairwise fun f g =>
      (PlanError.request crawl f).place < (PlanError.request crawl g).place := by
  have hHeader := headerFaults_ordered crawl h
  have hBefore (e : PlanError) (he : e.part < 2) :
      ∀ f ∈ t.header.flatMap headerFaults, e.place < (PlanError.request crawl f).place :=
    fun f hf => place_lt_of_part (he.trans_eq (part_of_mem_headerFaults hf).symm)
  unfold targetFaults
  cases isToken t.method <;> cases Url.parse t.url
  all_goals
    simp only [Bool.false_eq_true, if_false, if_true, List.nil_append, List.cons_append,
      List.pairwise_cons, List.forall_mem_cons]
  · exact ⟨⟨place_lt_of_part Nat.one_pos, hBefore _ Nat.two_pos⟩, hBefore _ Nat.one_lt_two, hHeader⟩
  · exact ⟨hBefore _ Nat.two_pos, hHeader⟩
  · exact ⟨hBefore _ Nat.one_lt_two, hHeader⟩
  · exact hHeader

theorem queryFaults_ordered {crawl : String} {q : Config.QueryTexts}
    (h : q.bindings.Pairwise (·.1 < ·.1)) :
    (queryFaults q).Pairwise fun f g =>
      (PlanError.query crawl f).place < (PlanError.query crawl g).place := by
  have hVariables : (q.bindings.flatMap variableFaults).Pairwise fun f g =>
      (PlanError.query crawl f).place < (PlanError.query crawl g).place := by
    refine List.pairwise_flatMap.2 ⟨fun binding _ => ?_, h.imp fun {first later} hNames f hf g hg => ?_⟩
    · unfold variableFaults
      cases Query.compile binding.2 <;> simp
    · obtain ⟨_, -, rfl⟩ := mem_variableFaults.1 hf
      obtain ⟨_, -, rfl⟩ := mem_variableFaults.1 hg
      exact place_lt_of_name hNames
  unfold queryFaults
  cases Query.compile q.check with
  | ok check => exact hVariables
  | error e =>
      refine List.pairwise_cons.2 ⟨fun f hf => place_lt_of_part ?_, hVariables⟩
      obtain ⟨binding, -, hIn⟩ := List.mem_flatMap.1 hf
      obtain ⟨_, -, rfl⟩ := mem_variableFaults.1 hIn
      exact Nat.lt_succ_self 3

/-- The faults of a crawl are looked for in the order of their places. -/
theorem faults_ordered (h : IsOrdered c) : (faults c).Pairwise (·.place < ·.place) := by
  refine List.pairwise_append.2 ⟨List.pairwise_map.2 (targetFaults_ordered h.header),
    List.pairwise_map.2 (queryFaults_ordered h.bindings), fun f hf g hg => place_lt_of_part ?_⟩
  obtain ⟨f, -, rfl⟩ := List.mem_map.1 hf
  obtain ⟨g, -, rfl⟩ := List.mem_map.1 hg
  have hTarget : (PlanError.request c.name f).part ≤ 2 := by
    cases f <;> simp [PlanError.part, PlanError.place]
  have hQuery : 3 ≤ (PlanError.query c.name g).part := by
    cases g <;> simp [PlanError.part, PlanError.place]
  exact hTarget.trans_lt hQuery

/-! ### The fault that is told -/

namespace Tells
variable {ε δ α β : Type} {first later : List ε} {e : ε} {a : α}

theorem map (f : ε → δ) : {r : Except ε α} → Tells first r → Tells (first.map f) (r.mapError f)
  | .ok _, h => by rw [show first = [] from h]; rfl
  | .error e, h => by
      obtain ⟨more, rfl⟩ := List.head?_eq_some_iff.1 h
      rfl

theorem append (h : Tells first (.error e : Except ε α)) (later : List ε) :
    Tells (first ++ later) (.error e : Except ε β) := by
  obtain ⟨more, rfl⟩ := List.head?_eq_some_iff.1 h
  rfl

theorem behind {r : Except ε β} (hLater : Tells later r) (hFirst : Tells first (.ok a : Except ε α)) :
    Tells (first ++ later) r := by
  rwa [show first = [] from hFirst, List.nil_append]

end Tells

theorem tells_addHeaders (done header : List (String × String)) :
    Tells (header.flatMap headerFaults) (Http.addHeaders done header) := by
  induction header generalizing done with
  | nil => rfl
  | cons field header ih =>
      rw [Http.addHeaders, List.flatMap_cons, headerFaults]
      cases isHeaderName field.1 with
      | false => rfl
      | true =>
          cases isHeaderValue field.2 with
          | false => rfl
          | true => exact ih _

theorem tells_ofTarget (t : Config.HttpTarget) : Tells (targetFaults t) (Http.Request.ofTarget t) := by
  have hHeaders := tells_addHeaders [] t.header
  revert hHeaders
  unfold Http.Request.ofTarget targetFaults
  cases isToken t.method with
  | false => exact fun _ => rfl
  | true =>
      cases Url.parse t.url with
      | error e => exact fun _ => rfl
      | ok url =>
          cases Http.addHeaders [] t.header with
          | error e => exact id
          | ok headers => exact id

theorem tells_compileVariables (bindings : List (String × String)) :
    Tells (bindings.flatMap variableFaults) (Condition.compileVariables bindings) := by
  induction bindings with
  | nil => rfl
  | cons binding bindings ih =>
      rw [Condition.compileVariables, List.flatMap_cons, variableFaults]
      revert ih
      cases Query.compile binding.2 with
      | error e => exact fun _ => rfl
      | ok q =>
          cases Condition.compileVariables bindings with
          | error e => exact id
          | ok done => exact id

theorem tells_compile (q : Config.QueryTexts) :
    Tells (queryFaults q) (Condition.compile q.check q.bindings) := by
  have hVariables := tells_compileVariables q.bindings
  revert hVariables
  unfold Condition.compile queryFaults
  cases Query.compile q.check with
  | error e => exact fun _ => rfl
  | ok check =>
      cases Condition.compileVariables q.bindings with
      | error e => exact id
      | ok done => exact id

/-- A crawl tells the first of its faults, and it is made ready if it has none. -/
theorem tells_ofCrawl (c : Config.Crawl) : Tells (faults c) (Plan.ofCrawl c) := by
  have hTarget := tells_ofTarget c.target
  have hQueries := tells_compile c.query
  revert hTarget hQueries
  unfold Plan.ofCrawl faults
  cases Http.Request.ofTarget c.target with
  | error e => exact fun hTarget _ => (hTarget.map _).append _
  | ok request =>
      cases Condition.compile c.query.check c.query.bindings with
      | error e => exact fun hTarget hQueries => (hQueries.map _).behind (hTarget.map _)
      | ok condition => exact fun hTarget hQueries => (hQueries.map _).behind (hTarget.map _)

/-- What is told of a crawl is wrong with it. -/
theorem fault_of_ofCrawl (h : Plan.ofCrawl c = .error e) : Fault c e := by
  have hTells := tells_ofCrawl c
  rw [h] at hTells
  exact mem_faults.1 (List.mem_of_mem_head? hTells)

theorem firstFault_iff (h : IsOrdered c) : FirstFault c e ↔ (faults c).head? = some e := by
  have hOrdered := faults_ordered h
  constructor
  · intro hFirst
    cases hFaults : faults c with
    | nil => exact absurd (mem_faults.2 hFirst.fault) (by simp [hFaults])
    | cons f more =>
        rw [hFaults] at hOrdered
        have hf : Fault c f := mem_faults.1 (hFaults ▸ List.mem_cons_self)
        by_cases hSame : f = e
        · rw [hSame, List.head?_cons]
        · have hLater := (mem_faults (e := e)).2 hFirst.fault
          rw [hFaults] at hLater
          have hBefore := (List.pairwise_cons.1 hOrdered).1 e (List.mem_of_ne_of_mem (Ne.symm hSame) hLater)
          exact absurd (hFirst.first f hf hSame) hBefore.not_gt
  · intro hHead
    obtain ⟨more, hFaults⟩ := List.head?_eq_some_iff.1 hHead
    rw [hFaults] at hOrdered
    refine ⟨mem_faults.1 (hFaults ▸ List.mem_cons_self), fun f hf hOther => ?_⟩
    have hLater := mem_faults.2 hf
    rw [hFaults] at hLater
    exact (List.pairwise_cons.1 hOrdered).1 f (List.mem_of_ne_of_mem hOther hLater)

/-- A crawl that cannot be made ready tells its first fault. -/
theorem ofCrawl_eq_error_iff (h : IsOrdered c) : Plan.ofCrawl c = .error e ↔ FirstFault c e := by
  have hTells := tells_ofCrawl c
  rw [firstFault_iff h]
  cases hPlan : Plan.ofCrawl c with
  | ok p =>
      rw [hPlan] at hTells
      simp [show faults c = [] from hTells]
  | error f =>
      rw [hPlan] at hTells
      rw [show (faults c).head? = some f from hTells, Option.some_inj, Except.error.injEq]

/-- A crawl can be made ready just when nothing is wrong with it. -/
theorem exists_ofCrawl_iff : (∃ p, Plan.ofCrawl c = .ok p) ↔ ∀ e, ¬ Fault c e := by
  have hTells := tells_ofCrawl c
  simp only [← mem_faults, ← List.eq_nil_iff_forall_not_mem]
  cases hPlan : Plan.ofCrawl c with
  | ok p => exact ⟨fun _ => by rwa [hPlan] at hTells, fun _ => ⟨p, rfl⟩⟩
  | error f =>
      rw [hPlan] at hTells
      constructor
      · rintro ⟨p, hp⟩
        cases hp
      · intro hNone
        rw [hNone] at hTells
        cases hTells

end Lookout.Pipeline
