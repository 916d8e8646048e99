import Lookout.Http.Request
import Lookout.Proofs.Json.Fields
import Lookout.Proofs.Text.Order
import Mathlib
/-!
Requests made of targets: when there is one, which header fields it has, and what is told when there is
none.
-/
namespace Lookout.Http

open Json (KeysIncrease insertField sortFields)
open Text (octets octets_lt)

variable {t : Config.HttpTarget} {r : Request} {e : RequestError}
  {done header headers : List (String × String)} {f : String × String} {l name v : String}

/-! ### Names in lower case -/

theorem lowerName_lowerName (name : String) : lowerName (lowerName name) = lowerName name := by
  simp [lowerName, Function.comp_def]

/-- Header fields with their names in lower case. -/
def lowered (header : List (String × String)) : List (String × String) :=
  header.map fun f => (lowerName f.1, f.2)

/-- Whether a text is the value at the greatest of those names that are one name in lower case. -/
def IsLastValue (header : List (String × String)) (l v : String) : Prop :=
  ∃ name, (name, v) ∈ header ∧ lowerName name = l ∧
    ∀ f ∈ header, lowerName f.1 = l → f.1 = name ∨ octets f.1 < octets name

theorem isLastValue_iff_behind (hKeys : KeysIncrease header) :
    IsLastValue header l v ↔ ∃ before name behind, header = before ++ (name, v) :: behind ∧
      lowerName name = l ∧ ∀ f ∈ behind, lowerName f.1 ≠ l := by
  constructor
  · rintro ⟨name, hMem, hName, hGreatest⟩
    obtain ⟨before, behind, rfl⟩ := List.append_of_mem hMem
    refine ⟨before, name, behind, rfl, hName, fun f hf hSame => ?_⟩
    have hLess : name < f.1 := (List.pairwise_cons.1 (List.pairwise_append.1 hKeys).2.1).1 f hf
    rcases hGreatest f (by simp [hf]) hSame with rfl | hBelow
    · exact lt_irrefl _ hLess
    · exact lt_asymm hBelow (octets_lt hLess)
  · rintro ⟨before, name, behind, rfl, hName, hBehind⟩
    refine ⟨name, by simp, hName, fun f hf hSame => ?_⟩
    rcases List.mem_append.1 hf with hBefore | hRest
    · exact .inr (octets_lt ((List.pairwise_append.1 hKeys).2.2 f hBefore _ List.mem_cons_self))
    · rcases List.mem_cons.1 hRest with rfl | hf
      · exact .inl rfl
      · exact absurd hSame (hBehind f hf)

/-- The value at the greatest name is the one that is put in place last. -/
theorem isLastValue_iff (hKeys : KeysIncrease header) :
    IsLastValue header l v ↔ (l, v) ∈ sortFields (lowered header) := by
  rw [isLastValue_iff_behind hKeys, Json.mem_sortFields_iff, List.lookup_eq_some_iff]
  constructor
  · rintro ⟨before, name, behind, rfl, rfl, hBehind⟩
    refine ⟨(lowered behind).reverse, (lowered before).reverse, by simp [lowered], fun f hf => ?_⟩
    obtain ⟨g, hg, rfl⟩ := List.mem_map.1 (List.mem_reverse.1 hf)
    exact bne_iff_ne.2 (hBehind g hg).symm
  · rintro ⟨first, rest, hSplit, hFirst⟩
    have hHeader : lowered header = rest.reverse ++ (l, v) :: first.reverse := by
      rw [← List.reverse_inj, hSplit]
      simp
    obtain ⟨before, more, rfl, -, hMore⟩ := List.map_eq_append_iff.1 hHeader
    obtain ⟨⟨name, value⟩, behind, rfl, hField, hBehind⟩ := List.map_eq_cons_iff.1 hMore
    obtain ⟨rfl, rfl⟩ := Prod.mk.inj hField
    refine ⟨before, name, behind, rfl, rfl, fun f hf hSame => ?_⟩
    have hIn : (lowerName f.1, f.2) ∈ first := List.mem_reverse.1 (hBehind ▸ List.mem_map_of_mem hf)
    exact bne_iff_ne.1 (hFirst _ hIn) hSame.symm

/-! ### Header fields -/

/-- Whether a header field can be sent. -/
def IsSound (f : String × String) : Prop := isHeaderName f.1 = true ∧ isHeaderValue f.2 = true

/-- Whether an error tells what is wrong with a header field; its name comes before its value. -/
inductive IsFaultOf (f : String × String) : RequestError → Prop where
  | name (h : isHeaderName f.1 = false) : IsFaultOf f (.headerName f.1)
  | value (hName : isHeaderName f.1 = true) (h : isHeaderValue f.2 = false) : IsFaultOf f (.headerValue f.1)

theorem addHeaders_eq_ok_iff : addHeaders done header = .ok headers ↔
    (∀ f ∈ header, IsSound f) ∧
      headers = (lowered header).foldl (fun done (k, v) => insertField k v done) done := by
  induction header generalizing done with
  | nil => simp [addHeaders, lowered, eq_comm]
  | cons f header ih =>
      rw [addHeaders, List.forall_mem_cons, IsSound]
      cases isHeaderName f.1 <;> cases isHeaderValue f.2 <;> simp [ih, lowered]

/-- The first header field at fault is told. -/
theorem exists_of_addHeaders_error (h : addHeaders done header = .error e) :
    ∃ before f behind, header = before ++ f :: behind ∧ (∀ g ∈ before, IsSound g) ∧ IsFaultOf f e := by
  induction header generalizing done with
  | nil => cases h
  | cons f header ih =>
      rw [addHeaders] at h
      split_ifs at h with hName hValue
      · cases h
        exact ⟨[], f, header, rfl, by simp, .name (by simpa using hName)⟩
      · cases h
        exact ⟨[], f, header, rfl, by simp, .value (by simpa using hName) (by simpa using hValue)⟩
      · obtain ⟨before, g, behind, rfl, hBefore, hFault⟩ := ih h
        have hSound : IsSound f := ⟨by simpa using hName, by simpa using hValue⟩
        exact ⟨f :: before, g, behind, rfl, List.forall_mem_cons.2 ⟨hSound, hBefore⟩, hFault⟩

/-- Among header fields in order the one at fault is told whose name is least in octets. -/
theorem least_of_addHeaders_error (hKeys : KeysIncrease header) (h : addHeaders done header = .error e) :
    ∃ f ∈ header, IsFaultOf f e ∧ ∀ g ∈ header, ¬ IsSound g → g = f ∨ octets f.1 < octets g.1 := by
  obtain ⟨before, f, behind, rfl, hBefore, hFault⟩ := exists_of_addHeaders_error h
  refine ⟨f, by simp, hFault, fun g hg hNot => ?_⟩
  rcases List.mem_append.1 hg with hFirst | hRest
  · exact absurd (hBefore g hFirst) hNot
  · rcases List.mem_cons.1 hRest with rfl | hBehind
    · exact .inl rfl
    · exact .inr (octets_lt ((List.pairwise_cons.1 (List.pairwise_append.1 hKeys).2.1).1 g hBehind))

/-! ### Requests -/

theorem ofTarget_eq_ok_iff : Request.ofTarget t = .ok r ↔
    isToken t.method = true ∧ Url.parse t.url = .ok r.url ∧ (∀ f ∈ t.header, IsSound f) ∧
      r.method = t.method ∧ r.body = t.body ∧ r.headers = sortFields (lowered t.header) := by
  have hHeaders (headers : List (String × String)) : addHeaders [] t.header = .ok headers ↔
      (∀ f ∈ t.header, IsSound f) ∧ headers = sortFields (lowered t.header) := addHeaders_eq_ok_iff
  obtain ⟨method, url, headers, body⟩ := r
  unfold Request.ofTarget
  cases isToken t.method with
  | false => simp
  | true =>
      cases Url.parse t.url with
      | error p => simp
      | ok parsed =>
          cases hAdd : addHeaders [] t.header with
          | error e =>
              have hNone := (not_congr (hHeaders headers)).1 (by simp [hAdd])
              simp only [Bool.not_true, Bool.false_eq_true, if_false, reduceCtorEq, true_and, false_iff]
              exact fun ⟨_, hSound, _, _, hSorted⟩ => hNone ⟨hSound, hSorted⟩
          | ok sorted =>
              obtain ⟨hSound, rfl⟩ := (hHeaders sorted).1 hAdd
              simp only [Bool.not_true, Bool.false_eq_true, if_false, Except.ok.injEq, Request.mk.injEq,
                true_and, eq_true hSound]
              constructor
              · rintro ⟨rfl, rfl, rfl, rfl⟩
                exact ⟨rfl, rfl, rfl, rfl⟩
              · rintro ⟨rfl, rfl, rfl, rfl⟩
                exact ⟨rfl, rfl, rfl, rfl⟩

theorem exists_ofTarget_iff : (∃ r, Request.ofTarget t = .ok r) ↔
    isToken t.method = true ∧ (∃ url, Url.parse t.url = .ok url) ∧ ∀ f ∈ t.header, IsSound f := by
  constructor
  · rintro ⟨r, hr⟩
    obtain ⟨hMethod, hUrl, hSound, -⟩ := ofTarget_eq_ok_iff.1 hr
    exact ⟨hMethod, ⟨r.url, hUrl⟩, hSound⟩
  · rintro ⟨hMethod, ⟨url, hUrl⟩, hSound⟩
    exact ⟨⟨t.method, url, sortFields (lowered t.header), t.body⟩,
      ofTarget_eq_ok_iff.2 ⟨hMethod, hUrl, hSound, rfl, rfl, rfl⟩⟩

/-- The names of the header fields of a request are in lower case, and no two are one name. -/
theorem lowerName_pairwise (header : List (String × String)) :
    (sortFields (lowered header)).Pairwise fun f g => lowerName f.1 ≠ lowerName g.1 := by
  have hLower : ∀ f ∈ sortFields (lowered header), lowerName f.1 = f.1 := by
    intro f hf
    obtain ⟨g, -, rfl⟩ := List.mem_map.1 (Json.mem_of_mem_sortFields hf)
    exact lowerName_lowerName g.1
  refine (Json.keysIncrease_sortFields (lowered header)).imp_of_mem fun hf hg hLess => ?_
  rw [hLower _ hf, hLower _ hg]
  exact hLess.ne

theorem mem_names_sortFields (header : List (String × String)) (l : String) :
    l ∈ (sortFields (lowered header)).map Prod.fst ↔ ∃ f ∈ header, lowerName f.1 = l := by
  constructor
  · intro hl
    obtain ⟨f, hf, rfl⟩ := List.mem_map.1 hl
    obtain ⟨g, hg, rfl⟩ := List.mem_map.1 (Json.mem_of_mem_sortFields hf)
    exact ⟨g, hg, rfl⟩
  · rintro ⟨f, hf, rfl⟩
    have hIn : (lowerName f.1, f.2) ∈ (lowered header).reverse :=
      List.mem_reverse.2 (List.mem_map_of_mem hf)
    obtain ⟨v, hv⟩ := Option.isSome_iff_exists.1 (List.lookup_isSome_iff.2 ⟨_, hIn, beq_self_eq_true _⟩)
    exact List.mem_map_of_mem (Json.mem_sortFields_iff.2 hv)

/-- For a target whose header is a mapping: there is a request just when the method is a token, the address
can be read and each header field can be sent. It has the method, the address and the body of the target;
no two of its header fields have one name in lower case; their names are those configured, in lower case;
and each has the value configured at the greatest of the names that are one name in lower case. If there is
no request, the error is that of the method, or else that of the address, or else that of the header field
at fault whose name is least; of that one the name is looked at before the value. -/
theorem ofTarget_of_mapping (hKeys : KeysIncrease t.header) :
    ((∃ r, Request.ofTarget t = .ok r) ↔ isToken t.method = true ∧ (∃ url, Url.parse t.url = .ok url) ∧
      ∀ f ∈ t.header, isHeaderName f.1 = true ∧ isHeaderValue f.2 = true) ∧
    (∀ r, Request.ofTarget t = .ok r →
      r.method = t.method ∧ Url.parse t.url = .ok r.url ∧ r.body = t.body ∧
      (r.headers.Pairwise fun f g => lowerName f.1 ≠ lowerName g.1) ∧
      (∀ l, l ∈ r.headers.map Prod.fst ↔ ∃ f ∈ t.header, lowerName f.1 = l) ∧
      ∀ l v, (l, v) ∈ r.headers ↔ IsLastValue t.header l v) ∧
    (∀ e, Request.ofTarget t = .error e →
      (isToken t.method = false ∧ e = .method t.method) ∨
      (isToken t.method = true ∧ ∃ p, Url.parse t.url = .error p ∧ e = .url t.url p) ∨
      (isToken t.method = true ∧ (∃ url, Url.parse t.url = .ok url) ∧
        ∃ f ∈ t.header, IsFaultOf f e ∧ ∀ g ∈ t.header, ¬ IsSound g → g = f ∨ octets f.1 < octets g.1)) := by
  refine ⟨exists_ofTarget_iff, fun r hr => ?_, fun e he => ?_⟩
  · obtain ⟨-, hUrl, -, hMethod, hBody, hHeaders⟩ := ofTarget_eq_ok_iff.1 hr
    rw [hHeaders]
    exact ⟨hMethod, hUrl, hBody, lowerName_pairwise t.header, mem_names_sortFields t.header,
      fun l v => (isLastValue_iff hKeys).symm⟩
  · unfold Request.ofTarget at he
    split_ifs at he with hMethod
    · cases he
      exact .inl ⟨by simpa using hMethod, rfl⟩
    have hToken : isToken t.method = true := by simpa using hMethod
    split at he
    · rename_i p hUrl
      cases he
      exact .inr (.inl ⟨hToken, p, hUrl, rfl⟩)
    · rename_i url hUrl
      split at he
      · rename_i f hAdd
        cases he
        exact .inr (.inr ⟨hToken, ⟨url, hUrl⟩, least_of_addHeaders_error hKeys hAdd⟩)
      · cases he

/-- A target with two spellings of one name. -/
def spelledTwice : Config.HttpTarget :=
  { method := "GET", url := "http://[::1]/", header := [("X-Key", "upper"), ("x-key", "lower")] }

/-- Of two spellings the one in lower case is the greater, and its value is sent. -/
theorem spelledTwice_request : KeysIncrease spelledTwice.header ∧
    ∃ r, Request.ofTarget spelledTwice = .ok r ∧ r.method = "GET" ∧
      (∀ l, l ∈ r.headers.map Prod.fst ↔ ∃ f ∈ spelledTwice.header, lowerName f.1 = l) ∧
      ("x-key", "lower") ∈ r.headers := by
  have hLess : "X-Key" < "x-key" := by decide
  have hKeys : KeysIncrease spelledTwice.header := by simpa [KeysIncrease, spelledTwice] using hLess
  obtain ⟨hSome, hRequest, -⟩ := ofTarget_of_mapping hKeys
  obtain ⟨r, hr⟩ := hSome.2 ⟨by decide +kernel,
    ⟨⟨"http", true, "", none, some (.groups [0, 0, 0, 0, 0, 0, 0, 1]), none, .segments [""], none, none⟩,
      by decide +kernel⟩, by decide +kernel⟩
  obtain ⟨hMethod, -, -, -, hNames, hValues⟩ := hRequest r hr
  refine ⟨hKeys, r, hr, hMethod, hNames, (hValues "x-key" "lower").2 ⟨"x-key", ?_, by decide +kernel, ?_⟩⟩
  · exact List.mem_cons_of_mem _ List.mem_cons_self
  · simpa [spelledTwice] using fun _ => octets_lt hLess

end Lookout.Http
