import Lookout.Proofs.Condition.Normal
import Lookout.Proofs.Condition.Whole
import Lookout.Proofs.Json.Ordered
/-!
The text of a variable whose query is `.`: it is the document itself, as it is written in one way only.
-/
namespace Lookout

open Json (KeyByKey KeysIncrease)

/-! ### Documents that pass through a query -/

namespace Query

theorem toJsonItems_ofJsonItems {items : List Json.Value}
    (h : ∀ v ∈ items, (Value.ofJson v).toJson = .ok v) :
    Value.toJsonItems (Value.ofJsonItems items) = .ok items := by
  induction items with
  | nil => rfl
  | cons v rest ih =>
      obtain ⟨hFirst, hRest⟩ := List.forall_mem_cons.1 h
      rw [Value.ofJsonItems, Value.toJsonItems, hFirst, ih hRest]
      rfl

theorem toJsonFields_ofJsonFields {fields : List (String × Json.Value)}
    (h : ∀ f ∈ fields, (Value.ofJson f.2).toJson = .ok f.2) :
    Value.toJsonFields (Value.ofJsonFields fields) = .ok fields := by
  induction fields with
  | nil => rfl
  | cons f rest ih =>
      obtain ⟨hFirst, hRest⟩ := List.forall_mem_cons.1 h
      rw [Value.ofJsonFields, Value.toJsonFields, hFirst, ih hRest]
      rfl

/-- A plain document is the same one after it was a value of the query language. -/
theorem toJson_ofJson {depth : Nat} {document : Json.Value} (h : document.IsPlain depth) :
    (Value.ofJson document).toJson = .ok document := by
  induction h with
  | null => rfl
  | bool b => rfl
  | whole hRange => exact toJson_ofNumber hRange
  | string s => rfl
  | array _ ih =>
      rw [Value.ofJson, Value.toJson, toJsonItems_ofJsonItems ih]
      rfl
  | object hKeys _ ih =>
      rw [Value.ofJson, Value.toJson, toJsonFields_ofJsonFields ih]
      simp only [Except.map, Json.Value.ofFields, Json.sortFields_of_keysIncrease hKeys]

end Query

namespace Json

/-- The numbers of a plain document are plain already. -/
theorem normalized_of_isPlain {depth : Nat} {v : Value} (h : v.IsPlain depth) : v.normalized = v := by
  induction h with
  | null => rfl
  | bool b => rfl
  | whole hRange => rfl
  | string s => rfl
  | array _ ih => rw [Value.normalized, normalizedItems_of_normalized ih]
  | object _ _ ih => rw [Value.normalized, normalizedFields_of_normalized ih]

end Json

namespace Condition

variable {c : Condition} {q : Query} {document : Json.Value} {body : ByteArray} {name : String}
  {stop : Query.Stop}

/-- The text of the query `.` over a plain document is the document. -/
theorem firstText_identity (h : document.IsPlain Json.depthLimit) (source : String) :
    firstText ⟨source, .identity⟩ document = .ok document.render := by
  rw [firstText, Query.first_identity, Query.toJson_ofJson h]
  simp only [Except.map, Json.normalized_of_isPlain h]

theorem firstText_error (h : firstText q document = .error stop) : q.first document = .error stop := by
  unfold firstText at h
  split at h
  · rename_i hFirst
    cases h
    exact hFirst
  · cases h
  · cases h

/-! ### Variables -/

theorem compiled_of_compileVariables {sources : List (String × String)} {done : List (String × Query)}
    (h : compileVariables sources = .ok done) :
    KeyByKey (fun source q => Query.compile source = .ok q) sources done := by
  induction sources generalizing done with
  | nil =>
      cases h
      exact .nil
  | cons b rest ih =>
      obtain ⟨name, source⟩ := b
      rw [compileVariables] at h
      cases hQuery : Query.compile source with
      | error e =>
          rw [hQuery] at h
          cases h
      | ok q =>
          cases hRest : compileVariables rest with
          | error e =>
              rw [hQuery, hRest] at h
              cases h
          | ok more =>
              rw [hQuery, hRest] at h
              cases h
              exact .cons ⟨rfl, hQuery⟩ (ih hRest)

theorem compiled_of_compile {check : String} {sources : List (String × String)}
    (h : compile check sources = .ok c) :
    KeyByKey (fun source q => Query.compile source = .ok q) sources c.bindings := by
  unfold compile at h
  split at h
  · cases h
  · split at h
    · cases h
    · rename_i hDone
      cases h
      exact compiled_of_compileVariables hDone

/-- A condition on a document fails only if the check or a variable does. -/
theorem apply_cases (hBody : Json.ofOctets body = .ok document) :
    (∃ found, c.apply body = .ok found ∧
      KeyByKey (fun q text => firstText q document = .ok text) c.bindings found.bindings) ∨
    (∃ stop, firstText c.check document = .error stop ∧ c.apply body = .error (.check stop)) ∨
    ∃ name q stop, (name, q) ∈ c.bindings ∧ firstText q document = .error stop ∧
      c.apply body = .error (.ofVariable name stop) := by
  simp only [apply, hBody, applyTo]
  cases hCheck : firstText c.check document with
  | error stop => exact .inr (.inl ⟨stop, rfl, rfl⟩)
  | ok text =>
      rcases applyVariables_cases document c.bindings with
        ⟨texts, hVariables, hTexts⟩ | ⟨name, q, stop, hMem, hFails, hVariables⟩
      · exact .inl ⟨⟨isTruthy text.toList, texts⟩, by rw [hVariables], hTexts⟩
      · exact .inr (.inr ⟨name, q, stop, hMem, hFails, by rw [hVariables]⟩)

/-- If a document has whole numbers of 64 bits only, however it is written in the body, the text of a
variable whose query is `.` is the document with the keys of every object in increasing order. It is read
back as the same document, so that the condition finds in it what it finds in the body. Such a variable
never fails: only the check or another one does. -/
theorem apply_identity_faithful {check : String} {sources : List (String × String)}
    (hCompile : compile check sources = .ok c) (hNames : KeysIncrease sources)
    (hVariable : (name, ".") ∈ sources) (hBody : Json.ofOctets body = .ok document)
    (hWhole : document.HasWholeNumbers) :
    document.IsOrdered Json.depthLimit ∧
    Json.ofOctets document.render.toUTF8 = .ok document ∧
    c.apply document.render.toUTF8 = c.apply body ∧
    ((∃ found, c.apply body = .ok found ∧ found.bindings.lookup name = some document.render) ∨
      (∃ stop, c.check.first document = .error stop ∧ c.apply body = .error (.check stop)) ∨
      ∃ other q stop, (other, q) ∈ c.bindings ∧ other ≠ name ∧ q.first document = .error stop ∧
        c.apply body = .error (.ofVariable other stop)) := by
  have hOrdered := Json.isOrdered_of_ofOctets hBody
  have hPlain := hOrdered.isPlain hWhole
  have hText := (Json.ofOctets_toUTF8 _).trans (Json.ofString_render hPlain)
  have hAgain : c.apply document.render.toUTF8 = c.apply body := by
    simp only [apply, hText, hBody]
  have hCompiled := compiled_of_compile hCompile
  obtain ⟨q, hQuery, hDot⟩ := hCompiled.exists_of_lookup (Json.lookup_of_mem hNames.nodup hVariable)
  have hIdentity : Query.compile "." = .ok ⟨".", .identity⟩ := rfl
  obtain rfl := Except.ok.inj (hIdentity.symm.trans hDot)
  have hFirst := firstText_identity hPlain "."
  refine ⟨hOrdered, hText, hAgain, ?_⟩
  rcases apply_cases (c := c) hBody with
    ⟨found, hFound, hTexts⟩ | ⟨stop, hFails, hFound⟩ | ⟨other, q, stop, hMem, hFails, hFound⟩
  · obtain ⟨text, hLookup, hSame⟩ := hTexts.exists_of_lookup hQuery
    obtain rfl := Except.ok.inj (hFirst.symm.trans hSame)
    exact .inl ⟨found, hFound, hLookup⟩
  · exact .inr (.inl ⟨stop, firstText_error hFails, hFound⟩)
  · refine .inr (.inr ⟨other, q, stop, hMem, ?_, firstText_error hFails, hFound⟩)
    -- A variable of that name has the query `.`, which does not fail.
    rintro rfl
    have hNodup : (c.bindings.map (·.1)).Nodup := hCompiled.keys_eq ▸ hNames.nodup
    cases Option.some.inj (hQuery.symm.trans (Json.lookup_of_mem hNodup hMem))
    cases hFirst.symm.trans hFails

/-- Fields out of order, with the greatest and the least whole number. -/
def unsortedFields : List (String × Json.Value) :=
  [("b", .array [.number (.int 18446744073709551615), .string "\n\""]),
    ("a", .number (.int (-9223372036854775808)))]

/-- The text of the variable has the fields in order, and the condition finds the same in that text. -/
theorem unsortedFields_faithful :
    ∃ c found, compile "." [("X", ".")] = .ok c ∧
      c.apply (Json.Value.object unsortedFields).render.toUTF8 = .ok found ∧
      found.bindings.lookup "X" = some (Json.Value.ofFields unsortedFields).render ∧
      c.apply (Json.Value.ofFields unsortedFields).render.toUTF8 = .ok found := by
  have hPlain : ∀ f ∈ unsortedFields, f.2.IsPlain (Json.depthLimit - 1) := by
    refine List.forall_mem_cons.2 ⟨.array ?_, List.forall_mem_singleton.2 (.whole (by decide))⟩
    exact List.forall_mem_cons.2 ⟨.whole (by decide), List.forall_mem_singleton.2 (.string _)⟩
  have hBody : Json.ofOctets (Json.Value.object unsortedFields).render.toUTF8 =
      .ok (.ofFields unsortedFields) :=
    (Json.ofOctets_toUTF8 _).trans (Json.ofString_render_object hPlain)
  have hWhole : (Json.Value.ofFields unsortedFields).HasWholeNumbers :=
    .object fun f hf => (hPlain f (Json.mem_of_mem_sortFields hf)).hasWholeNumbers
  have hCompile : compile "." [("X", ".")] = .ok ⟨⟨".", .identity⟩, [("X", ⟨".", .identity⟩)]⟩ := rfl
  have hVariable : ("X", ".") ∈ [("X", ".")] := List.mem_cons_self
  obtain ⟨hOrdered, -, hAgain, hResult⟩ :=
    apply_identity_faithful hCompile (List.pairwise_singleton _ _) hVariable hBody hWhole
  rcases hResult with ⟨found, hFound, hText⟩ | ⟨stop, hFails, -⟩ | ⟨other, q, stop, hMem, hOther, -⟩
  · exact ⟨_, found, hCompile, hFound, hText, hAgain.trans hFound⟩
  · rw [Query.first_identity, Query.toJson_ofJson (hOrdered.isPlain hWhole)] at hFails
    cases hFails
  · cases List.mem_singleton.1 hMem
    exact absurd rfl hOther

end Condition

end Lookout
