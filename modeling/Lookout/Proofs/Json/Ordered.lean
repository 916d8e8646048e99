import Lookout.Proofs.Json.RoundTrip
/-!
What reading a document guarantees, whatever its text: the keys of every object increase, and it nests no
deeper than the reader goes.
-/
namespace Lookout.Json

/-- Whether a document has increasing keys and at most the given levels. -/
inductive Value.IsOrdered : (depth : Nat) → Value → Prop
  | null {depth : Nat} : IsOrdered depth .null
  | bool {depth : Nat} (b : Bool) : IsOrdered depth (.bool b)
  | number {depth : Nat} (n : Number) : IsOrdered depth (.number n)
  | string {depth : Nat} (s : String) : IsOrdered depth (.string s)
  | array {depth : Nat} {items : List Value} (h : ∀ v ∈ items, IsOrdered depth v) :
      IsOrdered (depth + 1) (.array items)
  | object {depth : Nat} {fields : List (String × Value)} (hKeys : KeysIncrease fields)
      (h : ∀ f ∈ fields, IsOrdered depth f.2) : IsOrdered (depth + 1) (.object fields)

/-- Whether all numbers of a document are whole and fit 64 bits. -/
inductive Value.HasWholeNumbers : Value → Prop
  | null : HasWholeNumbers .null
  | bool (b : Bool) : HasWholeNumbers (.bool b)
  | whole {n : Int} (h : Number.inRange n = true) : HasWholeNumbers (.number (.int n))
  | string (s : String) : HasWholeNumbers (.string s)
  | array {items : List Value} (h : ∀ v ∈ items, HasWholeNumbers v) : HasWholeNumbers (.array items)
  | object {fields : List (String × Value)} (h : ∀ f ∈ fields, HasWholeNumbers f.2) :
      HasWholeNumbers (.object fields)

theorem Value.IsOrdered.isPlain {depth : Nat} {v : Value} (h : v.IsOrdered depth)
    (hWhole : v.HasWholeNumbers) : v.IsPlain depth := by
  induction h with
  | null => exact .null
  | bool b => exact .bool b
  | number n =>
      cases hWhole with
      | whole hRange => exact .whole hRange
  | string s => exact .string s
  | array _ ih =>
      cases hWhole with
      | array hItems => exact .array fun v hv => ih v hv (hItems v hv)
  | object hKeys _ ih =>
      cases hWhole with
      | object hFields => exact .object hKeys fun f hf => ih f hf (hFields f hf)

theorem Value.IsPlain.hasWholeNumbers {depth : Nat} {v : Value} (h : v.IsPlain depth) :
    v.HasWholeNumbers := by
  induction h with
  | null => exact .null
  | bool b => exact .bool b
  | whole hRange => exact .whole hRange
  | string s => exact .string s
  | array _ ih => exact .array ih
  | object _ _ ih => exact .object ih

/-! ### What a reader yields -/

/-- What a reader gives, if it gives anything, has a property. -/
def Yields {α : Type} (P : α → Prop) (r : Except ReadError α) : Prop := ∀ a, r = .ok a → P a

namespace Yields

variable {α β : Type} {P : α → Prop} {Q : β → Prop}

theorem ok {a : α} (h : P a) : Yields P (.ok a) := by
  rintro _ ⟨⟩
  exact h

theorem fail (c : Cursor) (fault : Fault) : Yields P (c.fail fault) := nofun

theorem failNext (c : Cursor) (fault : Fault) : Yields P (c.failNext fault) := by
  unfold Cursor.failNext
  split <;> nofun

/-- What is read first is read up to some place, where reading goes on. -/
theorem bind {P : α × Cursor → Prop} {r : Except ReadError (α × Cursor)}
    {next : α × Cursor → Except ReadError β} (h : Yields P r)
    (hNext : ∀ a c, P (a, c) → Yields Q (next (a, c))) : Yields Q (r >>= next) := by
  cases r with
  | error e => nofun
  | ok first => exact hNext first.1 first.2 (h first rfl)

/-- Whatever is read first. -/
theorem after {r : Except ReadError (α × Cursor)} {next : α × Cursor → Except ReadError β}
    (hNext : ∀ a c, Yields Q (next (a, c))) : Yields Q (r >>= next) :=
  bind (P := fun _ => True) (fun _ _ => trivial) fun a c _ => hNext a c

theorem readWord {v : Value} {P : Value → Prop} (h : P v) (word : List Char) (c : Cursor) :
    Yields (P ·.1) (readWord word v c) := by
  induction word generalizing c with
  | nil => exact ok h
  | cons x more ih =>
      rw [Json.readWord]
      split_ifs
      · exact fail _ _
      · exact ih _
      · exact fail _ _

end Yields

/-! ### Values that are read -/

/-- Fields in increasing order of key with ordered values. -/
def FieldsOrdered (depth : Nat) (fields : List (String × Value)) : Prop :=
  KeysIncrease fields ∧ ∀ f ∈ fields, f.2.IsOrdered depth

theorem fieldsOrdered_nil (depth : Nat) : FieldsOrdered depth [] :=
  ⟨List.Pairwise.nil, List.forall_mem_nil _⟩

theorem FieldsOrdered.insertField {depth : Nat} {fields : List (String × Value)} {v : Value}
    (h : FieldsOrdered depth fields) (hValue : v.IsOrdered depth) (k : String) :
    FieldsOrdered depth (insertField k v fields) := by
  refine ⟨h.1.insertField k v, fun f hf => ?_⟩
  rcases mem_of_mem_insertField hf with rfl | hf
  · exact hValue
  · exact h.2 f hf

/-- Whether all that is read with some fuel is ordered. -/
structure ReadsOrdered (fuel : Nat) : Prop where
  value (depth : Nat) (c : Cursor) : Yields (·.1.IsOrdered depth) (readValue fuel depth c)
  items (depth : Nat) (c : Cursor) (first : Bool) {done : List Value} (h : ∀ v ∈ done, v.IsOrdered depth) :
    Yields (∀ v ∈ ·.1, v.IsOrdered depth) (readItems fuel depth c first done)
  fields (depth : Nat) (c : Cursor) (first : Bool) {done : List (String × Value)}
    (h : FieldsOrdered depth done) : Yields (FieldsOrdered depth ·.1) (readFields fuel depth c first done)
  field (depth : Nat) (c : Cursor) {done : List (String × Value)} (h : FieldsOrdered depth done) :
    Yields (FieldsOrdered depth ·.1) (readField fuel depth c done)

namespace ReadsOrdered

variable {fuel : Nat}

theorem readValue (h : ReadsOrdered fuel) (depth : Nat) (c : Cursor) :
    Yields (·.1.IsOrdered depth) (readValue (fuel + 1) depth c) := by
  rw [Json.readValue]
  split
  · exact .failNext _ _
  split
  · exact .readWord .null _ _
  · exact .readWord (.bool true) _ _
  · exact .readWord (.bool false) _ _
  · exact .after fun s c => .ok (.string s)
  · cases depth with
    | zero => exact .failNext _ _
    | succ depth =>
        exact (h.items depth _ true (List.forall_mem_nil _)).bind fun items c hItems => .ok (.array hItems)
  · cases depth with
    | zero => exact .failNext _ _
    | succ depth =>
        exact (h.fields depth _ true (fieldsOrdered_nil depth)).bind fun fields c hFields =>
          .ok (.object hFields.1 hFields.2)
  · split
    · exact .after fun n c => .ok (.number n)
    split
    · exact .after fun n c => .ok (.number n)
    · exact .failNext _ _
  · exact .failNext _ _

theorem readItems (h : ReadsOrdered fuel) (depth : Nat) (c : Cursor) (first : Bool) {done : List Value}
    (hDone : ∀ v ∈ done, v.IsOrdered depth) :
    Yields (∀ v ∈ ·.1, v.IsOrdered depth) (readItems (fuel + 1) depth c first done) := by
  -- An item is read at the start of an array as it is behind a comma.
  have hMore (c : Cursor) : Yields (∀ v ∈ ·.1, v.IsOrdered depth) (Json.readValue fuel depth c >>= fun r =>
      Json.readItems fuel depth r.2 false (r.1 :: done)) :=
    (h.value depth c).bind fun v c hv => h.items depth c false (List.forall_mem_cons.2 ⟨hv, hDone⟩)
  rw [Json.readItems]
  split
  · exact .failNext _ _
  split
  · exact .ok fun v hv => hDone v (List.mem_reverse.1 hv)
  split
  · exact hMore _
  split
  · dsimp only
    split
    · exact .failNext _ _
    split
    · exact .failNext _ _
    · exact hMore _
  · exact .failNext _ _

theorem readFields (h : ReadsOrdered fuel) (depth : Nat) (c : Cursor) (first : Bool)
    {done : List (String × Value)} (hDone : FieldsOrdered depth done) :
    Yields (FieldsOrdered depth ·.1) (readFields (fuel + 1) depth c first done) := by
  rw [Json.readFields]
  split
  · exact .failNext _ _
  split
  · exact .ok hDone
  split
  · exact h.field depth _ hDone
  split
  · dsimp only
    split
    · exact .failNext _ _
    split
    · exact .failNext _ _
    · exact h.field depth _ hDone
  · exact .failNext _ _

theorem readField (h : ReadsOrdered fuel) (depth : Nat) (c : Cursor) {done : List (String × Value)}
    (hDone : FieldsOrdered depth done) :
    Yields (FieldsOrdered depth ·.1) (readField (fuel + 1) depth c done) := by
  rw [Json.readField]
  split
  · exact .failNext _ _
  refine .after fun key c => ?_
  dsimp only
  split
  · exact .failNext _ _
  split
  · exact .failNext _ _
  · exact (h.value depth _).bind fun v c hValue =>
      h.fields depth c false (hDone.insertField hValue key)

end ReadsOrdered

theorem readsOrdered (fuel : Nat) : ReadsOrdered fuel := by
  induction fuel with
  | zero =>
      refine ⟨fun depth c => ?_, fun depth c first done _ => ?_, fun depth c first done _ => ?_,
        fun depth c done _ => ?_⟩
      · rw [readValue]
        exact .fail c _
      · rw [readItems]
        exact .fail c _
      · rw [readFields]
        exact .fail c _
      · rw [readField]
        exact .fail c _
  | succ fuel ih => exact ⟨ih.readValue, ih.readItems, ih.readFields, ih.readField⟩

theorem yields_readSymbols (depth : Nat) (symbols : List Text.Symbol) :
    Yields (·.IsOrdered depth) (readSymbols depth symbols) := by
  unfold readSymbols
  refine ((readsOrdered _).value depth _).bind fun v c hValue => ?_
  dsimp only
  split
  · exact .ok hValue
  · exact .failNext _ _

/-- Whatever its text, a document that is read has increasing keys and nests within the limit. -/
theorem isOrdered_of_ofOctets {body : ByteArray} {v : Value} (h : ofOctets body = .ok v) :
    v.IsOrdered depthLimit :=
  yields_readSymbols depthLimit _ v h

end Lookout.Json
