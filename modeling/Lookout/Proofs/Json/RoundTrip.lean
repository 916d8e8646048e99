import Lookout.Proofs.Json.Quoted
import Lookout.Proofs.Json.Whole
/-!
Documents read back from their compact text. A document is read back when its numbers are whole and fit
64 bits, the keys of its objects increase and it nests no deeper than the reader goes.
-/
namespace Lookout.Json

open Lookout.Text (Symbol exists_digit ne_of_isDigit)

/-- Whether a document has whole numbers only, increasing keys and at most the given levels. -/
inductive Value.IsPlain : (depth : Nat) → Value → Prop
  | null {depth : Nat} : IsPlain depth .null
  | bool {depth : Nat} (b : Bool) : IsPlain depth (.bool b)
  | whole {depth : Nat} {n : Int} (h : Number.inRange n = true) : IsPlain depth (.number (.int n))
  | string {depth : Nat} (s : String) : IsPlain depth (.string s)
  | array {depth : Nat} {items : List Value} (h : ∀ v ∈ items, IsPlain depth v) :
      IsPlain (depth + 1) (.array items)
  | object {depth : Nat} {fields : List (String × Value)} (hKeys : KeysIncrease fields)
      (h : ∀ f ∈ fields, IsPlain depth f.2) : IsPlain (depth + 1) (.object fields)

variable {rest : List Symbol} {fuel depth line column : Nat} {x : Char} {v : Value}

/-! ### Texts -/

theorem toList_quote (s : String) : (quote s).toList = '"' :: (s.toList.flatMap escapeChar ++ ['"']) := by
  rw [quote, String.toList_ofList, quoteChars, List.cons_append]

theorem toList_array (items : List Value) :
    (Value.array items).render.toList = '[' :: ((renderItems true items).toList ++ [']']) := by
  simp [Value.render]

theorem toList_object (fields : List (String × Value)) :
    (Value.object fields).render.toList = '\x7b' :: ((renderFields true fields).toList ++ ['\x7d']) := by
  simp [Value.render]

theorem toList_whole (n : Int) : (Value.number (.int n)).render.toList =
    if n < 0 then '-' :: Nat.toDigits 10 n.natAbs else Nat.toDigits 10 n.natAbs := by
  cases n <;> simp [Value.render, Number.render, Int.repr]

theorem toList_items (first : Bool) (v : Value) (items : List Value) :
    (renderItems first (v :: items)).toList =
      (if first then [] else [',']) ++ (v.render.toList ++ (renderItems false items).toList) := by
  cases first <;> simp [renderItems]

theorem toList_fields (first : Bool) (k : String) (v : Value) (fields : List (String × Value)) :
    (renderFields first ((k, v) :: fields)).toList = (if first then [] else [',']) ++
      ((quote k).toList ++ ':' :: (v.render.toList ++ (renderFields false fields).toList)) := by
  cases first <;> simp [renderFields]

/-- Whether a text begins neither with a blank nor with the end of an array. -/
def BeginsItem (text : List Char) : Prop := ∃ x xs, text = x :: xs ∧ isBlank x = false ∧ x ≠ ']'

theorem beginsItem_render (h : v.IsPlain depth) : BeginsItem v.render.toList := by
  cases h with
  | null => exact ⟨'n', _, rfl, by decide, by decide⟩
  | bool b => cases b with
    | true => exact ⟨'t', _, rfl, by decide, by decide⟩
    | false => exact ⟨'f', _, rfl, by decide, by decide⟩
  | whole h =>
      rw [toList_whole]
      split
      · exact ⟨'-', _, rfl, by decide, by decide⟩
      · obtain ⟨x, xs, hDigits, hx⟩ := exists_digit (Int.natAbs _)
        have hOther {y : Char} (hy : y.isDigit = false) : x ≠ y := ne_of_isDigit hx hy
        exact ⟨x, xs, hDigits, by simp [isBlank, hOther], hOther (by decide)⟩
  | string s => exact ⟨'"', _, toList_quote s, by decide, by decide⟩
  | array h => exact ⟨'[', _, toList_array _, by decide, by decide⟩
  | object hKeys h => exact ⟨'\x7b', _, toList_object _, by decide, by decide⟩

theorem skipBlanks_of_not_isBlank (h : isBlank x = false) (rest : List Symbol) (line column : Nat) :
    (Cursor.mk (.char x :: rest) line column).skipBlanks = ⟨.char x :: rest, line, column⟩ := by
  have hLine : (x == '\n') = false := by
    simp only [isBlank, Bool.or_eq_false_iff] at h
    exact h.1.1.2
  simp [Cursor.skipBlanks, skipBlanksFrom, h, hLine]

theorem endsNumber_nil : (Cursor.start []).EndsNumber := by
  intro y hy
  cases hy

theorem endsNumber_of (h : x.isDigit = false ∧ x ≠ '.' ∧ x ≠ 'e' ∧ x ≠ 'E') (rest : List Symbol) :
    (Cursor.start (.char x :: rest)).EndsNumber := by
  intro y hy
  cases hy
  exact h

/-! ### Arrays -/

/-- Whether a document is read back from its text, with any text behind it that does not go on with a
number. -/
def Value.ReadsBack (depth : Nat) (v : Value) : Prop :=
  ∀ fuel rest, 3 * (v.render.toList.length + rest.length) ≤ fuel + 1 → (Cursor.start rest).EndsNumber →
    Reads (readValue (fuel + 1) depth) v.render.toList v rest

theorem readItems_end (first : Bool) (done : List Value) :
    Reads (readItems (fuel + 1) depth · first done) [']'] done.reverse rest := by
  intro line column
  refine ⟨line, column + 1, ?_⟩
  show readItems (fuel + 1) depth ⟨.char ']' :: rest, line, column⟩ first done = _
  rw [readItems]
  rfl

/-- An item is read at the start of an array or behind a comma. -/
theorem readItems_item {first : Bool} {done items : List Value} {text : List Char}
    (hText : BeginsItem text)
    (h : Reads (fun c => readValue fuel depth c >>= fun r => readItems fuel depth r.2 false (r.1 :: done))
      text items rest) :
    Reads (readItems (fuel + 1) depth · first done) ((if first then [] else [',']) ++ text) items rest := by
  obtain ⟨x, xs, rfl, hBlank, hx⟩ := hText
  intro line column
  cases first with
  | true =>
      obtain ⟨line', column', hRead⟩ := h line column
      refine ⟨line', column', hRead ▸ ?_⟩
      have hSkip := skipBlanks_of_not_isBlank hBlank (xs.map .char ++ rest) line column
      simp [readItems, hSkip, Cursor.atEnd, Cursor.peek?, hx]
  | false =>
      obtain ⟨line', column', hRead⟩ := h line (column + 1)
      refine ⟨line', column', hRead ▸ ?_⟩
      have hComma (more : List Symbol) : (Cursor.mk (.char ',' :: more) line column).skipBlanks =
          ⟨.char ',' :: more, line, column⟩ := rfl
      have hAdvance (more : List Symbol) : (Cursor.mk (.char ',' :: more) line column).advance =
          ⟨more, line, column + 1⟩ := rfl
      have hSkip := skipBlanks_of_not_isBlank hBlank (xs.map .char ++ rest) line (column + 1)
      simp [readItems, hComma, hAdvance, hSkip, Cursor.atEnd, Cursor.peek?, hx]

theorem endsNumber_items (items : List Value) (rest : List Symbol) :
    (Cursor.start (((renderItems false items).toList ++ [']']).map .char ++ rest)).EndsNumber := by
  cases items with
  | nil => exact endsNumber_of (by decide) rest
  | cons v items =>
      rw [toList_items]
      exact endsNumber_of (by decide) _

/-- The items of an array are read in turn up to its end. -/
theorem reads_items {items : List Value} (first : Bool) (done : List Value)
    (hItems : ∀ v ∈ items, BeginsItem v.render.toList ∧ v.ReadsBack depth)
    (hFuel : 3 * ((renderItems first items).toList.length + 1 + rest.length) < fuel) :
    Reads (readItems fuel depth · first done) ((renderItems first items).toList ++ [']'])
      (done.reverse ++ items) rest := by
  obtain ⟨fuel, rfl⟩ := Nat.exists_eq_add_one_of_ne_zero (n := fuel) (by omega)
  induction items generalizing first done fuel with
  | nil =>
      rw [List.append_nil]
      exact readItems_end first done
  | cons v items ih =>
      obtain ⟨⟨⟨x, xs, hText, hx⟩, hValue⟩, hItems⟩ := List.forall_mem_cons.1 hItems
      have hSome : 1 ≤ v.render.toList.length := by simp [hText]
      rw [toList_items] at hFuel ⊢
      simp only [List.length_append] at hFuel
      obtain ⟨fuel, rfl⟩ := Nat.exists_eq_add_one_of_ne_zero (n := fuel) (by omega)
      have hRead := (hValue fuel _ (by simp; omega) (endsNumber_items items rest)).bind
        (fun v c => readItems (fuel + 1) depth c false (v :: done))
        (ih false (v :: done) hItems fuel (by omega))
      rw [List.reverse_cons, List.append_assoc, List.singleton_append] at hRead
      rw [List.append_assoc, List.append_assoc]
      exact readItems_item ⟨x, _, by rw [hText, List.cons_append], hx⟩ hRead

/-! ### Objects -/

theorem readFields_end (first : Bool) (done : List (String × Value)) :
    Reads (readFields (fuel + 1) depth · first done) ['\x7d'] done rest := by
  intro line column
  refine ⟨line, column + 1, ?_⟩
  show readFields (fuel + 1) depth ⟨.char '\x7d' :: rest, line, column⟩ first done = _
  rw [readFields]
  rfl

/-- A field is read at the start of an object or behind a comma. -/
theorem readFields_field {first : Bool} {done fields : List (String × Value)} {text : List Char}
    (h : Reads (readField fuel depth · done) ('"' :: text) fields rest) :
    Reads (readFields (fuel + 1) depth · first done) ((if first then [] else [',']) ++ '"' :: text) fields
      rest := by
  cases first with
  | true =>
      intro line column
      obtain ⟨line', column', hRead⟩ := h line column
      refine ⟨line', column', hRead ▸ ?_⟩
      show readFields (fuel + 1) depth ⟨.char '"' :: (text.map .char ++ rest), line, column⟩ true done = _
      rw [readFields]
      rfl
  | false =>
      apply h.cons
      intro line column
      rw [List.map_cons, List.cons_append, readFields]
      rfl

theorem readField_key {done fields : List (String × Value)} {k : String} {text : List Char}
    (hFuel : k.toList.length < fuel)
    (h : Reads (fun c => readValue fuel depth c >>= fun r =>
      readFields fuel depth r.2 false (insertField k r.1 done)) text fields rest) :
    Reads (readField (fuel + 1) depth · done) ((quote k).toList ++ ':' :: text) fields rest := by
  rw [toList_quote]
  -- The key is read, then the colon, then the value and the fields behind it.
  apply ((reads_text k _ hFuel).bind (fun k c =>
    let c := c.skipBlanks
    if c.atEnd then c.failNext .endInObject
    else if c.peek? != some ':' then c.failNext .expectedColon
    else readValue fuel depth c.advance >>= fun r =>
      readFields fuel depth r.2 false (insertField k r.1 done)) (h.cons fun line column => rfl)).cons
  intro line column
  rw [readField]
  rfl

theorem endsNumber_fields (fields : List (String × Value)) (rest : List Symbol) :
    (Cursor.start (((renderFields false fields).toList ++ ['\x7d']).map .char ++ rest)).EndsNumber := by
  cases fields with
  | nil => exact endsNumber_of (by decide) rest
  | cons f fields =>
      obtain ⟨k, v⟩ := f
      rw [toList_fields]
      exact endsNumber_of (by decide) _

/-- The fields of an object are read in turn up to its end, and each is put in its place. -/
theorem reads_fields {fields : List (String × Value)} (first : Bool) (done : List (String × Value))
    (h : ∀ f ∈ fields, f.2.ReadsBack depth)
    (hFuel : 3 * ((renderFields first fields).toList.length + 1 + rest.length) + 1 < fuel) :
    Reads (readFields fuel depth · first done) ((renderFields first fields).toList ++ ['\x7d'])
      (fields.foldl (fun done (k, v) => insertField k v done) done) rest := by
  obtain ⟨fuel, rfl⟩ := Nat.exists_eq_add_one_of_ne_zero (n := fuel) (by omega)
  induction fields generalizing first done fuel with
  | nil => exact readFields_end first done
  | cons f fields ih =>
      obtain ⟨k, v⟩ := f
      obtain ⟨hValue, h⟩ := List.forall_mem_cons.1 h
      have hText : (renderFields first ((k, v) :: fields)).toList ++ ['\x7d'] =
          (if first then [] else [',']) ++ '"' :: (k.toList.flatMap escapeChar ++ ['"'] ++
            ':' :: (v.render.toList ++ ((renderFields false fields).toList ++ ['\x7d']))) := by
        rw [toList_fields, toList_quote]
        cases first <;> simp
      have hKey := length_le_escaped k.toList
      rw [toList_fields, toList_quote] at hFuel
      simp only [List.length_append, List.length_cons] at hFuel
      obtain ⟨fuel, rfl⟩ := Nat.exists_eq_add_one_of_ne_zero (n := fuel) (by omega)
      obtain ⟨fuel, rfl⟩ := Nat.exists_eq_add_one_of_ne_zero (n := fuel) (by omega)
      have hRead := (hValue fuel _ (by simp; omega) (endsNumber_fields fields rest)).bind
        (fun v c => readFields (fuel + 1) depth c false (insertField k v done))
        (ih false (insertField k v done) h fuel (by omega))
      have hField := readField_key (by omega) hRead
      rw [toList_quote] at hField
      rw [hText]
      exact readFields_field hField

/-! ### Documents -/

theorem readValue_null : Reads (readValue (fuel + 1) depth) "null".toList .null rest := by
  intro line column
  refine ⟨line, column + 4, ?_⟩
  rw [readValue]
  rfl

theorem readValue_bool (b : Bool) :
    Reads (readValue (fuel + 1) depth) (if b then "true" else "false").toList (.bool b) rest := by
  intro line column
  cases b with
  | true =>
      refine ⟨line, column + 4, ?_⟩
      rw [readValue]
      rfl
  | false =>
      refine ⟨line, column + 5, ?_⟩
      rw [readValue]
      rfl

theorem readValue_string (s : String) (hFuel : s.toList.length < fuel) :
    Reads (readValue (fuel + 1) depth) (quote s).toList (.string s) rest := by
  rw [toList_quote]
  apply ((reads_text s rest hFuel).map Value.string).cons
  intro line column
  rw [readValue]
  rfl

theorem readValue_array {items : List Value} {text : List Char}
    (h : Reads (readItems fuel depth · true []) text items rest) :
    Reads (readValue (fuel + 1) (depth + 1)) ('[' :: text) (.array items) rest := by
  apply (h.map Value.array).cons
  intro line column
  rw [readValue]
  rfl

theorem readValue_object {fields : List (String × Value)} {text : List Char}
    (h : Reads (readFields fuel depth · true []) text fields rest) :
    Reads (readValue (fuel + 1) (depth + 1)) ('\x7b' :: text) (.object fields) rest := by
  apply (h.map Value.object).cons
  intro line column
  rw [readValue]
  rfl

theorem readValue_whole {n : Int} (hRange : Number.inRange n = true) (hEnds : (Cursor.start rest).EndsNumber) :
    Reads (readValue (fuel + 1) depth) (Value.number (.int n)).render.toList (.number (.int n)) rest := by
  simp only [Number.inRange, Bool.and_eq_true, decide_eq_true_eq] at hRange
  have hRead (positive : Bool) : Reads (readNumber positive) (Nat.toDigits 10 n.natAbs)
      (.ofSigned positive n.natAbs) rest := by
    intro line column
    exact ⟨line, _, readNumber_signed positive hEnds (by omega)⟩
  rw [toList_whole]
  split
  · have hValue : Number.ofSigned false n.natAbs = .int n := by
      rw [Number.ofSigned_negative (by omega) (by omega)]
      congr
      omega
    rw [← hValue]
    apply ((hRead false).map Value.number).cons
    intro line column
    rw [readValue]
    rfl
  · have hValue : Number.ofSigned true n.natAbs = .int n := congrArg Number.int (by omega)
    rw [← hValue]
    intro line column
    obtain ⟨x, xs, hDigits, hx⟩ := exists_digit n.natAbs
    have hNumber := (hRead true).map Value.number line column
    rw [hDigits, List.map_cons, List.cons_append] at hNumber ⊢
    rw [readValue_of_digit hx]
    exact hNumber

/-- An object is read from its fields in any order, with each one in its place. -/
theorem reads_object {fields : List (String × Value)} (h : ∀ f ∈ fields, f.2.ReadsBack depth)
    (hFuel : 3 * ((Value.object fields).render.toList.length + rest.length) ≤ fuel + 1) :
    Reads (readValue (fuel + 1) (depth + 1)) (Value.object fields).render.toList (.ofFields fields) rest := by
  rw [toList_object] at hFuel ⊢
  simp only [List.length_cons, List.length_append, List.length_nil] at hFuel
  apply readValue_object
  exact reads_fields true [] h (by omega)

/-- A plain document is read back, by one reader for each kind of value. -/
theorem readsBack_of_isPlain (h : v.IsPlain depth) : v.ReadsBack depth := by
  induction h with
  | null =>
      intro fuel rest _ _
      exact readValue_null
  | bool b =>
      intro fuel rest _ _
      exact readValue_bool b
  | whole hRange =>
      intro fuel rest _ hEnds
      exact readValue_whole hRange hEnds
  | string s =>
      intro fuel rest hFuel _
      have hLength := length_le_escaped s.toList
      simp only [Value.render, toList_quote, List.length_cons, List.length_append] at hFuel
      exact readValue_string s (by omega)
  | array h ih =>
      intro fuel rest hFuel _
      rw [toList_array] at hFuel ⊢
      simp only [List.length_cons, List.length_append, List.length_nil] at hFuel
      apply readValue_array
      exact reads_items true [] (fun v hv => ⟨beginsItem_render (h v hv), ih v hv⟩) (by omega)
  | @object depth fields hKeys h ih =>
      intro fuel rest hFuel _
      have hRead := reads_object ih hFuel
      rwa [Value.ofFields, sortFields_of_keysIncrease hKeys] at hRead

/-- A text that is read as a value whatever follows is a document of that value. -/
theorem readSymbols_of_reads {text : String}
    (h : ∀ fuel, 3 * text.toList.length ≤ fuel + 1 → Reads (readValue (fuel + 1) depth) text.toList v []) :
    readSymbols depth (Symbol.ofString text) = .ok v := by
  have hLength : (Symbol.ofString text).length = text.toList.length := by
    rw [Symbol.ofString, List.length_map]
  obtain ⟨line, column, hRead⟩ := h (3 * text.toList.length + 2) (by omega) 1 0
  rw [List.append_nil] at hRead
  rw [readSymbols, hLength, Cursor.start, Symbol.ofString, hRead]
  rfl

theorem readSymbols_render (h : v.IsPlain depth) : readSymbols depth (Symbol.ofString v.render) = .ok v :=
  readSymbols_of_reads fun fuel hFuel => readsBack_of_isPlain h fuel [] (by simpa using hFuel) endsNumber_nil

/-- What is written of a plain document is read back as the same one. -/
theorem ofString_render (h : v.IsPlain depthLimit) : ofString v.render = .ok v := readSymbols_render h

/-- What is written of plain fields in any order is read as the object of them. -/
theorem ofString_render_object {fields : List (String × Value)}
    (h : ∀ f ∈ fields, f.2.IsPlain (depthLimit - 1)) :
    ofString (Value.object fields).render = .ok (.ofFields fields) :=
  readSymbols_of_reads fun _ hFuel =>
    reads_object (fun f hf => readsBack_of_isPlain (h f hf)) (by simpa using hFuel)

end Lookout.Json
