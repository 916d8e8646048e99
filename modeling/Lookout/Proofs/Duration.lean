import Lookout.Duration
import Lookout.Proofs.Text.Digits
import Mathlib.Data.List.TakeWhile
/-!
Lengths of time read back from their text. A text is a row of parts, each a number of one unit; what is
read from a row is the sum of its parts, and the parts that a length of time is written as add up to it.
-/
namespace Lookout.Duration

open Lookout.Text

variable {n : Nat} {c : Char} {cs rest : List Char}

/-! ### Parts -/

namespace Unit
variable {u : Unit} {name : String}

/-- Each name is read as its unit, and nothing in it ends it. -/
theorem names_spec (u : Unit) :
    (u.names.all fun name => ofName? name == some u && name != "" && name.toList.all isUnitChar) = true := by
  cases u <;> rfl

theorem ofName?_of_mem (h : name ∈ u.names) : ofName? name = some u := by
  have hName := List.all_eq_true.1 u.names_spec name h
  simp only [Bool.and_eq_true] at hName
  exact eq_of_beq hName.1.1

theorem isWord_of_mem (h : name ∈ u.names) : name.toList ≠ [] ∧ ∀ c ∈ name.toList, isUnitChar c = true := by
  have hName := List.all_eq_true.1 u.names_spec name h
  simp only [Bool.and_eq_true, bne_iff_ne, ne_eq, List.all_eq_true] at hName
  exact ⟨fun hNil => hName.1.2 (String.toList_eq_nil_iff.1 hNil), hName.2⟩

end Unit

/-- A number of units. -/
structure Part where
  count : Nat
  unit : Unit

namespace Part
variable {p : Part}

/-- The nanoseconds of a part. -/
def nanoseconds (p : Part) : Nat := p.count * p.unit.nanoseconds

/-- The name that the unit of a part is written by. -/
def name (p : Part) : String :=
  match p.unit with
  | .nanosecond => "ns"
  | .microsecond => "us"
  | .millisecond => "ms"
  | .second => "s"
  | .minute => "m"
  | .hour => "h"
  | .day => if p.count = 1 then "day" else "days"
  | .week => if p.count = 1 then "week" else "weeks"
  | .month => if p.count = 1 then "month" else "months"
  | .year => if p.count = 1 then "year" else "years"

/-- The text of a part. -/
def text (p : Part) : String := toString p.count ++ p.name

/-- Whether a part in a unit below a second is below a second itself. -/
def IsProper (p : Part) : Prop := p.unit.nanoseconds < 1000000000 → p.nanoseconds < 1000000000

/-- A unit is written by one of the names that it is read by. -/
theorem name_mem_names (p : Part) : p.name ∈ p.unit.names := by
  obtain ⟨count, unit⟩ := p
  unfold name
  cases unit <;> simp only [Unit.names] <;> (try split) <;> simp

theorem ofName?_name (p : Part) : Unit.ofName? p.name = some p.unit := Unit.ofName?_of_mem p.name_mem_names

theorem isUnitChar_of_mem_name (hc : c ∈ p.name.toList) : isUnitChar c = true :=
  (Unit.isWord_of_mem p.name_mem_names).2 c hc

theorem toList_name_ne_nil (p : Part) : p.name.toList ≠ [] := (Unit.isWord_of_mem p.name_mem_names).1

theorem toList_text (p : Part) : p.text.toList = Nat.toDigits 10 p.count ++ p.name.toList := by
  rw [text, String.toList_append, Nat.toString_eq_repr, Nat.toList_repr]

end Part

/-! ### Reading one part -/

/-- Letters and the micro sign. -/
theorem toNat_of_isUnitChar (h : isUnitChar c = true) :
    (65 ≤ c.toNat ∧ c.toNat ≤ 90) ∨ (97 ≤ c.toNat ∧ c.toNat ≤ 122) ∨ c.toNat = 181 := by
  rcases Bool.or_eq_true_iff.1 h with hLetter | hMicro
  · rcases Bool.or_eq_true_iff.1 hLetter with hUpper | hLower
    · have hRange := of_decide_eq_true hUpper
      exact .inl ⟨UInt32.le_iff_toNat_le.1 hRange.1, UInt32.le_iff_toNat_le.1 hRange.2⟩
    · have hRange := Bool.and_eq_true_iff.1 hLower
      exact .inr (.inl ⟨UInt32.le_iff_toNat_le.1 (of_decide_eq_true hRange.1),
        UInt32.le_iff_toNat_le.1 (of_decide_eq_true hRange.2)⟩)
  · exact .inr (.inr (congrArg Char.toNat (eq_of_beq hMicro)))

theorem isDigit_of_isUnitChar (h : isUnitChar c = true) : c.isDigit = false := by
  have hRange := toNat_of_isUnitChar h
  rw [Bool.eq_false_iff, ne_eq, isDigit_iff]
  omega

theorem isBlank_of_isUnitChar (h : isUnitChar c = true) : isBlank c = false := by
  have hRange := toNat_of_isUnitChar h
  simp only [isBlank, Bool.or_eq_false_iff, Bool.and_eq_false_iff, decide_eq_false_iff_not,
    beq_eq_false_iff_ne]
  omega

theorem readNumber_of_digits (hDigits : ∀ x ∈ cs, x.isDigit = true) (hc : isUnitChar c = true)
    (hFits : Nat.ofDigitChars 10 cs n < wordLimit) :
    readNumber n (cs ++ c :: rest) = some (Nat.ofDigitChars 10 cs n, none, c :: rest) := by
  induction cs generalizing n with
  | nil =>
      rw [List.nil_append, readNumber, isDigit_of_isUnitChar hc, isBlank_of_isUnitChar hc, hc]
      rfl
  | cons x cs ih =>
      obtain ⟨hx, hMore⟩ := List.forall_mem_cons.1 hDigits
      rw [ofDigitChars_cons] at hFits ⊢
      have hBelow : n * 10 + (x.toNat - 48) < wordLimit :=
        Nat.lt_of_le_of_lt (le_ofDigitChars cs _) hFits
      rw [List.cons_append, readNumber, if_pos hx]
      simp only
      rw [if_pos hBelow]
      exact ih hMore hFits

variable {d : Duration} {p : Part} {ps : List Part}

theorem ofNanoseconds?_eq_some (h : n < 18446744073709551616 * 1000000000) :
    ofNanoseconds? n = some ⟨n, h⟩ :=
  dif_pos h

theorem times?_eq_some {a b : Nat} (h : a * b < wordLimit) : times? a b = some (a * b) := if_pos h

theorem add?_eq_some {s m : Nat} (hm : m < 1000000000)
    (h : d.nanoseconds + s * 1000000000 + m < 18446744073709551616 * 1000000000) :
    d.add? s m = some ⟨d.nanoseconds + s * 1000000000 + m, h⟩ := by
  have hBelow : d.remainder + m < wordLimit := by
    have hRemainder : d.remainder < 1000000000 := Nat.mod_lt _ (by decide)
    unfold wordLimit
    omega
  rw [add?, if_pos hBelow, ofNanoseconds?_eq_some h]

/-- A part is added to a length of time when the sum is none too long. -/
theorem addUnits?_eq_some (hProper : p.IsProper)
    (hSum : d.nanoseconds + p.nanoseconds < 18446744073709551616 * 1000000000) :
    d.addUnits? p.count p.unit = some ⟨d.nanoseconds + p.nanoseconds, hSum⟩ := by
  by_cases hSmall : p.unit.nanoseconds < 1000000000
  · have hBelow : p.nanoseconds < 1000000000 := hProper hSmall
    have hWord : p.count * p.unit.nanoseconds < wordLimit := Nat.lt_trans hBelow (by decide)
    rw [addUnits?, if_pos hSmall, times?_eq_some hWord]
    exact (add?_eq_some hBelow (by simpa using hSum)).trans (by simp [Part.nanoseconds])
  · -- A unit from a second up is a whole number of seconds.
    have hWhole : p.unit.nanoseconds / 1000000000 * 1000000000 = p.unit.nanoseconds := by
      cases hUnit : p.unit <;> first | rfl | exact absurd (hUnit ▸ (by decide)) hSmall
    have hSeconds : p.count * (p.unit.nanoseconds / 1000000000) * 1000000000 = p.nanoseconds := by
      rw [Nat.mul_assoc, hWhole, Part.nanoseconds]
    have hWord : p.count * (p.unit.nanoseconds / 1000000000) < wordLimit := by
      unfold wordLimit
      omega
    rw [addUnits?, if_neg hSmall, times?_eq_some hWord]
    exact (add?_eq_some (by decide) (by simpa [hSeconds] using hSum)).trans (by simp [hSeconds])

theorem count_lt_wordLimit (hProper : p.IsProper)
    (hBelow : p.nanoseconds < 18446744073709551616 * 1000000000) : p.count < wordLimit := by
  unfold Part.IsProper Part.nanoseconds at *
  unfold wordLimit
  have hUnit : 0 < p.unit.nanoseconds := by cases p.unit <;> decide
  by_cases hSmall : p.unit.nanoseconds < 1000000000
  · have hCount : p.count ≤ p.count * p.unit.nanoseconds := Nat.le_mul_of_pos_right _ hUnit
    have hSecond := hProper hSmall
    omega
  · have hCount : p.count * 1000000000 ≤ p.count * p.unit.nanoseconds :=
      Nat.mul_le_mul_left _ (Nat.le_of_not_lt hSmall)
    omega

section One

variable (hDigits : Nat.toDigits 10 p.count = c :: cs) (hProper : p.IsProper)

include hDigits

theorem readNumber_part (hFits : p.count < wordLimit) (rest : List Char) :
    readNumber (c.toNat - 48) (cs ++ (p.name.toList ++ rest)) =
      some (p.count, none, p.name.toList ++ rest) := by
  obtain ⟨u, us, hName⟩ := List.exists_cons_of_ne_nil p.toList_name_ne_nil
  have hUnit : isUnitChar u = true := Part.isUnitChar_of_mem_name (hName ▸ List.mem_cons_self)
  have hCount : Nat.ofDigitChars 10 cs (c.toNat - 48) = p.count := by
    have hAll : Nat.ofDigitChars 10 (c :: cs) 0 = p.count := hDigits ▸ Nat.ofDigitChars_ten_toDigits
    rwa [ofDigitChars_cons, Nat.zero_mul, Nat.zero_add] at hAll
  have hMore : ∀ x ∈ cs, x.isDigit = true := fun x hx =>
    isDigit_of_mem_toDigits (hDigits ▸ List.mem_cons_of_mem c hx)
  rw [hName, List.cons_append, readNumber_of_digits hMore hUnit (hCount ▸ hFits), hCount]

include hProper

theorem readItems_last (fuel : Nat)
    (hSum : d.nanoseconds + p.nanoseconds < 18446744073709551616 * 1000000000) :
    readItems (fuel + 1) d (c.toNat - 48) (cs ++ p.name.toList) =
      some ⟨d.nanoseconds + p.nanoseconds, hSum⟩ := by
  have hNumber := readNumber_part hDigits (count_lt_wordLimit hProper (by omega)) []
  rw [List.append_nil] at hNumber
  have hTaken : p.name.toList.takeWhile isUnitChar = p.name.toList := 
    List.takeWhile_eq_self_iff.2 fun _ => Part.isUnitChar_of_mem_name
  rw [readItems, hNumber]
  simp [hTaken, p.ofName?_name, addUnits?_eq_some hProper hSum]

/-- Behind a part and a blank the next part begins. -/
theorem readItems_next {x : Char} (hx : x.isDigit = true) (fuel : Nat)
    (hSum : d.nanoseconds + p.nanoseconds < 18446744073709551616 * 1000000000) :
    readItems (fuel + 1) d (c.toNat - 48) (cs ++ (p.name.toList ++ ' ' :: x :: rest)) =
      readItems fuel ⟨d.nanoseconds + p.nanoseconds, hSum⟩ (x.toNat - 48) rest := by
  have hNumber := readNumber_part hDigits (count_lt_wordLimit hProper (by omega)) (' ' :: x :: rest)
  have hSpace : isUnitChar ' ' = false ∧ ' '.isDigit = false ∧ isBlank ' ' = true := by decide
  have hTaken : (p.name.toList ++ ' ' :: x :: rest).takeWhile isUnitChar = p.name.toList := by
    rw [List.takeWhile_append_of_pos fun _ => Part.isUnitChar_of_mem_name, List.takeWhile_cons_of_neg (by simp [hSpace]), List.append_nil]
  have hTrim : trimStart (x :: rest) = x :: rest :=
    List.dropWhile_cons_of_neg (by simp [isBlank_of_isDigit hx])
  rw [readItems, hNumber]
  simp [hTaken, p.ofName?_name, addUnits?_eq_some hProper hSum, hSpace, hTrim, hx]

end One

/-! ### Reading a row of parts -/

/-- The nanoseconds of all parts. -/
def total : List Part → Nat
  | [] => 0
  | p :: ps => p.nanoseconds + total ps

/-- Parts behind another one, each after a blank. -/
def behind (ps : List Part) : List Char := ps.flatMap fun p => ' ' :: p.text.toList

theorem behind_nil : behind [] = [] := rfl

theorem behind_cons (p : Part) (ps : List Part) : behind (p :: ps) = ' ' :: p.text.toList ++ behind ps :=
  List.flatMap_cons

theorem length_le_behind (ps : List Part) : ps.length ≤ (behind ps).length := by
  induction ps with
  | nil => exact Nat.zero_le _
  | cons p ps ih =>
      rw [behind_cons, List.cons_append, List.length_cons, List.length_cons, List.length_append]
      omega

theorem total_cons (p : Part) (ps : List Part) : total (p :: ps) = p.nanoseconds + total ps :=
  rfl

/-- From the first digit of a part on, everything is added up. -/
theorem readItems_row {fuel : Nat} (hDigits : Nat.toDigits 10 p.count = c :: cs) (hFuel : ps.length < fuel)
    (hProper : ∀ q ∈ p :: ps, q.IsProper)
    (hSum : d.nanoseconds + total (p :: ps) < 18446744073709551616 * 1000000000) :
    readItems fuel d (c.toNat - 48) (cs ++ (p.name.toList ++ behind ps)) =
      some ⟨d.nanoseconds + total (p :: ps), hSum⟩ := by
  obtain ⟨hFirst, hMore⟩ := List.forall_mem_cons.1 hProper
  obtain ⟨fuel, rfl⟩ := Nat.exists_eq_add_one_of_ne_zero (Nat.ne_zero_of_lt hFuel)
  induction ps generalizing d p c cs fuel with
  | nil =>
      have hTotal : total [p] = p.nanoseconds := total_cons p []
      simp only [hTotal] at hSum ⊢
      rw [behind_nil, List.append_nil]
      exact readItems_last hDigits hFirst fuel hSum
  | cons q ps ih =>
      obtain ⟨hNext, hRest⟩ := List.forall_mem_cons.1 hMore
      obtain ⟨x, xs, hText, hx⟩ := exists_digit q.count
      have hBehind : behind (q :: ps) = ' ' :: x :: (xs ++ (q.name.toList ++ behind ps)) := by
        simp [behind_cons, Part.toList_text, hText]
      simp only [total_cons p, ← Nat.add_assoc] at hSum ⊢
      obtain ⟨fuel, rfl⟩ := Nat.exists_eq_add_one_of_ne_zero (Nat.ne_zero_of_lt (Nat.lt_of_succ_lt_succ hFuel))
      rw [hBehind, readItems_next hDigits hFirst hx (fuel + 1) (by omega)]
      exact ih hText hMore hSum hNext hRest fuel (Nat.lt_of_succ_lt_succ hFuel)

theorem toList_row (p : Part) (ps : List Part) : (" ".intercalate ((p :: ps).map Part.text)).toList =
    p.text.toList ++ behind ps := by
  induction ps generalizing p with
  | nil => simp [behind_nil]
  | cons q ps ih =>
      rw [List.map_cons, String.toList_intercalate, List.map_cons, List.map_cons, List.map_cons,
        List.intercalate_cons_cons, ← List.map_cons, ← List.map_cons, ← String.toList_intercalate, ih,
        behind_cons]
      simp

/-- A row of parts with blanks between them is read as their sum. -/
theorem read?_row (hProper : ∀ q ∈ p :: ps, q.IsProper)
    (hSum : total (p :: ps) < 18446744073709551616 * 1000000000) :
    read? (" ".intercalate ((p :: ps).map Part.text)).toList = some ⟨total (p :: ps), hSum⟩ := by
  obtain ⟨c, cs, hText, hc⟩ := exists_digit p.count
  rw [toList_row, Part.toList_text, hText, List.append_assoc, List.cons_append]
  have hNotZero : c :: (cs ++ (p.name.toList ++ behind ps)) ≠ ['0'] := by
    simp [p.toList_name_ne_nil]
  have hTrim : trimStart (c :: (cs ++ (p.name.toList ++ behind ps))) =
      c :: (cs ++ (p.name.toList ++ behind ps)) :=
    List.dropWhile_cons_of_neg (by simp [isBlank_of_isDigit hc])
  have hFuel : ps.length < (c :: (cs ++ (p.name.toList ++ behind ps))).length := by
    have hBehind := length_le_behind ps
    simp only [List.length_cons, List.length_append]
    omega
  have hItems := readItems_row (d := zero) hText hFuel hProper (by simpa [zero] using hSum)
  rw [read?, if_neg hNotZero, hTrim]
  simp only [hc, if_true, hItems]
  simp [zero]

/-! ### Writing -/

/-- The parts that a length of time is written as. -/
def parts (d : Duration) : List Part :=
  let inYear := d.seconds % 31557600
  let inMonth := inYear % 2630016
  let inDay := inMonth % 86400
  [⟨d.seconds / 31557600, .year⟩, ⟨inYear / 2630016, .month⟩, ⟨inMonth / 86400, .day⟩,
    ⟨inDay / 3600, .hour⟩, ⟨inDay % 3600 / 60, .minute⟩, ⟨inDay % 60, .second⟩,
    ⟨d.remainder / 1000000, .millisecond⟩, ⟨d.remainder / 1000 % 1000, .microsecond⟩,
    ⟨d.remainder % 1000, .nanosecond⟩]

theorem item_eq (p : Part) : item p.count p.name = ([p].filter (·.count ≠ 0)).map Part.text := by
  unfold item
  by_cases hZero : p.count = 0
  · rw [if_pos hZero, List.filter_cons_of_neg (by simp [hZero])]
    rfl
  · rw [if_neg hZero, List.filter_cons_of_pos (by simp [hZero])]
    rfl

theorem items_eq (d : Duration) : d.items = ((parts d).filter (·.count ≠ 0)).map Part.text := by
  have hPlural : "year" ++ "s" = "years" ∧ "month" ++ "s" = "months" ∧ "day" ++ "s" = "days" := by decide
  have hParts (ps : List Part) :
      (ps.filter (·.count ≠ 0)).map Part.text = ps.flatMap fun p => item p.count p.name := by
    induction ps with
    | nil => rfl
    | cons p ps ih =>
        rw [List.flatMap_cons, item_eq, ← ih, ← List.map_append, ← List.filter_append, List.singleton_append]
  rw [hParts]
  simp only [items, parts, itemPlural, Part.name, hPlural, List.flatMap_cons, List.flatMap_nil,
    List.append_nil, List.append_assoc]

theorem total_filter (ps : List Part) : total (ps.filter (·.count ≠ 0)) = total ps := by
  induction ps with
  | nil => rfl
  | cons p ps ih =>
      rw [List.filter_cons, total_cons]
      split
      · rw [total_cons, ih]
      · rename_i hZero
        have hCount : p.count = 0 := by simpa using hZero
        rw [ih, Part.nanoseconds, hCount, Nat.zero_mul, Nat.zero_add]

theorem isProper_of_mem_parts (h : p ∈ parts d) : p.IsProper := by
  have hRemainder : d.remainder < 1000000000 := Nat.mod_lt _ (by decide)
  unfold parts at h
  simp only [List.mem_cons, List.not_mem_nil, or_false] at h
  rcases h with rfl | rfl | rfl | rfl | rfl | rfl | rfl | rfl | rfl <;>
    simp only [Part.IsProper, Part.nanoseconds, Unit.nanoseconds] <;> omega

theorem total_parts (d : Duration) : total (parts d) = d.nanoseconds := by
  have hSplit : d.nanoseconds = d.seconds * 1000000000 + d.remainder := (Nat.div_add_mod' ..).symm
  have hNil : total [] = 0 := rfl
  unfold parts
  simp only [total_cons, hNil]
  unfold Part.nanoseconds Unit.nanoseconds
  simp only
  omega

/-- What is written of a length of time is read back as the same one. -/
theorem read?_render (d : Duration) : read? d.render.toList = some d := by
  have hTotal : total ((parts d).filter (·.count ≠ 0)) = d.nanoseconds :=
    (total_filter _).trans (total_parts d)
  rw [render]
  split
  · rename_i hZero
    have hd : d = zero := by
      cases d
      simpa [zero] using hZero
    rw [hd]
    decide
  · rename_i hSome
    rw [items_eq]
    cases hParts : (parts d).filter (·.count ≠ 0) with
    | nil =>
        rw [hParts] at hTotal
        exact absurd hTotal.symm hSome
    | cons p ps =>
        rw [hParts] at hTotal
        have hProper : ∀ q ∈ p :: ps, q.IsProper := fun q hq =>
          isProper_of_mem_parts (List.mem_filter.1 (hParts ▸ hq)).1
        rw [read?_row hProper (hTotal ▸ d.bounded)]
        simp only [hTotal]

example : render ⟨18446744073709551615999999999, by decide⟩ =
    "584542046090years 7months 15days 17h 5m 3s 999ms 999us 999ns" := by
  decide +kernel

end Lookout.Duration
