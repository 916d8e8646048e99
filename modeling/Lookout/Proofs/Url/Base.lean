import Lookout.Url.Parse
import Mathlib.Tactic.SplitIfs
/-!
Addresses with a common base. Whether an address of the web can be read is settled by what stands
before the slash behind its host: every reader up to there gives the same, whatever follows the
slash. So any text can be put behind a base address that can itself be read with a slash behind it.
-/
namespace Lookout.Url

variable {scheme : String} {cs : List Char}

theorem takeWhile_slash {p : Char → Bool} (h : p '/' = false) (cs tail : List Char) :
    (cs ++ '/' :: tail).takeWhile p = cs.takeWhile p := by
  induction cs with
  | nil => simp [h]
  | cons c cs ih =>
      rw [List.cons_append, List.takeWhile_cons, List.takeWhile_cons, ih]

theorem drop_takeWhile_slash {p : Char → Bool} (cs tail : List Char) :
    (cs ++ '/' :: tail).drop (cs.takeWhile p).length =
      cs.drop (cs.takeWhile p).length ++ '/' :: tail :=
  List.drop_append_of_le_length (List.takeWhile_sublist p).length_le

theorem endsAuthority_slash (isSpecial : Bool) : endsAuthority isSpecial '/' = true := by
  cases isSpecial <;> decide

/-! ### Parts of an authority -/

/-- A port ends before a slash. -/
theorem readPort_slash (scheme : String) (cs : List Char) :
    (∃ e, ∀ tail, readPort scheme (cs ++ '/' :: tail) = .error e) ∨
      ∃ port more, ∀ tail, readPort scheme (cs ++ '/' :: tail) = .ok (port, more ++ '/' :: tail) := by
  have hDigits (tail : List Char) := takeWhile_slash (p := Char.isDigit) (by decide) cs tail
  have hRest (tail : List Char) := drop_takeWhile_slash (p := Char.isDigit) cs tail
  simp only [readPort, hDigits, hRest]
  cases hMore : cs.drop (cs.takeWhile Char.isDigit).length with
  | nil =>
      simp only [List.nil_append]
      split_ifs
      · exact .inl ⟨_, fun _ => rfl⟩
      · exact .inr ⟨_, [], fun _ => rfl⟩
      · exact .inr ⟨_, [], fun _ => rfl⟩
  | cons c more =>
      simp only [List.cons_append]
      split_ifs
      · exact .inl ⟨_, fun _ => rfl⟩
      · exact .inr ⟨_, c :: more, fun _ => rfl⟩
      · exact .inr ⟨_, c :: more, fun _ => rfl⟩

/-- So does a user name with a password. -/
theorem readUser_slash (cs : List Char) :
    (∃ e, ∀ tail, readUser true (cs ++ '/' :: tail) = .error e) ∨
      ∃ name password more, ∀ tail,
        readUser true (cs ++ '/' :: tail) = .ok (name, password, more ++ '/' :: tail) := by
  have hAuthority (tail : List Char) :=
    takeWhile_slash (p := fun c => !endsAuthority true c) (by decide) cs tail
  simp only [readUser, hAuthority]
  cases hInfo : (cs.takeWhile fun c => !endsAuthority true c).reverse.dropWhile (· != '@') with
  | nil => exact .inr ⟨_, _, cs, fun _ => rfl⟩
  | cons _ reversed =>
      -- The at sign stands before the slash, and so does all that it ends.
      have hLength : reversed.reverse.length + 1 ≤ cs.length := by
        have hInner := (List.dropWhile_sublist (· != '@')
          (l := (cs.takeWhile fun c => !endsAuthority true c).reverse)).length_le
        have hOuter := (List.takeWhile_sublist (fun c => !endsAuthority true c) (l := cs)).length_le
        rw [hInfo, List.length_cons, List.length_reverse] at hInner
        rw [List.length_reverse]
        omega
      have hRest (tail : List Char) : (cs ++ '/' :: tail).drop (reversed.reverse.length + 1) =
          cs.drop (reversed.reverse.length + 1) ++ '/' :: tail := List.drop_append_of_le_length hLength
      simp only [hRest]
      by_cases hNobody : reversed.reverse.isEmpty = true
      · simp only [hNobody, if_true]
        cases hMore : cs.drop (reversed.reverse.length + 1) with
        | nil => exact .inl ⟨_, fun _ => rfl⟩
        | cons c more =>
            simp only [List.cons_append]
            split_ifs
            · exact .inl ⟨_, fun _ => rfl⟩
            · exact .inr ⟨_, _, c :: more, fun _ => rfl⟩
      · simp only [hNobody]
        exact .inr ⟨_, _, _, fun _ => rfl⟩

theorem hostChars_slash (inBrackets : Bool) (cs tail : List Char) :
    hostChars true inBrackets (cs ++ '/' :: tail) = hostChars true inBrackets cs := by
  induction cs generalizing inBrackets with
  | nil => simp [hostChars, endsAuthority_slash]
  | cons c cs ih => simp only [List.cons_append, hostChars, ih]

theorem length_hostChars_le (isSpecial inBrackets : Bool) (cs : List Char) :
    (hostChars isSpecial inBrackets cs).length ≤ cs.length := by
  induction cs generalizing inBrackets with
  | nil => exact Nat.le_refl 0
  | cons c cs ih =>
      have hRest (inBrackets : Bool) : (hostChars isSpecial inBrackets cs).length + 1 ≤ cs.length + 1 :=
        Nat.succ_le_succ (ih inBrackets)
      rw [hostChars]
      split_ifs
      · exact Nat.zero_le _
      all_goals exact hRest _

/-- And so does a host with a port. -/
theorem readHost_slash (scheme : String) (cs : List Char) :
    (∃ e, ∀ tail, readHost .special scheme (cs ++ '/' :: tail) = .error e) ∨
      ∃ host port more, ∀ tail,
        readHost .special scheme (cs ++ '/' :: tail) = .ok (host, port, more ++ '/' :: tail) := by
  have hRest (tail : List Char) : (cs ++ '/' :: tail).drop (hostChars true false cs).length =
      cs.drop (hostChars true false cs).length ++ '/' :: tail :=
    List.drop_append_of_le_length (length_hostChars_le ..)
  have hSpecial : (Kind.special != Kind.other) = true := rfl
  simp only [readHost, hSpecial, hostChars_slash, hRest, Bool.true_and, if_true, bind, Except.bind, pure,
    Except.pure]
  by_cases hNone : (hostChars true false cs).isEmpty = true
  · simp only [hNone, if_true]
    exact .inl ⟨_, fun _ => rfl⟩
  simp only [hNone, Bool.false_eq_true, if_false]
  cases hHost : specialHost (hostChars true false cs) with
  | error e => exact .inl ⟨e, fun _ => rfl⟩
  | ok host =>
      cases hMore : cs.drop (hostChars true false cs).length with
      | nil => exact .inr ⟨_, none, [], fun _ => rfl⟩
      | cons c more =>
          by_cases hColon : c = ':'
          · subst hColon
            simp only [List.cons_append]
            by_cases hEmpty : (host == .domain "") = true
            · simp only [hEmpty, if_true]
              exact .inl ⟨_, fun _ => rfl⟩
            · simp only [hEmpty]
              rcases readPort_slash scheme more with ⟨e, hPort⟩ | ⟨port, behind, hPort⟩
              · exact .inl ⟨e, fun tail => by rw [hPort]; rfl⟩
              · exact .inr ⟨some host, port, behind, fun tail => by rw [hPort]; rfl⟩
          · refine .inr ⟨if host == .domain "" then none else some host, none, c :: more, fun tail => ?_⟩
            simp only [List.cons_append]
            split
            · rename_i hSame
              exact absurd (List.cons.inj hSame).1 hColon
            · rfl

/-- An address is read, or not, whatever follows the slash behind its host. -/
theorem readAuthority_slash (scheme : String) (cs : List Char) :
    (∃ e, ∀ tail, readAuthority .special scheme (cs ++ '/' :: tail) = .error e) ∨
      ∀ tail, ∃ url, readAuthority .special scheme (cs ++ '/' :: tail) = .ok url ∧
        url.scheme = scheme := by
  have hSpecial : (Kind.special != Kind.other) = true := rfl
  simp only [readAuthority, hSpecial, bind, Except.bind, pure, Except.pure]
  rcases readUser_slash cs with ⟨e, hUser⟩ | ⟨name, password, more, hUser⟩
  · exact .inl ⟨e, fun tail => by rw [hUser]⟩
  rcases readHost_slash scheme more with ⟨e, hHost⟩ | ⟨host, port, behind, hHost⟩
  · exact .inl ⟨e, fun tail => by rw [hUser]; simp only [hHost]⟩
  simp only [hUser, hHost]
  split_ifs
  · exact .inl ⟨_, fun _ => rfl⟩
  · exact .inr fun tail => ⟨_, rfl, rfl⟩

theorem readAuthority_nil (scheme : String) :
    readAuthority .special scheme [] = .error .emptyHost := rfl

/-! ### Whole addresses -/

theorem scheme_of_readAuthority {kind : Kind} {url : Url} (h : readAuthority kind scheme cs = .ok url) :
    url.scheme = scheme := by
  simp only [readAuthority, bind, Except.bind, pure, Except.pure] at h
  split at h
  · cases h
  · split at h
    · cases h
    · split_ifs at h
      · cases h
        rfl

theorem scheme_of_readFile {url : Url} (h : readFile cs = .ok url) : url.scheme = "file" := by
  unfold readFile at h
  simp only [bind, Except.bind, pure, Except.pure] at h
  split at h
  · split_ifs at h
    · cases h
      rfl
    · cases h
      rfl
    · split at h
      · cases h
      · cases h
        rfl
    · cases h
      rfl
  · cases h
    rfl

/-- Whether a character counts within an address. -/
def isKept (c : Char) : Bool := !(c == '\t' || c == '\n' || c == '\r')

/-- What counts of a text: no blanks around it, and no line breaks within it. -/
def cleaned (cs : List Char) : List Char :=
  ((cs.dropWhile (·.toNat ≤ 32)).reverse.dropWhile (·.toNat ≤ 32)).reverse.filter isKept

/-- A slash within a text counts, and so does all behind it but line breaks. -/
theorem cleaned_slash (cs : List Char) {tail : List Char} (hTail : ∀ c ∈ tail.getLast?, 32 < c.toNat) :
    cleaned (cs ++ '/' :: tail) =
      (cs.dropWhile (·.toNat ≤ 32)).filter isKept ++ '/' :: tail.filter isKept := by
  have hFront : (cs ++ '/' :: tail).dropWhile (·.toNat ≤ 32) =
      cs.dropWhile (·.toNat ≤ 32) ++ '/' :: tail := by
    rw [List.dropWhile_append]
    split
    · rename_i hNone
      rw [List.isEmpty_iff.1 hNone]
      rfl
    · rfl
  have hEnd : ('/' :: tail).reverse.dropWhile (·.toNat ≤ 32) = ('/' :: tail).reverse := by
    rcases List.eq_nil_or_concat tail with rfl | ⟨front, c, rfl⟩
    · rfl
    · have hLast : 32 < c.toNat := hTail c (by simp)
      simp [hLast]
  have hSome : ((('/' :: tail).reverse.dropWhile (·.toNat ≤ 32)).isEmpty) = false := by
    rw [hEnd]
    simp
  rw [cleaned, hFront, List.reverse_append, List.dropWhile_append, hSome, if_neg Bool.false_ne_true, hEnd,
    List.reverse_append, List.reverse_reverse, List.reverse_reverse, List.filter_append]
  rfl

/-- The scheme of an address stands before the slash, or there is none. -/
theorem scheme?_slash (cs : List Char) :
    (∀ tail, scheme? (cs ++ '/' :: tail) = none) ∨
      ∃ scheme more, ∀ tail, scheme? (cs ++ '/' :: tail) = some (scheme, more ++ '/' :: tail) := by
  cases cs with
  | nil => exact .inl fun _ => rfl
  | cons c cs =>
      have hName (tail : List Char) := takeWhile_slash
        (p := fun c => c.isAlphanum || c == '+' || c == '-' || c == '.') (by decide) (c :: cs) tail
      have hRest (tail : List Char) := drop_takeWhile_slash
        (p := fun c => c.isAlphanum || c == '+' || c == '-' || c == '.') (c :: cs) tail
      simp only [List.cons_append] at hName hRest
      simp only [List.cons_append, scheme?, hName, hRest]
      by_cases hLetter : (!c.isAlpha) = true
      · exact .inl fun _ => if_pos hLetter
      simp only [hLetter, Bool.false_eq_true, if_false]
      cases hMore : (c :: cs).drop
          ((c :: cs).takeWhile fun c => c.isAlphanum || c == '+' || c == '-' || c == '.').length with
      | nil => exact .inl fun _ => rfl
      | cons d more =>
          by_cases hColon : d = ':'
          · subst hColon
            exact .inr ⟨_, more, fun _ => rfl⟩
          · refine .inl fun tail => ?_
            simp only [List.cons_append]
            split
            · rename_i hSame
              exact absurd (List.cons.inj hSame).1 hColon
            · rfl

/-- An address with a scheme of the web is read from its authority on, past any slashes. -/
theorem parse_special {text : String} {rest : List Char}
    (hScheme : scheme? (cleaned text.toList) = some (scheme, rest)) (hKind : kindOf scheme = .special) :
    parse text = readAuthority .special scheme (rest.dropWhile fun c => c == '/' || c == '\\') := by
  unfold cleaned isKept at hScheme
  simp only [parse, hScheme, hKind]

/-- The scheme of an address is the one at the start of its text. -/
theorem scheme_of_parse {text : String} {url : Url} (h : parse text = .ok url) :
    ∃ rest, scheme? (cleaned text.toList) = some (url.scheme, rest) := by
  cases hScheme : scheme? (cleaned text.toList) with
  | none =>
      unfold cleaned isKept at hScheme
      simp only [parse, hScheme] at h
      cases h
  | some read =>
      obtain ⟨scheme, rest⟩ := read
      suffices hSame : url.scheme = scheme from ⟨rest, by rw [hSame]⟩
      unfold cleaned isKept at hScheme
      simp only [parse, hScheme] at h
      cases hKind : kindOf scheme with
      | file =>
          simp only [hKind] at h
          unfold kindOf at hKind
          split_ifs at hKind with hFile
          rw [scheme_of_readFile h, eq_of_beq hFile]
      | special =>
          simp only [hKind] at h
          exact scheme_of_readAuthority h
      | other =>
          simp only [hKind] at h
          split at h
          · exact scheme_of_readAuthority h
          · cases h
            rfl
          · cases h
            rfl

/-- Any text can be put behind a base address with a slash, when that is an address of the web. -/
theorem parse_slash {base tail : String} {url : Url} (hBase : parse (base ++ "/") = .ok url)
    (hKind : kindOf url.scheme = .special) (hTail : ∀ c ∈ tail.toList.getLast?, 32 < c.toNat) :
    ∃ whole, parse (base ++ "/" ++ tail) = .ok whole ∧ whole.scheme = url.scheme := by
  have hText : (base ++ "/").toList = base.toList ++ '/' :: [] := by simp
  have hWhole : (base ++ "/" ++ tail).toList = base.toList ++ '/' :: tail.toList := by simp
  have hNone : ∀ c ∈ ([] : List Char).getLast?, 32 < c.toNat := by simp
  obtain ⟨rest, hRead⟩ := scheme_of_parse hBase
  rw [parse_special hRead hKind] at hBase
  rw [hText, cleaned_slash base.toList hNone] at hRead
  rcases scheme?_slash ((base.toList.dropWhile (·.toNat ≤ 32)).filter isKept) with hNo | ⟨scheme, more, hScheme⟩
  · cases hRead.symm.trans (hNo _)
  · rw [hScheme] at hRead
    obtain ⟨rfl, rfl⟩ := Prod.mk.inj (Option.some.inj hRead)
    have hNext : scheme? (cleaned (base ++ "/" ++ tail).toList) =
        some (url.scheme, more ++ '/' :: tail.toList.filter isKept) := by
      rw [hWhole, cleaned_slash base.toList hTail, hScheme]
    rw [parse_special hNext hKind]
    rw [List.dropWhile_append] at hBase ⊢
    split at hBase
    · -- Nothing but slashes before the last one leaves no host.
      change readAuthority .special url.scheme [] = .ok url at hBase
      cases hBase.symm.trans (readAuthority_nil url.scheme)
    · rename_i hSome
      rw [if_neg hSome]
      rcases readAuthority_slash url.scheme (more.dropWhile fun c => c == '/' || c == '\\')
        with ⟨e, hFails⟩ | hReads
      · cases hBase.symm.trans (hFails _)
      · exact hReads _

end Lookout.Url
