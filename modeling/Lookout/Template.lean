import Lookout.Text.Word
/-!
Message templates. A dollar sign followed by a name, or by a name between braces, is a placeholder;
everything else is literal. The segments of a template depend on its text alone, and rendering
replaces each placeholder once, so that values are never looked through again.
-/
namespace Lookout

/-- A stretch of a template. -/
inductive Segment where
  | literal (cs : List Char)
  /-- A dollar sign and a name, which may stand between braces. -/
  | placeholder (braced : Bool) (name : List Char)
  deriving DecidableEq, Repr

namespace Segment

/-- The text that a segment was read from. -/
def source : Segment → List Char
  | literal cs => cs
  | placeholder true name => ['$', '\x7b'] ++ name ++ ['\x7d']
  | placeholder false name => '$' :: name

/-- The text that a segment becomes: a placeholder without a value stays as it is written. -/
def render (bindings : List (String × String)) : Segment → List Char
  | literal cs => cs
  | placeholder braced name =>
    match bindings.lookup (String.ofList name) with
    | some value => value.toList
    | none => (placeholder braced name).source

end Segment

namespace Template

/-- The placeholder that the characters after a dollar sign make, and what follows it. -/
def placeholder? (cs : List Char) : Option (Segment × List Char) :=
  match cs with
  | '\x7b' :: rest =>
    match rest.takeWhile Text.isWord, rest.dropWhile Text.isWord with
    | c :: name, '\x7d' :: after => some (.placeholder true (c :: name), after)
    | _, _ => none
  | cs =>
    match cs.takeWhile Text.isWord, cs.dropWhile Text.isWord with
    | c :: name, after => some (.placeholder false (c :: name), after)
    | [], _ => none

theorem length_dropWhile_le {α : Type} (p : α → Bool) (l : List α) :
    (l.dropWhile p).length ≤ l.length :=
  (List.dropWhile_sublist p).length_le

/-- What follows a placeholder is no longer than what followed the dollar sign. -/
theorem length_of_placeholder? {cs after : List Char} {s : Segment}
    (h : placeholder? cs = some (s, after)) : after.length ≤ cs.length := by
  unfold placeholder? at h
  split at h
  · rename_i rest
    split at h
    · rename_i c name tail _ htail
      have hle := length_dropWhile_le Text.isWord rest
      rw [htail] at hle
      simp only [Option.some.injEq, Prod.mk.injEq] at h
      rw [← h.2]
      simp only [List.length_cons] at hle ⊢
      omega
    · simp at h
  · split at h
    · simp only [Option.some.injEq, Prod.mk.injEq] at h
      rw [← h.2]
      exact length_dropWhile_le Text.isWord cs
    · simp at h

/-- A character in front of segments, as part of a literal. -/
def addLiteral (c : Char) : List Segment → List Segment
  | .literal cs :: rest => .literal (c :: cs) :: rest
  | segments => .literal [c] :: segments

/-- The segments of a template. -/
def segments (cs : List Char) : List Segment :=
  match cs with
  | [] => []
  | c :: rest =>
    if c = '$' then
      match _h : placeholder? rest with
      | some (s, after) => s :: segments after
      | none => addLiteral c (segments rest)
    else addLiteral c (segments rest)
termination_by cs.length
decreasing_by
  · have := length_of_placeholder? ‹_›
    simp only [List.length_cons]; omega
  · simp
  · simp

/-- The text of a template with the values of variables in place of their names. -/
def render (template : String) (bindings : List (String × String)) : String :=
  String.ofList ((segments template.toList).flatMap (Segment.render bindings))

end Template

end Lookout
