import Lookout.Query.Collections
import Lookout.Query.Document
import Lookout.Query.Matching
import Lookout.Query.Times
/-!
Operations on values: each gives one value, or fails.
-/
namespace Lookout.Query.Operation

/-- The values of functions of one number. -/
def onFloat (v : Value) (f : Float → Value) : Result Value := v.toFloat.map f

/-- The result of an operation on the input and the values of its arguments; there is none for
operations on streams and filters, and for a wrong number of arguments. -/
def onValues? (op : Operation) (v : Value) (args : List Value) : Option (Result Value) :=
  match op, args with
  | .length, [] => some v.length
  | .byteLength, [] => some (v.toStr.map fun s => .ofNat s.utf8ByteSize)
  | .keysUnsorted, [] => some (v.keysUnsorted.map .array)
  | .contains, [w] => some (.ok (.bool (v.contains (w.depth + v.depth + 1) w)))
  | .has, [key] => some ((v.has key).map .bool)
  | .indices, [w] => some ((v.indices w).map fun ns => .array (ns.map .ofNat))
  | .search, [w] => some (v.search w)
  | .fromJson, [] => some (Document.ofText v)
  | .toJson, [] => some (.ok (.string v.render))
  | .reverse, [] => some (v.toItems.map fun items => .array items.reverse)
  | .sort, [] => some (v.toItems.map fun items => .array (items.mergeSort Value.atMost))
  | .joinTexts, [separator] => some (Texts.join v separator)
  | .explode, [] => some (Texts.explode v)
  | .implode, [] => some (Texts.implode v)
  | .trim, [] => some (Texts.onChars Text.trim v)
  | .trimStart, [] => some (Texts.onChars Text.trimStart v)
  | .trimEnd, [] => some (Texts.onChars Text.trimEnd v)
  | .dropStart, [w] => some (Texts.dropStart v w)
  | .dropEnd, [w] => some (Texts.dropEnd v w)
  | .startsWith, [w] => some (Texts.startsWith v w)
  | .endsWith, [w] => some (Texts.endsWith v w)
  | .lowerAscii, [] => some (Texts.onChars (·.map Char.toLower) v)
  | .upperAscii, [] => some (Texts.onChars (·.map Char.toUpper) v)
  | .split, [w] => some (Texts.split v w)
  | .splitMatching, [pattern, flags] => some (Matching.search true false v pattern flags)
  | .matching, [pattern, flags] => some (Matching.search false true v pattern flags)
  | .splitAround, [pattern, flags] => some (Matching.search true true v pattern flags)
  | .encodeBase64, [] => some (Texts.encodeBase64 v)
  | .decodeBase64, [] => some (Texts.decodeBase64 v)
  | .escapeHtml, [] => some (Texts.onChars (·.flatMap Texts.escapeMarkup) v)
  | .encodeUri, [] => some (Texts.encodeUri v)
  | .decodeUri, [] => some (Texts.decodeUri v)
  | .escapeCsv, [] => some (Texts.onChars Texts.escapeCsv v)
  | .escapeShell, [] => some (Texts.onChars Texts.escapeShell v)
  | .escapeTabs, [] => some (Texts.onChars (·.flatMap Texts.escapeTab) v)
  | .round direction, [] => some (Numbers.round direction v)
  | .unary f, [] => some (onFloat v fun x => .float (Numbers.unary f x))
  | .binary f, [a, b] => some do
    let x ← a.toFloat
    let y ← b.toFloat
    return .float (Numbers.binary f x y)
  | .multiplyAdd, [a, b, c] => some do
    let x ← a.toFloat
    let y ← b.toFloat
    let z ← c.toFloat
    return .float (Numbers.multiplyAdd x y z)
  | .frexp, [] => some (onFloat v fun x =>
    let (m, e) := Numbers.fractionAndPower x
    .array [.float m, .int e])
  | .modf, [] => some (onFloat v fun x =>
    let (part, whole) := Numbers.parts x
    .array [.float part, .float whole])
  | .ldexp, [a, b] => some do
    let x ← a.toFloat
    let e ← b.toInt
    return .float (x.scaleB (max (-5000) (min 5000 e)))
  | .ilogb, [] => some (onFloat v fun x => .int (Numbers.leadingBit x))
  | .formatTime, [format] => some (Times.format v format)
  | .formatLocal, [format] => some (Times.format v format)
  | .parseTime, [format] => some (Times.parse v format)
  | .breakDown, [] => some (Times.breakDown v)
  | .localTime, [] => some (Times.breakDown v)
  | .toEpoch, [] => some (Times.ofArray v)
  | .toIso, [] => some (Times.toStandard v)
  | .fromIso, [] => some (Times.ofStandard v)
  | .now, [] => some (.ok (.int 0))
  | .environment, [] => some (.ok (.object []))
  | _, _ => none

end Lookout.Query.Operation
