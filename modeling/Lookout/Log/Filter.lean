import Lookout.Config.Basic
import Lookout.Decimal.Reading
import Lookout.Decimal.Shortest
import Lookout.Pattern.Syntax
import Lookout.Text.Blank
import Lookout.Text.Word
/-!
Filters of log lines. A filter is a list of directives; each lets through the lines of a target up
to a threshold, and may ask for a span or for a field of one. The most specific directive that
concerns a line decides.
-/
namespace Lookout.Log

/-- How severe a log line is. -/
inductive Level where
  | error | warn | info | debug | trace
  deriving DecidableEq, Repr, Inhabited

namespace Level

/-- The name of a level on log lines. -/
def name : Level → String
  | error => "ERROR"
  | warn => "WARN"
  | info => "INFO"
  | debug => "DEBUG"
  | trace => "TRACE"

/-- The number of a level; less severe levels have larger numbers. -/
def rank : Level → Nat
  | error => 1
  | warn => 2
  | info => 3
  | debug => 4
  | trace => 5

end Level

/-- The least severe level that passes; nothing passes `off`. -/
inductive Threshold where
  | off
  | upTo (l : Level)
  deriving DecidableEq, Repr, Inhabited

namespace Threshold

/-- The name of a threshold. -/
def name : Threshold → String
  | off => "off"
  | upTo .error => "error"
  | upTo .warn => "warn"
  | upTo .info => "info"
  | upTo .debug => "debug"
  | upTo .trace => "trace"

/-- All thresholds in increasing order. -/
def all : List Threshold := [off, upTo .error, upTo .warn, upTo .info, upTo .debug, upTo .trace]

/-- The number of a threshold. -/
def rank : Threshold → Nat
  | off => 0
  | upTo l => l.rank

/-- Whether a line of a level passes. -/
def allows (t : Threshold) (l : Level) : Bool := l.rank ≤ t.rank

/-- A whole number without a sign, or with a plus sign. -/
def number? (cs : List Char) : Option Nat :=
  let digits := match cs with
    | '+' :: rest => rest
    | _ => cs
  if digits.isEmpty || !digits.all Char.isDigit then none
  else some (digits.foldl (fun n c => n * 10 + (c.toNat - 48)) 0)

/-- Reads a threshold, which is a number or a name in any mix of cases. -/
def read? (cs : List Char) : Option Threshold :=
  match (number? cs).bind (all[·]?) with
  | some t => some t
  | none => all.find? fun t => t.name.toList == cs.map Char.toLower

end Threshold

/-- The value that a field has to have. -/
inductive Wanted where
  | bool (b : Bool)
  | float (x : Float)
  | integer (n : Int)
  /-- The text of a value matches a pattern. -/
  | matching (pattern : String)

namespace Wanted

/-- The text of a wanted value. -/
def render : Wanted → String
  | bool b => toString b
  | float x => if x.isNaN then "NaN" else if x.isInf then (if x < 0.0 then "-inf" else "inf")
    else Decimal.Style.plain.ofFloat x
  | integer n => toString n
  | matching pattern => pattern

/-- The place of a kind of values in the order of directives. -/
def kind : Wanted → Nat
  | bool _ => 0
  | float _ => 1
  | integer _ => 2
  | matching _ => 3

/-- Reads a wanted value. What is no truth value and no number is a pattern. -/
def read? (cs : List Char) : Option Wanted :=
  let text := String.ofList cs
  if text == "true" then some (bool true)
  else if text == "false" then some (bool false)
  else
    match Threshold.number? cs, cs with
    | some n, _ => if n < 18446744073709551616 then some (integer n) else (Decimal.floatOf? text).map float
    | none, '-' :: rest =>
      match Threshold.number? rest with
      | some n => if n ≤ 9223372036854775808 then some (integer (-n)) else (Decimal.floatOf? text).map float
      | none => numberOrPattern text
    | none, _ => numberOrPattern text
where
  numberOrPattern (text : String) : Option Wanted :=
    match Decimal.floatOf? text with
    | some x => some (float x)
    | none =>
      match Pattern.parse {} text with
      | .ok _ => some (matching text)
      | .error _ => none

end Wanted

/-- A field that a span has to have. -/
structure Field where
  name : String
  value : Option Wanted

namespace Field

/-- The text of a field. -/
def render (f : Field) : String :=
  match f.value with
  | some v => f.name ++ "=" ++ v.render
  | none => f.name

/-- Reads a field: a name, and a value behind an equals sign. What follows a second equals sign
does not count. -/
def read? (cs : List Char) : Option Field :=
  let name := String.ofList (cs.takeWhile (· != '='))
  match cs.dropWhile (· != '=') with
  | _ :: value => (Wanted.read? (value.takeWhile (· != '='))).map fun v => ⟨name, some v⟩
  | [] => some ⟨name, none⟩

end Field

/-- Why a text is no filter. -/
inductive FilterError where
  | malformed
  | threshold
  | field
  deriving DecidableEq, Repr

/-- The wording of an error. What is wrong with a field is not told. -/
def FilterError.message : FilterError → String
  | malformed => "invalid filter directive"
  | threshold =>
    "error parsing level filter: expected one of \"off\", \"error\", \"warn\", \"info\", " ++
      "\"debug\", \"trace\", or a number 0-5"
  | field => "invalid field filter"

/-- The wording of an error from the outermost part to the innermost. -/
def FilterError.chain (e : FilterError) : List String :=
  match e with
  | malformed => [e.message]
  | threshold => [e.message, e.message]
  | field => [e.message]

/-- One part of a filter. -/
structure Directive where
  target : Option String := none
  span : Option String := none
  field : Option Field := none
  threshold : Threshold := .upTo .trace

namespace Directive

/-- The text of a directive. -/
def render (d : Directive) : String :=
  let field := match d.field with
    | some f => "\x7b" ++ f.render ++ "\x7d"
    | none => ""
  let span :=
    if d.span.isSome || d.field.isSome then "[" ++ d.span.getD "" ++ field ++ "]" else ""
  let subject := d.target.getD "" ++ span
  (if d.target.isSome || span != "" then subject ++ "=" else "") ++ d.threshold.name

/-- Whether a directive asks for a span or a field. -/
def isDynamic (d : Directive) : Bool := d.span.isSome || d.field.isSome

/-- Whether a directive can be decided without the values of fields. -/
def isStatic (d : Directive) : Bool :=
  d.span.isNone && d.field.all fun f => f.value.isNone

/-- Whether a target can begin with a character. -/
def isTargetStart (c : Char) : Bool := c == '-' || c == ':' || Text.isWord c

/-- Reads what follows a subject: nothing, or an equals sign and perhaps a threshold. -/
def withThreshold (d : Directive) : List Char → Except FilterError Directive
  | [] => .ok d
  | ['='] => .ok d
  | '=' :: cs =>
    match Threshold.read? cs with
    | some t => .ok { d with threshold := t }
    | none => .error .threshold
  | _ => .error .malformed

/-- Reads a span from behind its opening bracket. -/
def withSpan (d : Directive) (cs : List Char) : Except FilterError Directive :=
  let name := String.ofList (cs.takeWhile fun c => c != ']' && c != '\x7b')
  match cs.dropWhile fun c => c != ']' && c != '\x7b' with
  | ']' :: rest => withThreshold { d with span := some name } rest
  | '\x7b' :: rest =>
    match rest.takeWhile (· != '\x7d'), rest.dropWhile (· != '\x7d') with
    | c :: field, '\x7d' :: after =>
      match Field.read? (c :: field), after with
      | none, _ => .error .field
      | some f, ']' :: after =>
        withThreshold
          { d with span := if name.isEmpty then none else some name, field := some f } after
      | some _, _ => .error .malformed
    | _, _ => .error .malformed
  | _ => .error .malformed

/-- Reads a directive. A word alone is a threshold if it names one, and else a target. -/
def read (cs : List Char) : Except FilterError Directive :=
  match cs with
  | '[' :: rest => withSpan {} rest
  | c :: _ =>
    if !isTargetStart c then .error .malformed
    else
      let word := String.ofList (cs.takeWhile fun c => c != '=' && c != '[')
      match cs.dropWhile fun c => c != '=' && c != '[' with
      | '[' :: rest => withSpan { target := some word } rest
      | [] =>
        match Threshold.read? cs with
        | some t => .ok { threshold := t }
        | none => .ok { target := some word }
      | rest => withThreshold { target := some word } rest
  | [] => .error .malformed

/-- The order of optional texts: none comes first. -/
def compareTexts : Option String → Option String → Ordering
  | none, none => .eq
  | none, some _ => .lt
  | some _, none => .gt
  | some a, some b => compare a b

/-- How specific two fields are in relation to each other; one with a value is more so. -/
def compareFields : Option Field → Option Field → Ordering
  | none, none => .eq
  | none, some _ => .lt
  | some _, none => .gt
  | some a, some b =>
    (compare a.value.isSome.toNat b.value.isSome.toNat).then <|
    (compare a.name b.name).then <|
    (compare ((a.value.map Wanted.kind).getD 0) ((b.value.map Wanted.kind).getD 0)).then <|
    compareTexts (a.value.map Wanted.render) (b.value.map Wanted.render)

/-- How specific two directives are in relation to each other: by the length of the target, then by
whether there is a span, then by whether there is a field, and last by their texts. -/
def compareSpecific (a b : Directive) : Ordering :=
  let size (d : Directive) : Nat := (d.target.map fun t => t.utf8ByteSize + 1).getD 0
  (compare (size a) (size b)).then <|
  (compare a.span.isSome.toNat b.span.isSome.toNat).then <|
  (compare a.field.isSome.toNat b.field.isSome.toNat).then <|
  (compareTexts a.target b.target).then <|
  (compareTexts a.span b.span).then <|
  compareFields a.field b.field

/-- Adds a directive to ones in decreasing order of specificity. An equal one is replaced. -/
def insert (d : Directive) : List Directive → List Directive
  | [] => [d]
  | e :: rest =>
    match d.compareSpecific e with
    | .gt => d :: e :: rest
    | .eq => d :: rest
    | .lt => e :: insert d rest

/-- Whether a static directive concerns the lines of a target that have no field but a message. -/
def concerns (d : Directive) (target : String) : Bool :=
  d.target.all (fun t => t.isPrefixOf target) && d.field.all (fun f => f.name == "message")

end Directive

/-- Directives in decreasing order of specificity. A directive with a field that needs no value
stands in both lists. -/
structure Filter where
  statics : List Directive := []
  dynamics : List Directive := []

namespace Filter

/-- The filter of directives; of equal ones the last counts. -/
def ofDirectives (ds : List Directive) : Filter where
  statics :=
    ((ds.filter fun d => !d.isDynamic) ++ ds.filter fun d => d.isDynamic && d.isStatic).foldl
      (fun done d => d.insert done) []
  dynamics := (ds.filter Directive.isDynamic).foldl (fun done d => d.insert done) []

/-- Reads directives in turn, up to the first that is malformed. -/
def readAll : List String → Except FilterError (List Directive)
  | [] => .ok []
  | piece :: rest =>
    match Directive.read piece.toList with
    | .error e => .error e
    | .ok d =>
      match readAll rest with
      | .error e => .error e
      | .ok done => .ok (d :: done)

/-- Reads a filter: directives with commas between them. -/
def read (text : String) : Except FilterError Filter :=
  (readAll ((text.splitOn ",").filter fun piece => !piece.isEmpty)).map ofDirectives

/-- The text of a filter. -/
def render (f : Filter) : String :=
  ",".intercalate ((f.statics ++ f.dynamics).map Directive.render)

/-- Whether a line passes that stands in no span and has no field but a message. -/
def allows (f : Filter) (target : String) (l : Level) : Bool :=
  match f.statics.find? fun d => d.concerns target with
  | some d => d.threshold.allows l
  | none => false

/-- The text that decides which lines pass: directives given from outside unless they are blank,
`debug` when more lines are asked for, and otherwise the level of the settings. -/
def choose (settings : Config.Log) (verbose : Bool) (directives : Option String) : String :=
  match directives with
  | some text => if (Text.trim text.toList).isEmpty then level else text
  | none => level
where
  level : String := if verbose then "debug" else settings.level.name

/-- The filter of a program run. -/
def ofSettings (settings : Config.Log) (verbose : Bool) (directives : Option String) :
    Except FilterError Filter :=
  read (choose settings verbose directives)

end Filter

end Lookout.Log
