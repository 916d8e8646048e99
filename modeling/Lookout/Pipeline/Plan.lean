import Lookout.Condition.Evaluation
import Lookout.Http.Request
import Lookout.Template
/-!
Crawls made ready to run. All enabled crawls are made ready or none is, and of several faults the
first one in the order of the crawls is told.
-/
namespace Lookout.Pipeline

/-- A crawl that is ready to run. -/
structure Plan where
  name : String
  /-- The time in milliseconds between the acceptance of a cycle and the start of the next. -/
  interval : Nat
  request : Http.Request
  condition : Condition
  message : String

/-- Why a crawl cannot be made ready. -/
inductive PlanError where
  | request (crawl : String) (e : Http.RequestError)
  | query (crawl : String) (e : Condition.SetupError)
  deriving DecidableEq, Repr

/-- Why nothing can run. -/
inductive SetupError where
  | noEnabledCrawls
  | plan (e : PlanError)
  deriving DecidableEq, Repr

/-- The number of milliseconds that a duration takes, the last one counted whole. -/
def wholeMilliseconds (d : Duration) : Nat := (d.nanoseconds + 999999) / 1000000

/-- Makes a crawl ready: its request first, then its queries. -/
def Plan.ofCrawl (c : Config.Crawl) : Except PlanError Plan :=
  match Http.Request.ofTarget c.target with
  | .error e => .error (.request c.name e)
  | .ok request =>
    match Condition.compile c.query.check c.query.bindings with
    | .error e => .error (.query c.name e)
    | .ok condition => .ok ⟨c.name, wholeMilliseconds c.interval, request, condition, c.message⟩

/-- Makes crawls ready in turn, up to the first fault. -/
def plansOf : List Config.Crawl → Except PlanError (List Plan)
  | [] => .ok []
  | c :: rest =>
    match Plan.ofCrawl c with
    | .error e => .error e
    | .ok p =>
      match plansOf rest with
      | .error e => .error e
      | .ok done => .ok (p :: done)

/-- Makes all enabled crawls ready. -/
def plans (crawls : List Config.Crawl) : Except SetupError (List Plan) :=
  match plansOf (crawls.filter (·.enabled)) with
  | .error e => .error (.plan e)
  | .ok [] => .error .noEnabledCrawls
  | .ok (p :: rest) => .ok (p :: rest)

/-- The wording of an error from the outermost part to the innermost. How a query is malformed is
not told. -/
def PlanError.chain : PlanError → List String
  | request crawl e =>
    ("crawl '" ++ crawl ++ "': invalid http target: " ++ e.message) :: e.chain
  | query crawl e => ("crawl '" ++ crawl ++ "': " ++ e.message) :: [e.message]

/-- The wording of an error from the outermost part to the innermost. -/
def SetupError.chain : SetupError → List String
  | noEnabledCrawls => ["no enabled crawls"]
  | plan e => e.chain

/-- The message that a response body is worth, if it is worth one. -/
def Plan.messageOf? (p : Plan) (body : ByteArray) : Option String :=
  match p.condition.apply body with
  | .error _ => none
  | .ok o =>
    let text := Template.render p.message o.bindings
    if o.isMatch && !text.isEmpty then some text else none

end Lookout.Pipeline
