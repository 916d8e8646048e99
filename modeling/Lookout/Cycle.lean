import Lookout.Json.Value
/-!
Contexts of cycles. Each cycle of a crawl has a context that its stages share: copies of it have its
number and its token of cancellation, but are annotated apart. The tokens of cycles are below the token
of their group: cancelling that one cancels them all, and a token made later is cancelled from the start.
-/
namespace Lookout

/-- The context of a cycle. -/
structure Context where
  crawl : String
  /-- The number of the cycle in its group, by which cycles are told apart. -/
  cycle : Nat
  /-- In increasing order of key. -/
  annotations : List (String × String)
  /-- The place of its token among those below the token of the group. -/
  token : Nat
  deriving DecidableEq, Repr

namespace Context

/-- The context with one more annotation; one of the same key is replaced. -/
def annotate (c : Context) (key value : String) : Context :=
  { c with annotations := Json.insertField key value c.annotations }

/-- The value of an annotation. -/
def annotation? (c : Context) (key : String) : Option String := c.annotations.lookup key

/-- All annotations as text. -/
def annotationText (c : Context) : String :=
  " ".intercalate (c.annotations.map fun (k, v) => k ++ "=" ++ v)

end Context

/-- The contexts of a group in the order in which they arose, and which tokens are cancelled: that of the
group, and those below it, one for each cycle begun. -/
structure Contexts where
  list : List Context := []
  /-- The number of cycles begun. -/
  begun : Nat := 0
  tokens : List Bool := []
  groupCancelled : Bool := false
  deriving DecidableEq, Repr

namespace Contexts

/-- What can happen to contexts. Numbers are places in the list. -/
inductive Event where
  | begin (crawl : String)
  | copy (i : Nat)
  | annotate (i : Nat) (key value : String)
  | cancel (i : Nat)
  | cancelGroup
  deriving DecidableEq, Repr

/-- The contexts after an event, and the text that an annotation records. There are none when the
place is out of range. -/
def step? (s : Contexts) : Event → Option (Contexts × List String)
  | .begin crawl =>
    some ({ s with
      list := s.list ++ [⟨crawl, s.begun, [], s.tokens.length⟩]
      begun := s.begun + 1
      tokens := s.tokens ++ [s.groupCancelled] }, [])
  | .copy i => do
    let c ← s.list[i]?
    return ({ s with list := s.list ++ [c] }, [])
  | .annotate i key value => do
    let c ← s.list[i]?
    let c := c.annotate key value
    return ({ s with list := s.list.set i c }, [c.annotationText])
  | .cancel i => do
    let c ← s.list[i]?
    return ({ s with tokens := s.tokens.set c.token true }, [])
  | .cancelGroup =>
    some ({ s with groupCancelled := true, tokens := s.tokens.map fun _ => true }, [])

/-- Whether a context is cancelled. -/
def isCancelled (s : Contexts) (c : Context) : Bool := s.tokens.getD c.token false

/-- For each context the place of the first one of the same cycle. -/
def firstOfCycle (s : Contexts) : List Nat :=
  s.list.map fun c => s.list.findIdx fun d => d.cycle == c.cycle

end Contexts

end Lookout
