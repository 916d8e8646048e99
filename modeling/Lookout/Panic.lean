/-!
Panics: computations that end in the middle with a payload. A guard turns the payload into a
message.
-/
namespace Lookout

/-- What a panic carries. -/
inductive Payload where
  | text (s : String)
  /-- Anything that is no text. -/
  | other
  deriving DecidableEq, Repr

/-- The message of a panic. -/
def Payload.message : Payload → String
  | text s => s
  | other => "unknown panic payload"

/-- How a computation ends. -/
inductive Ending (α : Type) where
  | returned (a : α)
  | panicked (p : Payload)
  deriving DecidableEq, Repr

/-- The value of a computation, or the message of its panic. -/
def Ending.guarded {α : Type} : Ending α → Except String α
  | returned a => .ok a
  | panicked p => .error p.message

end Lookout
