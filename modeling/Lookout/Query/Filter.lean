import Lookout.Query.Access
import Lookout.Query.Operation
import Lookout.Query.Term
/-!
Queries with every name resolved. A name becomes the number of bindings between its use and its
binding, so that a filter is evaluated against a list of bindings. Terms with an unbound name, or
with a wrong number of arguments, have no filter.
-/
namespace Lookout.Query

/-- How two values compare. -/
inductive Comparison where
  | eq | ne | lt | le | gt | ge
  deriving DecidableEq, Repr

/-- Whether an order satisfies a comparison. -/
def Comparison.holds : Comparison → Ordering → Bool
  | eq, o => o == .eq
  | ne, o => o != .eq
  | lt, o => o == .lt
  | le, o => o != .gt
  | gt, o => o == .gt
  | ge, o => o != .lt

mutual

/-- A filter. -/
inductive Filter where
  | identity
  | descend
  | literal (v : Value)
  | toText
  | emptyArray
  | array (f : Filter)
  | emptyObject
  | field (key value : Filter)
  | negate (f : Filter)
  | pipe (l r : Filter)
  | bind (source : Filter) (pattern : Shape) (body : Filter)
  | comma (l r : Filter)
  | alternative (l r : Filter)
  /-- Gives `stop` when the left side does, without the right side. -/
  | logic (stop : Bool) (l r : Filter)
  | compare (op : Comparison) (l r : Filter)
  | calculate (op : Arithmetic) (l r : Filter)
  | assign (path value : Filter)
  | update (path change : Filter)
  | calculateUpdate (op : Arithmetic) (path value : Filter)
  | alternativeUpdate (path value : Filter)
  | cond (condition yes no : Filter)
  | attempt (body handler : Filter)
  | reduce (source : Filter) (pattern : Shape) (start change : Filter)
  | foreach (source : Filter) (pattern : Shape) (start change out : Filter)
  | label (body : Filter)
  | leave (index : Nat)
  | path (head : Filter) (steps : List Place)
  | variable (index : Nat)
  /-- The filter that was given for a parameter. -/
  | argument (index : Nat)
  | call (index : Nat) (args : List Argument)
  | operation (op : Operation) (args : List Argument)
  | define (params : List Bool) (definition body : Filter)

/-- An argument; one that stands for a value is evaluated before the call. -/
inductive Argument where
  | mk (isValue : Bool) (f : Filter)

/-- How a value is taken apart: the parts that are bound, in order. -/
inductive Shape where
  | variable
  | parts (items : List Part)

/-- A part of a value and how it is taken apart. -/
inductive Part where
  | mk (key : Filter) (shape : Shape)

/-- A step of a path. -/
inductive Place where
  | index (key : Filter) (isOptional : Bool)
  | children (isOptional : Bool)
  | slice (start stop : Option Filter) (isOptional : Bool)

end

instance : Inhabited Filter := ⟨.identity⟩

/-- What a name may refer to. -/
inductive Name where
  | variable (name : String)
  | argument (name : String)
  | definition (name : String) (params : List Bool)
  | label (name : String)
  deriving DecidableEq, Repr

/-- The names in scope, innermost first. -/
abbrev Scope := List Name

namespace Scope

/-- The innermost name that satisfies a condition, with its distance. -/
def findFrom? {α : Type} (choose : Name → Option α) : Nat → Scope → Option (Nat × α)
  | _, [] => none
  | i, name :: rest =>
    match choose name with
    | some a => some (i, a)
    | none => findFrom? choose (i + 1) rest

/-- The distance of a variable. -/
def findVariable? (scope : Scope) (name : String) : Option Nat :=
  (findFrom? (fun
    | .variable n => if n == name then some () else none
    | _ => none) 0 scope).map (·.1)

/-- The distance of a label. -/
def findLabel? (scope : Scope) (name : String) : Option Nat :=
  (findFrom? (fun
    | .label n => if n == name then some () else none
    | _ => none) 0 scope).map (·.1)

/-- What a called name refers to: a parameter, or a definition with its parameters. -/
def findCalled? (scope : Scope) (name : String) (arity : Nat) : Option (Nat × Option (List Bool)) :=
  findFrom? (fun
    | .argument n => if n == name && arity == 0 then some none else none
    | .definition n params => if n == name && params.length == arity then some (some params) else none
    | _ => none) 0 scope

/-- The parameters of a definition added to a scope; the last one is innermost. -/
def addParams (scope : Scope) (params : List String) : Scope :=
  params.foldl (fun scope p =>
    match p.toList with
    | '$' :: name => Name.variable (String.ofList name) :: scope
    | _ => Name.argument p :: scope) scope

/-- Which parameters stand for values. -/
def valueParams (params : List String) : List Bool :=
  params.map fun p => p.toList.head? == some '$'

end Scope

mutual

/-- The names that a binder binds, in order. -/
def Binder.names : Binder → List String
  | .variable name => [name]
  | .array items => binderNames items
  | .object fields => fieldNames fields

/-- The names that binders bind. -/
def binderNames : List Binder → List String
  | [] => []
  | p :: rest => p.names ++ binderNames rest

/-- The names that field binders bind. -/
def fieldNames : List FieldBinder → List String
  | [] => []
  | .mk (.variable name) none :: rest => name :: fieldNames rest
  | .mk _ none :: rest => fieldNames rest
  | .mk _ (some p) :: rest => p.names ++ fieldNames rest

end

namespace Filter

/-- The comparison that a sign stands for. -/
def comparison (op : String) : Comparison :=
  if op == "==" then .eq else if op == "!=" then .ne else if op == "<" then .lt
  else if op == "<=" then .le else if op == ">" then .gt else .ge

/-- The operator that a sign stands for. -/
def arithmetic (op : String) : Arithmetic :=
  if op == "+" then .add else if op == "-" then .sub else if op == "*" then .mul
  else if op == "/" then .div else .rem

/-- The filter of two terms joined by an operator. -/
def ofOperator (l r : Filter) : Operator → Filter
  | .comma => .comma l r
  | .assign => .assign l r
  | .update => .update l r
  | .calculateUpdate op => .calculateUpdate (arithmetic op) l r
  | .alternativeUpdate => .alternativeUpdate l r
  | .alternative => .alternative l r
  | .either => .logic true l r
  | .both => .logic false l r
  | .compare op => .compare (comparison op) l r
  | .calculate op => .calculate (arithmetic op) l r

/-- Several filters of strings or objects added up. -/
def sum (empty : Filter) : List Filter → Filter
  | [] => empty
  | f :: rest => rest.foldl (.calculate .add) f

/-- Arguments marked as the parameters ask. -/
def arguments (params : List Bool) (args : List Filter) : List Argument :=
  (params.zip args).map fun (isValue, f) => .mk isValue f

/-- The call of a name with arguments. -/
def callOf? (scope : Scope) (name : String) (args : List Filter) : Option Filter :=
  match scope.findCalled? name args.length with
  | some (i, none) => some (.argument i)
  | some (i, some params) => some (.call i (arguments params args))
  | none =>
    (Operation.find? name args.length).map fun (op, params) => .operation op (arguments params args)

/-- The filter that yields nothing. -/
def nothing : Filter := .path .emptyObject [.children false]

mutual

/-- The filter of a term in a scope. -/
def ofTerm? (scope : Scope) : Term → Option Filter
  | .identity => some .identity
  | .descend => some .descend
  | .number text => some (.literal (.ofNumeral text))
  | .text format pieces => do
    let shown ← match format with
      | none => some .toText
      | some name => callOf? scope ("@" ++ name) []
    let parts ← ofPieces? scope shown pieces
    return sum (.literal (.string "")) parts
  | .array none => some .emptyArray
  | .array (some t) => do return .array (← ofTerm? scope t)
  | .object entries => do return sum .emptyObject (← ofEntries? scope entries)
  | .negate t => do return .negate (← ofTerm? scope t)
  | .pipe l none r => do return .pipe (← ofTerm? scope l) (← ofTerm? scope r)
  | .pipe l (some p) r => do
    let l ← ofTerm? scope l
    let shape ← ofBinder? scope p
    let r ← ofTerm? (p.names.reverse.map Name.variable ++ scope) r
    return .bind l shape r
  | .binary op l r => do return ofOperator (← ofTerm? scope l) (← ofTerm? scope r) op
  | .label name body => do return .label (← ofTerm? (.label name :: scope) body)
  | .leave name => (scope.findLabel? name).map .leave
  | .fold each source p args => do
    let source ← ofTerm? scope source
    let shape ← ofBinder? scope p
    let inner := p.names.reverse.map Name.variable ++ scope
    match each, args with
    | false, [start, change] => do
      return .reduce source shape (← ofTerm? scope start) (← ofTerm? inner change)
    | true, [start, change] => do
      return .foreach source shape (← ofTerm? scope start) (← ofTerm? inner change) .identity
    | true, [start, change, out] => do
      return .foreach source shape (← ofTerm? scope start) (← ofTerm? inner change)
        (← ofTerm? inner out)
    | _, _ => none
  | .attempt body none => do
    return .attempt (← ofTerm? scope body) nothing
  | .attempt body (some handler) => do
    return .attempt (← ofTerm? scope body) (← ofTerm? scope handler)
  | .cond branches otherwise => do
    let otherwise ← match otherwise with
      | none => some .identity
      | some t => ofTerm? scope t
    ofBranches? scope otherwise branches
  | .define definitions body => ofDefinitions? scope definitions fun scope => ofTerm? scope body
  | .call name args => do
    let args ← ofTerms? scope args
    callOf? scope name args
  | .variable name => (scope.findVariable? name).map .variable
  | .path head steps => do return .path (← ofTerm? scope head) (← ofSteps? scope steps)

/-- The filters of terms. -/
def ofTerms? (scope : Scope) : List Term → Option (List Filter)
  | [] => some []
  | t :: rest => do return (← ofTerm? scope t) :: (← ofTerms? scope rest)

/-- The filters of the pieces of a string; `shown` turns values into text. -/
def ofPieces? (scope : Scope) (shown : Filter) : List TextPiece → Option (List Filter)
  | [] => some []
  | .chars s :: rest => do return .literal (.string s) :: (← ofPieces? scope shown rest)
  | .inner t :: rest => do
    return .pipe (← ofTerm? scope t) shown :: (← ofPieces? scope shown rest)

/-- The filters of the entries of an object. -/
def ofEntries? (scope : Scope) : List Entry → Option (List Filter)
  | [] => some []
  | .mk key (some value) :: rest => do
    return .field (← ofTerm? scope key) (← ofTerm? scope value) :: (← ofEntries? scope rest)
  | .mk (.variable name) none :: rest => do
    let i ← scope.findVariable? name
    return .field (.literal (.string name)) (.variable i) :: (← ofEntries? scope rest)
  | .mk key none :: rest => do
    let key ← ofTerm? scope key
    return .field key (.path .identity [.index key false]) :: (← ofEntries? scope rest)

/-- The filter of the branches of a condition. -/
def ofBranches? (scope : Scope) (otherwise : Filter) : List Branch → Option Filter
  | [] => some otherwise
  | .mk condition result :: rest => do
    return .cond (← ofTerm? scope condition) (← ofTerm? scope result)
      (← ofBranches? scope otherwise rest)

/-- The filters of the steps of a path. -/
def ofSteps? (scope : Scope) : List Step → Option (List Place)
  | [] => some []
  | .index key isOptional :: rest => do
    return .index (← ofTerm? scope key) isOptional :: (← ofSteps? scope rest)
  | .slice none none isOptional :: rest => do
    return .children isOptional :: (← ofSteps? scope rest)
  | .slice (some start) none isOptional :: rest => do
    return .slice (some (← ofTerm? scope start)) none isOptional :: (← ofSteps? scope rest)
  | .slice none (some stop) isOptional :: rest => do
    return .slice none (some (← ofTerm? scope stop)) isOptional :: (← ofSteps? scope rest)
  | .slice (some start) (some stop) isOptional :: rest => do
    return .slice (some (← ofTerm? scope start)) (some (← ofTerm? scope stop)) isOptional ::
      (← ofSteps? scope rest)

/-- The shape of a binder. -/
def ofBinder? (scope : Scope) : Binder → Option Shape
  | .variable _ => some .variable
  | .array items => do return .parts (← ofBinders? scope 0 items)
  | .object fields => do return .parts (← ofFieldBinders? scope fields)

/-- The parts of an array binder, from the given position on. -/
def ofBinders? (scope : Scope) (position : Nat) : List Binder → Option (List Part)
  | [] => some []
  | p :: rest => do
    return .mk (.literal (.ofNat position)) (← ofBinder? scope p) ::
      (← ofBinders? scope (position + 1) rest)

/-- The parts of an object binder. -/
def ofFieldBinders? (scope : Scope) : List FieldBinder → Option (List Part)
  | [] => some []
  | .mk (.variable name) none :: rest => do
    return .mk (.literal (.string name)) .variable :: (← ofFieldBinders? scope rest)
  | .mk _ none :: _ => none
  | .mk key (some p) :: rest => do
    return .mk (← ofTerm? scope key) (← ofBinder? scope p) :: (← ofFieldBinders? scope rest)

/-- Definitions around the filter that follows them. Each is in scope in itself and after. -/
def ofDefinitions? (scope : Scope) (definitions : List Definition)
    (body : Scope → Option Filter) : Option Filter :=
  match definitions with
  | [] => body scope
  | .mk name params definition :: rest => do
    let values := Scope.valueParams params
    let scope := .definition name values :: scope
    let definition ← ofTerm? (Scope.addParams scope params) definition
    let rest ← ofDefinitions? scope rest body
    return .define values definition rest

end

end Filter

end Lookout.Query
