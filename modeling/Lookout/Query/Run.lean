import Lookout.Query.Calculation
import Lookout.Query.Filter
/-!
Evaluation. `run` gives the outputs of a filter; `update` changes a value at the places that a
filter points to. Filters need not end, so both take a bound on the depth of evaluation; it is never
used up before the machine is.
-/
namespace Lookout.Query

/-- What a name stands for while a filter is evaluated. -/
inductive Binding where
  | value (v : Value)
  /-- A filter with the bindings of the place where it was written. -/
  | closure (f : Filter) (bindings : List Binding)
  /-- A definition; its own bindings are those from this one on. -/
  | definition (params : List Bool) (body : Filter)
  | label (number : Nat)
  deriving Inhabited

/-- The bindings in force, innermost first, and the number of labels entered. -/
structure Env where
  bindings : List Binding
  labels : Nat

namespace Env

/-- A value added. -/
def push (env : Env) (v : Value) : Env := { env with bindings := .value v :: env.bindings }

/-- Other bindings with the labels of these. -/
def replace (env : Env) (bindings : List Binding) : Env := { env with bindings }

end Env

/-- A step of a path with its values. -/
inductive Move where
  | index (key : Value)
  | children
  | slice (start stop : Option Value)

namespace Move

/-- What a step finds. -/
def read (m : Move) (v : Value) : Stream Value :=
  match m with
  | .index key => .ofResult (v.index key)
  | .children =>
    match v.children with
    | .ok items => .ofList items
    | .error e => .stop e
  | .slice start stop => .ofResult (v.slice start stop)

/-- What a step finds, and the steps after it. A failure of an optional step finds nothing. -/
def readAll : List (Move × Bool) → Value → Stream Value
  | [], v => .pure v
  | (m, isOptional) :: rest, v =>
    let found := m.read v
    (if isOptional then found.dropFailures else found).bind (readAll rest)

/-- Changes what a step finds. -/
def change (m : Move) (isOptional : Bool) (f : Value → Stream Value) (v : Value) : Result Value :=
  match m with
  | .index key => Value.changeIndex isOptional key f v
  | .children => v.changeChildren isOptional f
  | .slice start stop => v.changeSlice isOptional start stop f

/-- Changes what a series of steps finds. -/
def changeAll (f : Value → Stream Value) : List (Move × Bool) → Value → Stream Value
  | [], v => f v
  | (m, isOptional) :: rest, v => .ofResult (m.change isOptional (changeAll f rest) v)

end Move

mutual

/-- The value and everything below it, each value before its own parts. -/
def Value.withParts : Value → List Value
  | .array items => .array items :: partsOfItems items
  | .object fields => .object fields :: partsOfFields fields
  | v => [v]

/-- All items with their parts. -/
def partsOfItems : List Value → List Value
  | [] => []
  | v :: rest => v.withParts ++ partsOfItems rest

/-- The values of all fields with their parts. -/
def partsOfFields : List (String × Value) → List Value
  | [] => []
  | (_, v) :: rest => v.withParts ++ partsOfFields rest

end

/-- The results of an operator on the results of two filters: for each one of the left all of the
right. -/
def combine (l r : Stream Value) (f : Value → Value → Result Value) : Stream Value :=
  l.bindResult fun x => r.bindResult fun y => .last do
    let x ← x
    let y ← y
    f x y

/-- An object of one field. -/
def singleField (key value : Value) : Result Value := do
  return .object [(← key.toStr, value)]

mutual

/-- The outputs of a filter. -/
def run : Nat → Filter → Env → Value → Stream Value
  | 0, _, _, _ => .stop .exhausted
  | fuel + 1, f, env, v =>
    match f with
    | .identity => .pure v
    | .descend => .ofList v.withParts
    | .literal w => .pure w
    | .toText => .pure (.string v.toText)
    | .emptyArray => .pure (.array [])
    | .array f => .ofResult ((run fuel f env v).collect.map .array)
    | .emptyObject => .pure (.object [])
    | .field key value => combine (run fuel key env v) (run fuel value env v) singleField
    | .negate f => (run fuel f env v).mapResult Value.negated
    | .pipe l r => (run fuel l env v).bind fun w => run fuel r env w
    | .bind source shape body =>
      (binds fuel source shape env v).bind fun env => run fuel body env v
    | .comma l r => (run fuel l env v).append fun _ => run fuel r env v
    | .alternative l r =>
      ((run fuel l env v).filterResult Value.truthy).orElse fun _ => run fuel r env v
    | .logic stop l r => (run fuel l env v).bind fun x =>
      if x.truthy == stop then .pure (.bool stop)
      else (run fuel r env v).map fun y => .bool y.truthy
    | .compare op l r =>
      combine (run fuel l env v) (run fuel r env v) fun x y => .ok (.bool (op.holds (x.order y)))
    | .calculate op l r => combine (run fuel l env v) (run fuel r env v) (Value.calculate op)
    | .assign path value => (run fuel value env v).bind fun y =>
      update fuel path env v fun _ => .pure y
    | .update path change => update fuel path env v fun x => run fuel change env x
    | .calculateUpdate op path value => (run fuel value env v).bind fun y =>
      update fuel path env v fun x => .ofResult (x.calculate op y)
    | .alternativeUpdate path value => (run fuel value env v).bind fun y =>
      update fuel path env v fun x => .pure (if x.truthy then x else y)
    | .cond condition yes no => (run fuel condition env v).bind fun x =>
      run fuel (if x.truthy then yes else no) env v
    | .attempt body handler =>
      (run fuel body env v).attempt fun failure => run fuel handler env failure.toValue
    | .reduce source shape start change =>
      let sources := binds fuel source shape env v
      (run fuel start env v).bind fun w =>
        sources.fold w fun env w => run fuel change env w
    | .foreach source shape start change out =>
      let sources := binds fuel source shape env v
      (run fuel start env v).bind fun w =>
        sources.scan w (fun env w => run fuel change env w) fun env w => run fuel out env w
    | .label body =>
      let number := env.labels
      (run fuel body ⟨.label number :: env.bindings, number + 1⟩ v).untilLeft number
    | .leave index =>
      match env.bindings[index]? with
      | some (.label number) => .stop (.leave number)
      | _ => .nil
    | .path head steps =>
      (run fuel head env v).bind fun w =>
        (moves fuel steps env v).bind fun moves => Move.readAll moves w
    | .variable index =>
      match env.bindings[index]? with
      | some (.value w) => .pure w
      | _ => .nil
    | .argument index =>
      match env.bindings[index]? with
      | some (.closure f bindings) => run fuel f ⟨bindings, env.labels⟩ v
      | _ => .nil
    | .call index args =>
      let inner := env.bindings.drop index
      match inner with
      | .definition _ body :: _ => .later fun _ =>
        (arguments fuel args env v inner).bind fun bindings => run fuel body ⟨bindings, env.labels⟩ v
      | _ => .nil
    | .operation op args => (values fuel args env v).bind fun vs => operate fuel op vs args env v
    | .define params definition body =>
      run fuel body ⟨.definition params definition :: env.bindings, env.labels⟩ v

/-- The bindings of a called definition, once for each combination of the values of arguments that
stand for values. -/
def arguments : Nat → List Argument → Env → Value → List Binding → Stream (List Binding)
  | 0, _, _, _, _ => .stop .exhausted
  | _, [], _, _, done => .pure done
  | fuel + 1, .mk true f :: rest, env, v, done =>
    (run fuel f env v).bind fun w => arguments fuel rest env v (.value w :: done)
  | fuel + 1, .mk false (.argument index) :: rest, env, v, done =>
    arguments fuel rest env v (env.bindings.getD index default :: done)
  | fuel + 1, .mk false f :: rest, env, v, done =>
    arguments fuel rest env v (.closure f env.bindings :: done)

/-- The values of those arguments of an operation that stand for values. -/
def values : Nat → List Argument → Env → Value → Stream (List Value)
  | 0, _, _, _ => .stop .exhausted
  | _, [], _, _ => .pure []
  | fuel + 1, .mk true f :: rest, env, v =>
    (run fuel f env v).bind fun w => (values fuel rest env v).map (w :: ·)
  | fuel + 1, .mk false _ :: rest, env, v => values fuel rest env v

/-- The bindings that a pattern makes for each output of its source. -/
def binds : Nat → Filter → Shape → Env → Value → Stream Env
  | 0, _, _, _, _ => .stop .exhausted
  | fuel + 1, source, shape, env, v =>
    (run fuel source env v).bind fun w => bindShape fuel shape env v w env

/-- The bindings that a pattern makes of a value; its keys are evaluated on the original input. -/
def bindShape : Nat → Shape → Env → Value → Value → Env → Stream Env
  | 0, _, _, _, _, _ => .stop .exhausted
  | _, .variable, _, _, w, done => .pure (done.push w)
  | fuel + 1, .parts items, env, v, w, done => bindParts fuel items env v w done

/-- The bindings that the parts of a pattern make of a value. -/
def bindParts : Nat → List Part → Env → Value → Value → Env → Stream Env
  | 0, _, _, _, _, _ => .stop .exhausted
  | _, [], _, _, _, done => .pure done
  | fuel + 1, .mk key shape :: rest, env, v, w, done =>
    ((run fuel key env v).mapResult fun k => w.index k).bind fun x =>
      (bindShape fuel shape env v x done).bind fun done => bindParts fuel rest env v w done

/-- The steps of a path with all combinations of their values. -/
def moves : Nat → List Place → Env → Value → Stream (List (Move × Bool))
  | 0, _, _, _ => .stop .exhausted
  | _, [], _, _ => .pure []
  | fuel + 1, .children isOptional :: rest, env, v =>
    (moves fuel rest env v).map ((.children, isOptional) :: ·)
  | fuel + 1, .index key isOptional :: rest, env, v =>
    (run fuel key env v).bind fun k => (moves fuel rest env v).map ((.index k, isOptional) :: ·)
  | fuel + 1, .slice start stop isOptional :: rest, env, v =>
    (bound fuel start env v).bind fun a => (bound fuel stop env v).bind fun b =>
      (moves fuel rest env v).map ((.slice a b, isOptional) :: ·)

/-- The values of a bound of a slice. -/
def bound : Nat → Option Filter → Env → Value → Stream (Option Value)
  | 0, _, _, _ => .stop .exhausted
  | _, none, _, _ => .pure none
  | fuel + 1, some f, env, v => (run fuel f env v).map some

/-- The outputs of an operation whose arguments that stand for values are known. -/
def operate : Nat → Operation → List Value → List Argument → Env → Value → Stream Value
  | 0, _, _, _, _, _ => .stop .exhausted
  | fuel + 1, op, vs, args, env, v =>
    let keyed (f : Filter) : Result (List (List Value × Value)) := do
      let items ← v.toItems
      items.mapM fun x => do return (← (run fuel f env x).collect, x)
    match op, vs, args with
    | .raise, _, _ => .fail (.raised v)
    | .echo, _, _ => .pure v
    | .inputs, _, _ => .nil
    | .halt, _, _ => .nil
    | .first, _, [.mk _ f] => (run fuel f env v).takeFirst
    | .last, _, [.mk _ f] =>
      match (run fuel f env v).lastFrom none with
      | .ok (some w) => .pure w
      | .ok none => .nil
      | .error e => .stop e
    | .limit, [n], [_, .mk _ f] =>
      match n.toInt with
      | .ok n => if n ≤ 0 then .nil else (run fuel f env v).take n.toNat
      | .error e => .stop e
    | .skip, [n], [_, .mk _ f] =>
      match n.toInt with
      | .ok n => (run fuel f env v).skip n.toNat
      | .error e => .stop e
    | .pathValues, _, _ =>
      .ofList ((v.pathsBelow []).map fun (path, w) => .array [.array path, w])
    | .sortBy, _, [.mk _ f] =>
      .ofResult ((keyed f).map fun ks => .array ((Value.sortByKeys ks).map (·.2)))
    | .groupBy, _, [.mk _ f] => .ofResult ((keyed f).map fun ks =>
      .array ((Value.groupNeighbours (Value.sortByKeys ks)).map .array))
    | .uniqueBy, _, [.mk _ f] => .ofResult ((keyed f).map fun ks =>
      .array ((Value.groupNeighbours (Value.sortByKeys ks)).filterMap List.head?))
    | .minBy, _, [.mk _ f] =>
      .ofResult ((keyed f).map fun ks => (Value.leastByKey ks).getD .null)
    | .maxBy, _, [.mk _ f] =>
      .ofResult ((keyed f).map fun ks => (Value.greatestByKey ks).getD .null)
    | op, vs, _ =>
      match op.onValues? v vs with
      | some r => .ofResult r
      | none => .nil

/-- The value with a change at every place that a filter points to. -/
def update : Nat → Filter → Env → Value → (Value → Stream Value) → Stream Value
  | 0, _, _, _, _ => .stop .exhausted
  | fuel + 1, f, env, v, change =>
    match f with
    | .identity => change v
    | .descend => updateParts fuel change v
    | .path head steps => update fuel head env v fun w =>
      (moves fuel steps env v).fold w fun moves w => Move.changeAll change moves w
    | .pipe l r => update fuel l env v fun w => update fuel r env w change
    | .bind source shape body =>
      (binds fuel source shape env v).fold v fun env w => update fuel body env w change
    | .comma l r => (update fuel l env v change).bind fun w => update fuel r env w change
    | .alternative l r =>
      update fuel (if (run fuel l env v).anyResult Value.truthy then l else r) env v change
    | .cond condition yes no => (run fuel condition env v).fold v fun x w =>
      update fuel (if x.truthy then yes else no) env w change
    | .reduce source shape start body =>
      let sources := binds fuel source shape env v
      update fuel start env v
        (sources.through (fun env change w => update fuel body env w change) change)
    | .foreach source shape start body out =>
      let sources := binds fuel source shape env v
      update fuel start env v
        (sources.throughAll (fun env change w => update fuel body env w change)
          fun env w => update fuel out env w change)
    | .label body =>
      let number := env.labels
      (update fuel body ⟨.label number :: env.bindings, number + 1⟩ v change).untilLeft number
    | .leave index =>
      match env.bindings[index]? with
      | some (.label number) => .stop (.leave number)
      | _ => .nil
    | .argument index =>
      match env.bindings[index]? with
      | some (.closure f bindings) => update fuel f ⟨bindings, env.labels⟩ v change
      | _ => .nil
    | .call index args =>
      let inner := env.bindings.drop index
      match inner with
      | .definition _ body :: _ => .later fun _ =>
        (arguments fuel args env v inner).fold v fun bindings w =>
          update fuel body ⟨bindings, env.labels⟩ w change
      | _ => .nil
    | .define params definition body =>
      update fuel body ⟨.definition params definition :: env.bindings, env.labels⟩ v change
    | .operation .raise _ => .fail (.raised v)
    | .operation .echo _ => change v
    | _ => .fail .notAPath

/-- The value changed, and then its parts in the same way. -/
def updateParts : Nat → (Value → Stream Value) → Value → Stream Value
  | 0, _, _ => .stop .exhausted
  | fuel + 1, change, v =>
    (change v).bind fun w =>
      .ofResult (w.changeChildren true fun x => updateParts fuel change x)

end

end Lookout.Query
