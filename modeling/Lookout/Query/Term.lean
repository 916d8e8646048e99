import Lookout.Query.Token
/-!
The syntax of queries. Every operator has a binding strength and a side to which it groups; a `def`,
`label` or `as` reaches as far to the right as it can.
-/
namespace Lookout.Query

/-- Operators between two terms. -/
inductive Operator where
  | comma
  | assign | update
  | calculateUpdate (op : String)
  | alternativeUpdate
  | alternative
  | either | both
  | compare (op : String)
  | calculate (op : String)
  deriving DecidableEq, Repr

mutual

/-- A term. -/
inductive Term where
  | identity
  /-- The value and everything below it. -/
  | descend
  | number (text : String)
  | text (format : Option String) (pieces : List TextPiece)
  | array (inner : Option Term)
  | object (entries : List Entry)
  | negate (t : Term)
  | pipe (l : Term) (bound : Option Binder) (r : Term)
  | binary (op : Operator) (l r : Term)
  | label (name : String) (body : Term)
  | leave (name : String)
  /-- A `reduce` or `foreach` with whatever arguments it was given. -/
  | fold (each : Bool) (source : Term) (pattern : Binder) (args : List Term)
  | attempt (body : Term) (handler : Option Term)
  | cond (branches : List Branch) (otherwise : Option Term)
  | define (definitions : List Definition) (body : Term)
  | call (name : String) (args : List Term)
  | variable (name : String)
  | path (head : Term) (steps : List Step)

/-- A piece of a string. -/
inductive TextPiece where
  | chars (s : String)
  | inner (t : Term)

/-- A condition and what follows when it holds. -/
inductive Branch where
  | mk (condition result : Term)

/-- An entry of an object. -/
inductive Entry where
  | mk (key : Term) (value : Option Term)

/-- What a value is taken apart by. -/
inductive Binder where
  | variable (name : String)
  | array (items : List Binder)
  | object (fields : List FieldBinder)

/-- A field to take out of an object. -/
inductive FieldBinder where
  | mk (key : Term) (value : Option Binder)

/-- A step of a path, which may be optional. -/
inductive Step where
  | index (key : Term) (isOptional : Bool)
  | slice (start stop : Option Term) (isOptional : Bool)

/-- A named term with parameters; a parameter with a dollar sign stands for a value. -/
inductive Definition where
  | mk (name : String) (params : List String) (body : Term)

end

instance : Inhabited Term := ⟨.identity⟩

namespace Operator

/-- How strongly an operator binds; a pipe is zero. -/
def strength : Operator → Nat
  | comma => 1
  | assign | update | calculateUpdate _ | alternativeUpdate => 2
  | alternative => 3
  | either => 4
  | both => 5
  | compare op => if op == "==" || op == "!=" then 6 else 7
  | calculate op =>
    if op == "+" || op == "-" then 8 else if op == "*" || op == "/" then 9 else 10

/-- The operator groups to the right. -/
def groupsRight : Operator → Bool
  | assign | update | calculateUpdate _ | alternativeUpdate => true
  | _ => false

/-- The operator that a token stands for, other than a pipe. -/
def ofToken? : Token → Option Operator
  | .symbol "," => some .comma
  | .symbol "=" => some .assign
  | .symbol "|=" => some .update
  | .symbol "//=" => some .alternativeUpdate
  | .symbol "//" => some .alternative
  | .word "or" => some .either
  | .word "and" => some .both
  | .symbol op =>
    if ["+=", "-=", "*=", "/=", "%="].contains op then
      some (.calculateUpdate (String.ofList (op.toList.take 1)))
    else if ["==", "!=", "<", "<=", ">", ">="].contains op then some (.compare op)
    else if ["+", "-", "*", "/", "%"].contains op then some (.calculate op)
    else none
  | _ => none

end Operator

namespace Term

/-- What joins two terms: an operator, or a pipe that may bind names. -/
inductive Joint where
  | op (op : Operator)
  | pipe (bound : Option Binder)

/-- How strongly a joint binds. -/
def Joint.strength : Joint → Nat
  | op o => o.strength
  | pipe _ => 0

/-- The joint groups to the right. -/
def Joint.groupsRight : Joint → Bool
  | op o => o.groupsRight
  | pipe _ => true

/-- Two terms and what joins them. -/
def Joint.apply (l : Term) : Joint → Term → Term
  | op o, r => .binary o l r
  | pipe bound, r => .pipe l bound r

/-- Groups a chain of terms by the strengths of its joints: takes the joints that bind at least as
strongly as `least`, and gives the rest of the chain. -/
def climb : Nat → (least : Nat) → Term → List (Joint × Term) → Term × List (Joint × Term)
  | 0, _, head, tail => (head, tail)
  | _, _, head, [] => (head, [])
  | fuel + 1, least, head, (joint, next) :: tail =>
    if joint.strength < least then (head, (joint, next) :: tail)
    else
      let above := if joint.groupsRight then joint.strength else joint.strength + 1
      let (operand, tail) := climb fuel above next tail
      climb fuel least (joint.apply head operand) tail

/-- Past the given symbol. -/
def expect (s : String) : List Token → Option (List Token)
  | .symbol t :: rest => if s == t then some rest else none
  | _ => none

/-- Past the given word. -/
def expectWord (s : String) : List Token → Option (List Token)
  | .word t :: rest => if s == t then some rest else none
  | _ => none

/-- Past any number of question marks; tells whether there is one. -/
def skipMarks : List Token → Bool × List Token
  | .symbol "?" :: rest => (true, (skipMarks rest).2)
  | tokens => (false, tokens)

/-- The parameters of a definition. -/
def readParams : List Token → Option (List String)
  | [t] => (param? t).map fun p => [p]
  | t :: .symbol ";" :: rest => do
    let p ← param? t
    let ps ← readParams rest
    return p :: ps
  | _ => none
where
  /-- The name of a parameter. -/
  param? : Token → Option String
    | .word name => some name
    | .variable name => some ("$" ++ name)
    | _ => none

mutual

/-- Reads a term as far as it goes. Without `comma` it ends before a comma. -/
def readTerm : Nat → (comma : Bool) → List Token → Option (Term × List Token)
  | 0, _, _ => none
  | fuel + 1, comma, tokens => do
    let (head, tokens) ← readAtom fuel tokens
    let (tail, tokens) ← readTail fuel comma tokens []
    return ((climb (2 * tail.length + 1) 0 head tail).1, tokens)

/-- Reads the joints and terms after a first term. -/
def readTail : Nat → (comma : Bool) → List Token → List (Joint × Term) →
    Option (List (Joint × Term) × List Token)
  | 0, _, _, _ => none
  | fuel + 1, comma, tokens, done =>
    match tokens with
    | .symbol "|" :: rest => do
      let (t, rest) ← readAtom fuel rest
      readTail fuel comma rest ((.pipe none, t) :: done)
    | .word "as" :: rest => do
      let (pattern, rest) ← readBinder fuel rest
      let rest ← expect "|" rest
      let (t, rest) ← readAtom fuel rest
      readTail fuel comma rest ((.pipe (some pattern), t) :: done)
    | .symbol "," :: rest =>
      if comma then do
        let (t, rest) ← readAtom fuel rest
        readTail fuel comma rest ((.op .comma, t) :: done)
      else some (done.reverse, tokens)
    | token :: rest =>
      match Operator.ofToken? token with
      | some op => do
        let (t, rest) ← readAtom fuel rest
        readTail fuel comma rest ((.op op, t) :: done)
      | none => some (done.reverse, tokens)
    | [] => some (done.reverse, [])

/-- Reads a term without operators, and the path after it. -/
def readAtom : Nat → List Token → Option (Term × List Token)
  | 0, _ => none
  | fuel + 1, tokens => do
    let (head, tokens) ← readHead fuel tokens
    let (marked, tokens) := skipMarks tokens
    let head := if marked then .attempt head none else head
    let (steps, tokens) ← readSteps fuel tokens []
    return (if steps.isEmpty then head else .path head steps, tokens)

/-- Reads the head of a term. -/
def readHead : Nat → List Token → Option (Term × List Token)
  | 0, _ => none
  | fuel + 1, tokens =>
    match tokens with
    | .symbol "-" :: rest => do
      let (t, rest) ← readAtom fuel rest
      return (.negate t, rest)
    | .word "def" :: _ => do
      let (definitions, rest) ← readDefinitions fuel tokens []
      let (body, rest) ← readTerm fuel true rest
      return (.define definitions body, rest)
    | .word "if" :: rest => do
      let (condition, rest) ← readTerm fuel true rest
      let rest ← expectWord "then" rest
      let (result, rest) ← readTerm fuel true rest
      let (branches, rest) ← readBranches fuel rest [.mk condition result]
      match rest with
      | .word "else" :: rest => do
        let (otherwise, rest) ← readTerm fuel true rest
        let rest ← expectWord "end" rest
        return (.cond branches (some otherwise), rest)
      | rest => do
        let rest ← expectWord "end" rest
        return (.cond branches none, rest)
    | .word "try" :: rest => do
      let (body, rest) ← readAtom fuel rest
      match rest with
      | .word "catch" :: rest => do
        let (handler, rest) ← readAtom fuel rest
        return (.attempt body (some handler), rest)
      | rest => return (.attempt body none, rest)
    | .word "label" :: .variable name :: rest => do
      let rest ← expect "|" rest
      let (body, rest) ← readTerm fuel true rest
      return (.label name body, rest)
    | .word "label" :: _ => none
    | .word "break" :: .variable name :: rest => some (.leave name, rest)
    | .word "break" :: _ => none
    | .word "reduce" :: rest => readFold fuel false rest
    | .word "foreach" :: rest => readFold fuel true rest
    | .word name :: rest => readCall fuel name rest
    | .variable name :: rest => some (.variable name, rest)
    | .number numeral :: rest => some (.number numeral, rest)
    | .format name :: .text pieces :: rest => do
      let pieces ← readPieces fuel pieces
      return (.text (some name) pieces, rest)
    | .format name :: rest => some (.call ("@" ++ name) [], rest)
    | .text pieces :: rest => do
      let pieces ← readPieces fuel pieces
      return (.text none pieces, rest)
    | .group .round inside :: rest => do
      let (t, left) ← readTerm fuel true inside
      if left.isEmpty then return (t, rest) else none
    | .group .square [] :: rest => some (.array none, rest)
    | .group .square inside :: rest => do
      let (t, left) ← readTerm fuel true inside
      if left.isEmpty then return (.array (some t), rest) else none
    | .group .curly inside :: rest => do
      let entries ← readEntries fuel inside []
      return (.object entries, rest)
    | .symbol ".." :: rest => some (.descend, rest)
    -- a point that a name or a string follows is the first step of a path from the input
    | .symbol "." :: .text pieces :: rest => some (.identity, .symbol "." :: .text pieces :: rest)
    | .symbol "." :: .format name :: .text pieces :: rest =>
      some (.identity, .symbol "." :: .format name :: .text pieces :: rest)
    | .symbol "." :: rest => some (.identity, rest)
    | .symbol s :: rest =>
      match s.toList with
      | '.' :: _ => some (.identity, .symbol s :: rest)
      | _ => none
    | [] => none

/-- Reads a `reduce` or `foreach` after its word. -/
def readFold : Nat → (each : Bool) → List Token → Option (Term × List Token)
  | 0, _, _ => none
  | fuel + 1, each, tokens => do
    let (source, rest) ← readAtom fuel tokens
    let rest ← expectWord "as" rest
    let (pattern, rest) ← readBinder fuel rest
    let (args, rest) ← readArgs fuel rest
    return (.fold each source pattern args, rest)

/-- Reads the arguments of a call. -/
def readCall : Nat → String → List Token → Option (Term × List Token)
  | 0, _, _ => none
  | fuel + 1, name, tokens => do
    let (args, rest) ← readArgs fuel tokens
    return (.call name args, rest)

/-- Reads arguments between round brackets, when there are brackets. -/
def readArgs : Nat → List Token → Option (List Term × List Token)
  | 0, _ => none
  | fuel + 1, tokens =>
    match tokens with
    | .group .round inside :: rest => do
      let args ← readArgList fuel inside []
      return (args, rest)
    | rest => some ([], rest)

/-- Reads arguments with semicolons between them. -/
def readArgList : Nat → List Token → List Term → Option (List Term)
  | 0, _, _ => none
  | fuel + 1, tokens, done => do
    let (t, rest) ← readTerm fuel true tokens
    match rest with
    | [] => return (t :: done).reverse
    | rest => do
      let rest ← expect ";" rest
      readArgList fuel rest (t :: done)

/-- Reads the `elif` branches of a condition. -/
def readBranches : Nat → List Token → List Branch → Option (List Branch × List Token)
  | 0, _, _ => none
  | fuel + 1, tokens, done =>
    match tokens with
    | .word "elif" :: rest => do
      let (condition, rest) ← readTerm fuel true rest
      let rest ← expectWord "then" rest
      let (result, rest) ← readTerm fuel true rest
      readBranches fuel rest (.mk condition result :: done)
    | rest => some (done.reverse, rest)

/-- Reads definitions, each from its word to its semicolon. -/
def readDefinitions : Nat → List Token → List Definition → Option (List Definition × List Token)
  | 0, _, _ => none
  | fuel + 1, tokens, done =>
    match tokens with
    | .word "def" :: rest => do
      let (name, rest) ← match rest with
        | .word name :: rest => some (name, rest)
        | .format name :: rest => some ("@" ++ name, rest)
        | _ => none
      let (params, rest) ← match rest with
        | .group .round inside :: rest => (readParams inside).map fun ps => (ps, rest)
        | rest => some ([], rest)
      let rest ← expect ":" rest
      let (body, rest) ← readTerm fuel true rest
      let rest ← expect ";" rest
      readDefinitions fuel rest (.mk name params body :: done)
    | rest => some (done.reverse, rest)

/-- Reads the pieces of a string. -/
def readPieces : Nat → List Piece → Option (List TextPiece)
  | 0, _ => none
  | _, [] => some []
  | fuel + 1, .chars s :: rest => do
    let rest ← readPieces fuel rest
    return .chars s :: rest
  | fuel + 1, .inner tokens :: rest => do
    let (t, left) ← readTerm fuel true tokens
    if !left.isEmpty then none
    let rest ← readPieces fuel rest
    return .inner t :: rest

/-- Reads the entries of an object; a comma may follow the last one. -/
def readEntries : Nat → List Token → List Entry → Option (List Entry)
  | 0, _, _ => none
  | fuel + 1, tokens, done =>
    match tokens with
    | [] => some done.reverse
    | tokens => do
      let (key, needsValue, rest) ← readKey fuel tokens
      let (entry, rest) ← match rest with
        | .symbol ":" :: rest => do
          let (value, rest) ← readTerm fuel false rest
          pure (Entry.mk key (some value), rest)
        | rest => if needsValue then none else some (Entry.mk key none, rest)
      match rest with
      | [] => return (entry :: done).reverse
      | rest => do
        let rest ← expect "," rest
        readEntries fuel rest (entry :: done)

/-- Reads a key of an object; tells whether a value must follow. -/
def readKey : Nat → List Token → Option (Term × Bool × List Token)
  | 0, _ => none
  | fuel + 1, tokens =>
    match tokens with
    | .word name :: rest => some (.text none [.chars name], false, rest)
    | .variable name :: rest => some (.variable name, false, rest)
    | .text pieces :: rest => do
      let pieces ← readPieces fuel pieces
      return (.text none pieces, false, rest)
    | .format name :: .text pieces :: rest => do
      let pieces ← readPieces fuel pieces
      return (.text (some name) pieces, false, rest)
    | .group .round inside :: rest => do
      let (t, left) ← readTerm fuel true inside
      if left.isEmpty then return (t, true, rest) else none
    | _ => none

/-- Reads a binder. -/
def readBinder : Nat → List Token → Option (Binder × List Token)
  | 0, _ => none
  | fuel + 1, tokens =>
    match tokens with
    | .variable name :: rest => some (.variable name, rest)
    | .group .square inside :: rest => do
      let items ← readBinders fuel inside []
      return (.array items, rest)
    | .group .curly inside :: rest => do
      let fields ← readFieldBinders fuel inside []
      return (.object fields, rest)
    | _ => none

/-- Reads binders with commas between them. -/
def readBinders : Nat → List Token → List Binder → Option (List Binder)
  | 0, _, _ => none
  | fuel + 1, tokens, done => do
    let (p, rest) ← readBinder fuel tokens
    match rest with
    | [] => return (p :: done).reverse
    | rest => do
      let rest ← expect "," rest
      readBinders fuel rest (p :: done)

/-- Reads field binders with commas between them. -/
def readFieldBinders : Nat → List Token → List FieldBinder → Option (List FieldBinder)
  | 0, _, _ => none
  | fuel + 1, tokens, done => do
    let (key, _, rest) ← readKey fuel tokens
    let isVariable := match key with
      | .variable _ => true
      | _ => false
    let (field, rest) ← match rest with
      | .symbol ":" :: rest => do
        let (p, rest) ← readBinder fuel rest
        pure (FieldBinder.mk key (some p), rest)
      | rest => if isVariable then some (FieldBinder.mk key none, rest) else none
    match rest with
    | [] => return (field :: done).reverse
    | rest => do
      let rest ← expect "," rest
      readFieldBinders fuel rest (field :: done)

/-- Reads the steps of a path. -/
def readSteps : Nat → List Token → List Step → Option (List Step × List Token)
  | 0, _, _ => none
  | fuel + 1, tokens, done =>
    match tokens with
    | .symbol "." :: .text pieces :: rest => do
      let pieces ← readPieces fuel pieces
      let (marked, rest) := skipMarks rest
      readSteps fuel rest (.index (.text none pieces) marked :: done)
    | .symbol "." :: .format name :: .text pieces :: rest => do
      let pieces ← readPieces fuel pieces
      let (marked, rest) := skipMarks rest
      readSteps fuel rest (.index (.text (some name) pieces) marked :: done)
    | .symbol "." :: _ => none
    | .symbol s :: rest =>
      match s.toList with
      | '.' :: c :: name =>
        if Token.startsName c then
          let (marked, rest) := skipMarks rest
          let key := String.ofList (c :: name)
          readSteps fuel rest (.index (.text none [.chars key]) marked :: done)
        else some (done.reverse, tokens)
      | _ => some (done.reverse, tokens)
    | .group .square inside :: rest => do
      let (marked, rest) := skipMarks rest
      match inside with
      | [] => readSteps fuel rest (.slice none none marked :: done)
      | .symbol ":" :: inside => do
        let (stop, left) ← readTerm fuel true inside
        if left.isEmpty then readSteps fuel rest (.slice none (some stop) marked :: done) else none
      | inside => do
        let (start, left) ← readTerm fuel true inside
        match left with
        | [] => readSteps fuel rest (.index start marked :: done)
        | [.symbol ":"] => readSteps fuel rest (.slice (some start) none marked :: done)
        | .symbol ":" :: left => do
          let (stop, left) ← readTerm fuel true left
          if left.isEmpty then
            readSteps fuel rest (.slice (some start) (some stop) marked :: done)
          else none
        | _ => none
    | _ => some (done.reverse, tokens)

end

/-- Past a `module` directive. -/
def skipDirective (fuel : Nat) : List Token → Option (List Token)
  | .word "module" :: rest => do
    let (_, rest) ← readTerm fuel true rest
    expect ";" rest
  | tokens => some tokens

/-- The number of steps that suffice to read a query of so many characters. -/
def readFuel (source : String) : Nat := 12 * source.length + 24

/-- Reads a whole query. There are no other modules, so that nothing can be imported. -/
def parse? (source : String) : Option Term := do
  let tokens ← Token.scan? source
  let fuel := readFuel source
  let tokens ← skipDirective fuel tokens
  match tokens with
  | .word "import" :: _ => none
  | .word "include" :: _ => none
  | tokens => do
    let (t, left) ← readTerm fuel true tokens
    if left.isEmpty then return t else none

/-- Reads a series of definitions and nothing else. -/
def parseDefinitions? (source : String) : Option (List Definition) := do
  let tokens ← Token.scan? source
  let (definitions, left) ← readDefinitions (readFuel source) tokens []
  if left.isEmpty then return definitions else none

end Term

end Lookout.Query
