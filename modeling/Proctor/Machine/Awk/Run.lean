import Proctor.Machine.Awk.Stream

/-! Running programs that scan records. -/
namespace Proctor.Machine.Awk.Running

open Shell (Action)

inductive Signal where
  | go
  /-- The loop around it ends, or goes on with its next round. -/
  | leave
  | again
  /-- The next record follows, or the first one of the next source. -/
  | next
  | nextFile
  | give (value : Value)

inductive Spot where
  | variable (v : Variable)
  | element (n : Nat) (key : Key)
  | field (i : Nat)

def Spot.value : Spot → Running Value
  | .variable v => valueOf v
  | .element n key => Running.element n key
  | .field i => Running.field i

def Spot.put (value : Value) : Spot → Running Unit
  | .variable v => setVariable v value
  | .element n key => setElement n key value
  | .field i => setField i value

/-! ### Operators -/

def truth (b : Bool) : Value := .number (if b then 1 else 0)

def ofNat (n : Nat) : Value := .number n.toFloat

def calculated (operator : Operator) (x y : Float) : Float :=
  match operator with
  | .add => x + y
  | .subtract => x - y
  | .multiply => x * y
  | .divide => x / y
  | .modulo => remainder x y
  | .power => Float.pow x y
  | _ => 0

def holds (operator : Operator) (order : Ordering) : Bool :=
  match operator with
  | .less => order = .lt
  | .lessEqual => order ≠ .gt
  | .equal => order = .eq
  | .notEqual => order ≠ .eq
  | .greater => order = .gt
  | _ => order ≠ .lt

def combined (operator : Operator) (a b : Value) : Running Value := do
  match operator with
  | .join =>
    let first ← textOf a
    return .text (first ++ (← textOf b))
  | .add => return .number (a.toNumber + b.toNumber)
  | .subtract => return .number (a.toNumber - b.toNumber)
  | .multiply => return .number (a.toNumber * b.toNumber)
  | .divide => return .number (a.toNumber / b.toNumber)
  | .modulo => return .number (remainder a.toNumber b.toNumber)
  | .power => return .number (Float.pow a.toNumber b.toNumber)
  | comparison =>
    match a, b with
    | .number x, .number y =>
      return truth (holds comparison (if x < y then .lt else if x == y then .eq else .gt))
    | a, b =>
      let format ← sharedText Variable.conversionFormat
      return truth (holds comparison (a.compare format b))

/-! ### Functions that every program has -/

/-- The part of a text from a place on, counted from one, and of some length. Places before the first
one add to the length. -/
def part (octets : List Char) (start : Int) (length? : Option Int) : List Char :=
  let length? := length?.map fun length => if start < 1 then length - start else length
  let rest := octets.drop (start - 1).toNat
  match length? with
  | none => rest
  | some length => rest.take length.toNat

/-- The first place of a text in another one, counted from one; zero if it is in none. -/
def placeIn (sought : List Char) : Nat → List Char → Nat
  | _, [] => 0
  | n, c :: rest => if sought.isPrefixOf (c :: rest) then n else placeIn sought (n + 1) rest

/-- Lays out values in a format that is the first of them, for a statement or function with a name. -/
def layOut (name : String) (values : List Value) : Running (List Char × Running Unit) := do
  match values with
  | [] => return ([], pure ())
  | format :: values =>
    let format ← textOf format
    let conversion ← sharedText Variable.conversionFormat
    let (octets, fault?) := formatted (fun value => value.toText conversion) format values
    let shown := s!"{name}(\"{String.ofList format}\")"
    let check : Running Unit := match fault? with
      | none => pure ()
      | some .few => misuse s!"not enough arguments passed to {shown}"
      | some (.conversion index) => misuse s!"improper conversion(number {index}) in {shown}"
    return (octets, check)

def seedAfter (seed : Nat) : Nat := (seed * 25214903917 + 11) % 281474976710656

def simple (name : Builtin) (values : List Value) : Running Value := do
  let first := values.headD .none
  let second := (values.drop 1).headD .none
  let x := first.toNumber
  match name with
  | .length =>
    if values.isEmpty then return ofNat (← textOf (← record)).length
    else return ofNat (← textOf first).length
  | .substr =>
    let octets ← textOf first
    let length? := (values.drop 2).head?.map fun value => truncated value.toNumber
    return .text (part octets (truncated second.toNumber) length?)
  | .index =>
    let octets ← textOf first
    return ofNat (placeIn (← textOf second) 1 octets)
  | .sprintf =>
    let (octets, check) ← layOut "sprintf" values
    check
    return .text octets
  | .sine => return .number x.sin
  | .cosine => return .number x.cos
  | .arctangent => return .number (Float.atan2 x second.toNumber)
  | .exponential => return .number x.exp
  | .logarithm => return .number x.log
  | .root => return .number x.sqrt
  | .integer => return .number (if x < 0 then x.ceil else x.floor)
  | .random =>
    let seed := seedAfter (← get).seed
    modify fun scan => { scan with seed }
    return .number (seed.toFloat / 281474976710656)
  | .seed =>
    let before := (← get).seed
    let seed := if values.isEmpty then 1 else (truncated x).natAbs
    modify fun scan => { scan with seed }
    return ofNat before
  | .lower => return .text ((← textOf first).map Char.toLower)
  | .upper => return .text ((← textOf first).map Char.toUpper)
  | .system =>
    let command ← textOf first
    flushAll
    let commands := (← get).commands
    return ofNat (← act (commands.run command))
  | .close => return .number (ofInt (← close (← textOf first)))
  | .flush =>
    if values.isEmpty then
      flushAll
      return .number 0
    else
      let path ← textOf first
      let outlets := (← get).outlets
      let known := path = [] || (Tool.streamOf? path).isSome || outlets.any (·.name = path)
      if known then flushAll
      return .number (if known then 0 else -1)
  | .now => return ofNat ((← get).shell.clock / 1000000000)
  | _ => return .none

def findMatch (regex : Regex) (octets : List Char) : Running Value := do
  let (start, length) : Nat × Float := match regex.find? octets.toArray 0 with
    | some hit => (hit.start + 1, (hit.stop - hit.start).toFloat)
    | none => (0, -1)
  putShared Variable.matchStart (ofNat start)
  putShared Variable.matchLength (.number length)
  return ofNat start

/-! ### Loops -/

/-- How many rounds of a loop are run before it is clear that it never ends. -/
def maxRounds : Nat := 2000000

/-- Runs statements up to one after which the next one does not follow. -/
def runAll (run : Statement → Running Signal) : List Statement → Running Signal
  | [] => return .go
  | statement :: others => do
    match ← run statement with
    | .go => runAll run others
    | signal => return signal

/-- Runs rounds of a loop as long as a condition holds. The number bounds the rounds. -/
def rounds (condition : Running Bool) (body step : Running Signal) : Nat → Running Signal
  | 0 => wait
  | bound + 1 => do
    if !(← condition) then return .go
    let signal ← body
    match signal with
    | .leave => return .go
    | .next => return signal
    | .nextFile => return signal
    | .give _ => return signal
    | _ =>
      let _ ← step
      rounds condition body step bound

def eachKey (key : Variable) (body : Running Signal) : List (List Char) → Running Signal
  | [] => return .go
  | octets :: others => do
    setVariable key (.text octets)
    let signal ← body
    match signal with
    | .leave => return .go
    | .next => return signal
    | .nextFile => return signal
    | .give _ => return signal
    | _ => eachKey key body others

/-! ### Calls -/

def maxRoom : Nat := 1024

/-- What a function gets for an argument that is a variable: its array, if it is one or may become one. -/
def handedOver (v : Variable) : Running Slot := do
  match ← slot v with
  | .value .none =>
    let known : Bool := match v with
      | .shared n => n < Variable.known.length
      | .own _ => false
    if known then return .value .none else return .array (← newArray v)
  | found => return found

def calling (slots : Array Slot) (body : Running Signal) : Running Value := do
  let before : Scan ← get
  let room := before.room + slots.size + 1
  if maxRoom < room then fail s!"program limit exceeded: eval stack size={maxRoom}"
  set { before with own := slots, room }
  let signal ← body
  modify fun scan => { scan with own := before.own, room := before.room }
  match signal with
  | .give value => return value
  | _ => return .none

/-! ### Expressions and statements -/

def receive (target? : Option Spot) (octets : List Char) : Running Unit :=
  match target? with
  | none => setRecord octets
  | some spot => spot.put (.ofInput octets)

/-- A record of a file or of the output of a command, if there is one, and minus one if it cannot be
read. -/
def readFrom (command : Bool) (name : List Char) : Running (Except Float (List Char)) := do
  let ended (found? : Option (List Char)) : Except Float (List Char) :=
    match found? with
    | some octets => .ok octets
    | none => .error 0
  if command then
    let intake ← match (← get).outputs.lookup name with
      | some (intake, _) => pure intake
      | none => do
        flushAll
        let commands := (← get).commands
        let (octets, status, ends) ← act (commands.output name)
        let intake : Intake := ⟨octets.toArray, 0, !ends⟩
        modify fun scan => { scan with outputs := (name, intake, status) :: scan.outputs }
        pure intake
    match ← nextOf intake with
    | none => return .error 0
    | some (octets, after) =>
      let moved (entry : List Char × Intake × Nat) : List Char × Intake × Nat :=
        if entry.1 = name then (name, after, entry.2.2) else entry
      modify fun scan => { scan with outputs := scan.outputs.map moved }
      return .ok octets
  else if isInput name then return ended (← nextOfInput)
  else
    let intake ← match (← get).files.lookup name with
      | some intake => pure intake
      | none =>
        match ← openIntake name with
        | .ok intake => pure intake
        | .error _ => return .error (-1)
    match ← nextOf intake with
    | none => return .error 0
    | some (octets, after) =>
      modify fun scan => { scan with files := OrderedMap.put name after scan.files }
      return .ok octets

def received (spot? : Option Spot) : Except Float (List Char) → Running Value
  | .error x => return .number x
  | .ok octets => do
    receive spot? octets
    return .number 1

def printed (found : Value) : Running (List Char) := do
  match found with
  | .number x =>
    match integerText? x with
    | some digits => return digits
    | none => return numberText (← sharedText Variable.outputFormat) x
  | found => textOf found

mutual

/-- The value of an expression. The number bounds how deep expressions and calls are nested. -/
def value : Nat → Expr → Running Value
  | 0, _ => wait
  | bound + 1, expr => do
    match expr with
    | .number x => return .number x
    | .text octets => return .text octets
    | .regex regex => return truth (regex.occurs (← textOf (← record)).toArray)
    | .read target => readTarget bound target
    | .assign target none source =>
      let spot ← spotOf bound target
      let new ← value bound source
      spot.put new
      return new
    | .assign target (some operator) source =>
      let spot ← spotOf bound target
      let operand ← value bound source
      let old ← spot.value
      let new := Value.number (calculated operator old.toNumber operand.toNumber)
      spot.put new
      return new
    | .step target amount before =>
      let spot ← spotOf bound target
      let old := (← spot.value).toNumber
      spot.put (.number (old + amount))
      return .number (if before then old + amount else old)
    | .negate operand => return .number (-(← value bound operand).toNumber)
    | .plus operand => return .number (← value bound operand).toNumber
    | .not operand => return truth (!(← value bound operand).isTrue)
    | .binary operator left right =>
      let a ← value bound left
      let b ← value bound right
      combined operator a b
    | .and left right =>
      if (← value bound left).isTrue then return truth (← value bound right).isTrue
      else return truth false
    | .or left right =>
      if (← value bound left).isTrue then return truth true
      else return truth (← value bound right).isTrue
    | .choice condition yes no =>
      if (← value bound condition).isTrue then value bound yes else value bound no
    | .fits negated subject pattern =>
      let octets ← textOf (← value bound subject)
      let regex ← regexOfExpr bound pattern
      return truth (regex.occurs octets.toArray != negated)
    | .contains keys v =>
      let key ← keyOf (← keys.mapM (value bound))
      let n ← array v
      return truth (((← get).tables.getD n .empty).contains key.octets)
    | .extent v =>
      match ← slot v with
      | .array n => return ofNat ((← get).tables.getD n .empty).size
      | .value found => return ofNat (← textOf found).length
    | .builtin .split args =>
      let octets ← textOf (← value bound (args.headD (.text [])))
      let .read (.variable v) := (args.drop 1).headD (.text []) | return .none
      let separator ← separatorOf bound (args.drop 2).head?
      let n ← array v
      let parts := separator.divide false octets
      withArray n fun _ => (Table.ofList (parts.map Value.ofInput), ())
      return ofNat parts.length
    | .builtin .sub args => replace bound false args
    | .builtin .gsub args => replace bound true args
    | .builtin .matchIn args =>
      let octets ← textOf (← value bound (args.headD (.text [])))
      let regex ← regexOfExpr bound ((args.drop 1).headD (.text []))
      findMatch regex octets
    | .builtin name args => simple name (← args.mapM (value bound))
    | .call number args =>
      match (← get).program.functions[number]? with
      | none => return .none
      | some function =>
        let given ← args.mapM fun arg => do
          match arg with
          | .read (.variable v) => handedOver v
          | arg => return .value (← value bound arg)
        let own := Array.replicate (function.arity - given.length) (Slot.value .none)
        calling ((given.take function.arity).toArray ++ own) (execute bound function.body)
    | .readMain target? =>
      let spot? ← target?.mapM (spotOf bound)
      match ← nextMain with
      | none => return .number 0
      | some octets =>
        receive spot? octets
        return .number 1
    | .readFile target? path =>
      let spot? ← target?.mapM (spotOf bound)
      let name ← textOf (← value bound path)
      received spot? (← readFrom false name)
    | .readCommand target? command =>
      let spot? ← target?.mapM (spotOf bound)
      let name ← textOf (← value bound command)
      received spot? (← readFrom true name)

def readTarget : Nat → Target → Running Value
  | 0, _ => wait
  | bound + 1, target => do
    match target with
    | .variable v => valueOf v
    | target => (← spotOf bound target).value

def spotOf : Nat → Target → Running Spot
  | 0, _ => wait
  | bound + 1, target => do
    match target with
    | .variable v => return .variable v
    | .element v keys =>
      let key ← keyOf (← keys.mapM (value bound))
      let n ← array v
      let _ ← element n key
      return .element n key
    | .field number =>
      let i := truncated (← value bound number).toNumber
      if i < 0 then misuse s!"negative field index ${i}"
      return .field i.toNat

def regexOfExpr : Nat → Expr → Running Regex
  | 0, _ => wait
  | bound + 1, expr => do
    match expr with
    | .regex regex => return regex
    | expr => regexFor (← textOf (← value bound expr))

def separatorOf : Nat → Option Expr → Running Separator
  | 0, _ => wait
  | bound + 1, expr? => do
    match expr? with
    | none => return (← get).separator
    | some (.regex regex) => return .regex regex
    | some expr =>
      match Separator.ofText (← textOf (← value bound expr)) with
      | .ok separator => return separator
      | .error message => misuse message

def replace : Nat → Bool → List Expr → Running Value
  | 0, _, _ => wait
  | bound + 1, every, args => do
    let regex ← regexOfExpr bound (args.headD (.text []))
    let replacement ← textOf (← value bound ((args.drop 1).headD (.text [])))
    match (args.drop 2).headD (.read (.field (.number 0))) with
    | .read target =>
      let spot ← spotOf bound target
      let (octets, count) := replaced regex replacement (← textOf (← spot.value)) every
      if 0 < count then spot.put (.text octets)
      return ofNat count
    | expr =>
      let (_, count) := replaced regex replacement (← textOf (← value bound expr)) every
      return ofNat count

def execute : Nat → Statement → Running Signal
  | 0, _ => wait
  | bound + 1, statement => do
    match statement with
    | .expr source =>
      let _ ← value bound source
      return .go
    | .print values target? =>
      let octets ← if values.isEmpty then textOf (← record)
        else do
          let found ← values.mapM (value bound)
          let parts ← found.mapM printed
          let between ← sharedText Variable.outputFieldSeparator
          pure (between.intercalate parts)
      let line := octets ++ (← sharedText Variable.outputRecordSeparator)
      put bound target? line
      return .go
    | .printf values target? =>
      let (octets, check) ← layOut "printf" (← values.mapM (value bound))
      put bound target? octets
      check
      return .go
    | .block statements => runAll (execute bound) statements
    | .branch condition yes no =>
      if (← value bound condition).isTrue then execute bound yes else execute bound no
    | .loop condition body =>
      rounds (return (← value bound condition).isTrue) (execute bound body) (return .go) maxRounds
    | .loopAfter body condition =>
      let signal ← execute bound body
      match signal with
      | .leave => return .go
      | .next => return signal
      | .nextFile => return signal
      | .give _ => return signal
      | _ => rounds (return (← value bound condition).isTrue) (execute bound body) (return .go) maxRounds
    | .count start condition? step body =>
      let _ ← execute bound start
      let condition : Running Bool := match condition? with
        | some condition => return (← value bound condition).isTrue
        | none => return true
      rounds condition (execute bound body) (execute bound step) maxRounds
    | .each key v body =>
      let n ← array v
      let keys ← withArray n fun table =>
        let table := table.completed
        (table, table.keys)
      eachKey key (execute bound body) keys
    | .next => return .next
    | .nextFile => return .nextFile
    | .exit status? =>
      match status? with
      | some status =>
        let status := (truncated (← value bound status).toNumber % 256).toNat
        modify fun scan => { scan with status }
      | none => pure ()
      throw .exit
    | .give source? =>
      match source? with
      | some source => return .give (← value bound source)
      | none => return .give .none
    | .leave => return .leave
    | .again => return .again
    | .delete v keys? =>
      let n ← array v
      match keys? with
      | none => withArray n fun _ => (.empty, ())
      | some keys =>
        let key ← keyOf (← keys.mapM (value bound))
        withArray n fun table => (table.erase key.octets, ())
      return .go

def put : Nat → Option (Way × Expr) → List Char → Running Unit
  | 0, _, _ => wait
  | bound + 1, target?, octets => do
    match target? with
    | none => print octets
    | some (way, expr) => printTo way (← textOf (← value bound expr)) octets

end

/-! ### Programs -/

def maxNesting : Nat := 1000000

def applies (i : Nat) (pattern : Pattern) : Running Bool := do
  match pattern with
  | .always => return true
  | .when condition => return (← value maxNesting condition).isTrue
  | .from first last =>
    if (← get).held.contains i || (← value maxNesting first).isTrue then
      let ends := (← value maxNesting last).isTrue
      modify fun scan => { scan with held :=
        if ends then scan.held.filter (· ≠ i) else if scan.held.contains i then scan.held
        else i :: scan.held }
      return true
    else return false

def runRules : List ((Pattern × Statement) × Nat) → Running Signal
  | [] => return .go
  | ((pattern, action), i) :: others => do
    if ← applies i pattern then
      match ← execute maxNesting action with
      | .go => runRules others
      | signal => return signal
    else runRules others

/-- How many records are read before it is clear that there is no end. -/
def maxRecords : Nat := 1000000000

def runRecords (rules : List ((Pattern × Statement) × Nat)) : Nat → Running Unit
  | 0 => wait
  | bound + 1 => do
    match ← nextMain with
    | none => return
    | some octets =>
      setRecord octets
      match ← runRules rules with
      | .nextFile => modify fun scan => { scan with source := .next }
      | _ => pure ()
      runRecords rules bound

/-- Runs what a program does before the end: at its start, and for each record. -/
def runMain : Running Unit := do
  let program := (← get).program
  let _ ← runAll (execute maxNesting) program.start
  if !program.rules.isEmpty || !program.finish.isEmpty then
    runRecords program.rules.zipIdx maxRecords

def untilExit (action : Running Unit) : Running Unit := do
  try action
  catch
    | .exit => return
    | halt => throw halt

def runProgram : Running Unit := do
  try
    untilExit runMain
    untilExit do
      let finish := (← get).program.finish
      let _ ← runAll (execute maxNesting) finish
  catch
    | .flow flow => throw (.flow flow)
    | _ => pure ()
  finish

end Proctor.Machine.Awk.Running
