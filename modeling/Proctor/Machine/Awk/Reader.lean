import Proctor.Machine.Awk.Matching

/-! How programs that scan records are read. -/
namespace Proctor.Machine.Awk.Reader

/-- What is left of a program, and what was met so far. -/
structure Progress where
  tokens : List (Token × Nat)
  names : Array (List Char)
  /-- The variables of the function that is read, if one is. -/
  own? : Option (List (List Char))
  kinds : List (Variable × Bool)
  called : Array (List Char)
  functions : List Function
  /-- The calls of functions, the last first: how many values they give, and their lines. -/
  calls : List (List Char × Nat × Nat)
  faults : List Fault
  loops : Nat
  parentheses : Nat
  scanning : Bool
  printing : Bool

abbrev Reading := ExceptT Fault (StateM Progress)

/-! ### Tokens -/

def peek : Reading Token := return ((← get).tokens.head?.map (·.1)).getD .finish

def line : Reading Nat := return ((← get).tokens.head?.map (·.2)).getD 0

def pass : Reading Unit := modify fun progress => { progress with tokens := progress.tokens.drop 1 }

def refuse {α : Type} (message : String) : Reading α := do throw ⟨← line, message, false⟩

def note (message : String) : Reading Unit := do
  let line ← line
  modify fun progress => { progress with faults := ⟨line, message, false⟩ :: progress.faults }

def unexpected {α : Type} : Reading α := do
  match ← peek with
  | .finish => refuse "missing \x7d near end of file"
  | token =>
    let ends := match token with
      | .newline => true
      | .sign word => word = ";" || word = "\x7d"
      | _ => false
    if ends && 0 < (← get).parentheses then refuse s!"missing ) near {token.shown}"
    else refuse s!"syntax error at or near {token.shown}"

def isSign (word : String) : Token → Bool
  | .sign other => other == word
  | _ => false

def isKeyword (word : String) : Token → Bool
  | .keyword other => other == word
  | _ => false

def skip (word : String) : Reading Bool := do
  if isSign word (← peek) then
    pass
    return true
  else return false

def skipKeyword (word : String) : Reading Bool := do
  if isKeyword word (← peek) then
    pass
    return true
  else return false

def expect (word : String) : Reading Unit := do
  if !(← skip word) then unexpected

def skipLines : Reading Unit :=
  modify fun progress =>
    { progress with tokens := progress.tokens.dropWhile fun (token, _) => token matches .newline }

def skipEnds : Reading Unit :=
  modify fun progress =>
    { progress with tokens := progress.tokens.dropWhile fun (token, _) =>
        (token matches .newline) || isSign ";" token }

def enclosed {α : Type} (finish : String) (inner : Reading α) : Reading α := do
  let before := (← get).printing
  modify fun progress =>
    { progress with printing := false, parentheses := progress.parentheses + 1 }
  let found ← inner
  expect finish
  modify fun progress =>
    { progress with printing := before, parentheses := progress.parentheses - 1 }
  return found

/-! ### Names -/

def variableOf (name : List Char) : Reading Variable := do
  let progress ← get
  match progress.own?.bind fun own => own.findIdx? (· == name) with
  | some n => return .own n
  | none =>
    match progress.names.findIdx? (· == name) with
    | some n => return .shared n
    | none =>
      set { progress with names := progress.names.push name }
      return .shared progress.names.size

/-- Uses a variable as an array or as a value; it cannot be both. -/
def useAs (array : Bool) (v : Variable) : Reading Variable := do
  let progress ← get
  match progress.kinds.lookup v with
  | some kind =>
    if kind ≠ array then
      let name := match v with
        | .shared n => progress.names.getD n []
        | .own n => (progress.own?.getD []).getD n []
      let owner := if v matches .own _ then "local " else ""
      let kind := if kind then "array" else "variable"
      refuse s!"illegal reference to {owner}{kind} {String.ofList name}"
  | none => set { progress with kinds := (v, array) :: progress.kinds }
  return v

def functionOf (name : List Char) : Reading Nat := do
  let progress ← get
  match progress.called.findIdx? (· == name) with
  | some n => return n
  | none =>
    set { progress with called := progress.called.push name }
    return progress.called.size

def regexIn (text : List Char) : Reading Regex := do
  match regexOf text with
  | .ok regex => return regex
  | .error message =>
    note message
    return .empty

/-! ### Expressions -/

def startsOperand : Token → Bool
  | .number _ _ => true
  | .text _ => true
  | .regex _ => true
  | .name _ => true
  | .called _ => true
  | .builtin _ _ => true
  | .sign word => word == "(" || word == "$" || word == "!" || word == "++" || word == "--"
  | _ => false

def assignments : List (String × Option Operator) :=
  [("=", none), ("+=", some .add), ("-=", some .subtract), ("*=", some .multiply),
    ("/=", some .divide), ("%=", some .modulo), ("^=", some .power)]

def comparisons : List (String × Operator) :=
  [("<", .less), ("<=", .lessEqual), ("==", .equal), ("!=", .notEqual), (">", .greater),
    (">=", .greaterEqual)]

def sums : List (String × Operator) := [("+", .add), ("-", .subtract)]

def products : List (String × Operator) := [("*", .multiply), ("/", .divide), ("%", .modulo)]

def nextOf {α : Type} (signs : List (String × α)) : Reading (Option α) := do
  match ← peek with
  | .sign word => return signs.lookup word
  | _ => return none

def arity : Builtin → Nat × Nat
  | .length => (0, 1)
  | .substr => (2, 3)
  | .index => (2, 2)
  | .split => (2, 3)
  | .sub => (2, 3)
  | .gsub => (2, 3)
  | .matchIn => (2, 2)
  | .sprintf => (1, 255)
  | .arctangent => (2, 2)
  | .random => (0, 0)
  | .seed => (0, 1)
  | .flush => (0, 1)
  | .now => (0, 0)
  | _ => (1, 1)

def negated (operand : Expr) : Expr := .negate operand

mutual

def expression : Nat → Reading Expr
  | 0 => unexpected
  | bound + 1 => do
    let condition ← disjunction bound
    if ← skip "?" then
      skipLines
      let yes ← expression bound
      skipLines
      expect ":"
      skipLines
      return .choice condition yes (← expression bound)
    else return condition

def disjunction : Nat → Reading Expr
  | 0 => unexpected
  | bound + 1 => do moreDisjunction bound (← conjunction bound)

def moreDisjunction : Nat → Expr → Reading Expr
  | 0, found => return found
  | bound + 1, found => do
    if ← skip "||" then
      skipLines
      moreDisjunction bound (.or found (← conjunction bound))
    else return found

def conjunction : Nat → Reading Expr
  | 0 => unexpected
  | bound + 1 => do moreConjunction bound (← membership bound)

def moreConjunction : Nat → Expr → Reading Expr
  | 0, found => return found
  | bound + 1, found => do
    if ← skip "&&" then
      skipLines
      moreConjunction bound (.and found (← membership bound))
    else return found

def membership : Nat → Reading Expr
  | 0 => unexpected
  | bound + 1 => do moreMembership bound (← matching bound)

def moreMembership : Nat → Expr → Reading Expr
  | 0, found => return found
  | bound + 1, found => do
    if ← skipKeyword "in" then moreMembership bound (.contains [found] (← arrayName))
    else return found

def matching : Nat → Reading Expr
  | 0 => unexpected
  | bound + 1 => do moreMatching bound (← comparison bound)

def moreMatching : Nat → Expr → Reading Expr
  | 0, found => return found
  | bound + 1, found => do
    match ← nextOf [("~", false), ("!~", true)] with
    | some negated =>
      pass
      moreMatching bound (.fits negated found (← comparison bound))
    | none => return found

def comparison : Nat → Reading Expr
  | 0 => unexpected
  | bound + 1 => do moreComparison bound (← joined bound)

def moreComparison : Nat → Expr → Reading Expr
  | 0, found => return found
  | bound + 1, found => do
    match ← nextOf comparisons with
    | none => return found
    | some operator =>
      if operator = .greater && (← get).printing then return found
      pass
      moreComparison bound (.binary operator found (← joined bound))

def joined : Nat → Reading Expr
  | 0 => unexpected
  | bound + 1 => do
    let first ← sum bound
    match first, ← nextOf assignments with
    | .read target, some operator? =>
      pass
      skipLines
      return .assign target operator? (← expression bound)
    | first, _ => moreJoined bound first

def moreJoined : Nat → Expr → Reading Expr
  | 0, found => return found
  | bound + 1, found => do
    if startsOperand (← peek) then moreJoined bound (.binary .join found (← sum bound))
    else return found

def sum : Nat → Reading Expr
  | 0 => unexpected
  | bound + 1 => do moreSum bound (← product bound)

def moreSum : Nat → Expr → Reading Expr
  | 0, found => return found
  | bound + 1, found => do
    match ← nextOf sums with
    | none => return found
    | some operator =>
      pass
      moreSum bound (.binary operator found (← product bound))

def product : Nat → Reading Expr
  | 0 => unexpected
  | bound + 1 => do moreProduct bound (← signed bound)

def moreProduct : Nat → Expr → Reading Expr
  | 0, found => return found
  | bound + 1, found => do
    match ← nextOf products with
    | none => return found
    | some operator =>
      pass
      moreProduct bound (.binary operator found (← signed bound))

def signed : Nat → Reading Expr
  | 0 => unexpected
  | bound + 1 => do
    if ← skip "!" then return .not (← signed bound)
    else if ← skip "-" then return negated (← signed bound)
    else if ← skip "+" then return .plus (← signed bound)
    else piped bound (← power bound)

def piped : Nat → Expr → Reading Expr
  | 0, found => return found
  | bound + 1, found => do
    match (← get).tokens with
    | (token, _) :: (after, _) :: _ =>
      if isSign "|" token && isKeyword "getline" after then
        pass
        pass
        piped bound (.readCommand (← lineTarget? bound) found)
      else return found
    | _ => return found

def power : Nat → Reading Expr
  | 0 => unexpected
  | bound + 1 => do
    let base ← stepped bound
    if ← skip "^" then
      let exponent ←
        match ← nextOf [("-", ()), ("+", ()), ("!", ())] with
        | some () => signed bound
        | none => power bound
      return .binary .power base exponent
    else return base

def stepped : Nat → Reading Expr
  | 0 => unexpected
  | bound + 1 => do
    match ← operand bound, ← nextOf [("++", (1 : Float)), ("--", -1)] with
    | .read target, some amount =>
      pass
      return .step target amount false
    | found, _ => return found

def changed : Nat → Float → Reading Expr
  | 0, _ => unexpected
  | bound + 1, amount => do
    let starts := match ← peek with
      | .name _ => true
      | .sign word => word == "$" || word == "("
      | _ => false
    if !starts then unexpected
    match ← operand bound with
    | .read target => return .step target amount true
    | _ => unexpected

def operand : Nat → Reading Expr
  | 0 => unexpected
  | bound + 1 => do
    match ← peek with
    | .number x _ =>
      pass
      return .number x
    | .text octets =>
      pass
      return .text octets
    | .regex octets =>
      let regex ← regexIn octets
      pass
      return .regex regex
    | .name name =>
      if (← get).called.contains name && !(← get).names.contains name then
        pass
        if isSign "(" (← peek) then called bound name else unexpected
      else
        pass
        let v ← variableOf name
        if ← skip "[" then
          let v ← useAs true v
          return .read (.element v (← enclosed "]" (expressions bound)))
        else
          let next ← peek
          -- What is all of an argument may be an array.
          if isSign "," next || isSign ")" next || isKeyword "in" next then return .read (.variable v)
          else return .read (.variable (← useAs false v))
    | .called name =>
      pass
      if (← get).names.contains name && !(← get).called.contains name then
        return .read (.variable (← variableOf name))
      else called bound name
    | .builtin name _ =>
      pass
      builtin bound name
    | .keyword "getline" =>
      pass
      let target? ← lineTarget? bound
      if ← skip "<" then return .readFile target? (← power bound)
      else return .readMain target?
    | .sign "(" =>
      pass
      let values ← enclosed ")" (expressions bound)
      match values with
      | [.read target] =>
        -- A target in parentheses is no longer given a value by an assignment, but steps may change it.
        return .read target
      | [value] => return value
      | values =>
        if ← skipKeyword "in" then return .contains values (← arrayName) else unexpected
    | .sign "$" =>
      pass
      return .read (.field (← fieldNumber bound))
    | .sign "++" =>
      pass
      changed bound 1
    | .sign "--" =>
      pass
      changed bound (-1)
    | _ => unexpected

def fieldNumber : Nat → Reading Expr
  | 0 => unexpected
  | bound + 1 => do
    if ← skip "-" then return negated (← fieldNumber bound)
    else if ← skip "+" then return .plus (← fieldNumber bound)
    else if ← skip "!" then return .not (← fieldNumber bound)
    else operand bound

def arrayName : Reading Variable := do
  match ← peek with
  | .name name =>
    pass
    useAs true (← variableOf name)
  | _ => unexpected

/-- The target of a record that is read, if there is one. -/
def lineTarget? : Nat → Reading (Option Target)
  | 0 => unexpected
  | bound + 1 => do
    match ← peek with
    | .name _ =>
      match ← operand bound with
      | .read target => return some target
      | _ => unexpected
    | .sign "$" =>
      match ← operand bound with
      | .read target => return some target
      | _ => unexpected
    | _ => return none

def expressions : Nat → Reading (List Expr)
  | 0 => unexpected
  | bound + 1 => do
    let first ← expression bound
    if ← skip "," then
      skipLines
      return first :: (← expressions bound)
    else return [first]

def called : Nat → List Char → Reading Expr
  | 0, _ => unexpected
  | bound + 1, name => do
    let function ← functionOf name
    expect "("
    let args ← enclosed ")" do
      if isSign ")" (← peek) then return [] else expressions bound
    let line ← line
    modify fun progress => { progress with calls := (name, args.length, line) :: progress.calls }
    return .call function args

def builtin : Nat → Builtin → Reading Expr
  | 0, _ => unexpected
  | bound + 1, name => do
    if name = .length && !isSign "(" (← peek) then return .builtin .length []
    expect "("
    let args ← enclosed ")" do
      if isSign ")" (← peek) then return [] else expressions bound
    let (least, most) := arity name
    if args.length < least || most < args.length then
      let shown := ((Token.builtins.find? fun (_, other) => other = name).map (·.1)).getD ""
      refuse s!"wrong number of arguments in call to {shown}"
    match name, args with
    | .length, [.read (.variable v)] => return .extent v
    | .split, _ :: .read (.variable v) :: _ =>
      let _ ← useAs true v
      return .builtin name args
    | name, args => return .builtin name args

end

/-! ### Statements -/

def endStatement : Reading Unit := do
  match ← peek with
  | .newline => skipLines
  | token =>
    if isSign ";" token then
      pass
      skipLines
    else if !isSign "\x7d" token then unexpected

def closesList : Nat → List (Token × Nat) → Bool
  | _, [] => true
  | depth, (token, _) :: rest =>
    let ends := match token with
      | .newline => true
      | .finish => true
      | _ => false
    if ends then true
    else if isSign "(" token then closesList (depth + 1) rest
    else if isSign ")" token then
      if depth ≤ 1 then
        match rest with
        | [] => true
        | (after, _) :: _ =>
          match after with
          | .newline => true
          | .finish => true
          | .sign word => [";", "\x7d", ">", ">>", "|"].contains word
          | _ => false
      else closesList (depth - 1) rest
    else closesList depth rest

def output (bound : Nat) : Reading (List Expr × Option (Way × Expr)) := do
  let isEnd (token : Token) : Bool :=
    match token with
    | .newline => true
    | .finish => true
    | .sign word => [";", "\x7d", ">", ">>", "|"].contains word
    | _ => false
  modify fun progress => { progress with printing := true }
  let values ←
    if isEnd (← peek) then pure []
    else if isSign "(" (← peek) && closesList 0 (← get).tokens then do
      pass
      enclosed ")" do
        if isSign ")" (← peek) then return [] else expressions bound
    else expressions bound
  let way? ← nextOf [(">", Way.file), (">>", .after), ("|", .command)]
  let target? ← match way? with
    | none => pure none
    | some way => do
      pass
      modify fun progress => { progress with printing := false }
      pure (some (way, ← expression bound))
  modify fun progress => { progress with printing := false }
  return (values, target?)

mutual

def statement : Nat → Reading Statement
  | 0 => unexpected
  | bound + 1 => do
    match ← peek with
    | .sign "\x7b" =>
      pass
      let body ← statements bound
      expect "\x7d"
      skipEnds
      return .block body
    | .sign ";" =>
      pass
      skipLines
      return .block []
    | .keyword "if" =>
      pass
      expect "("
      let condition ← enclosed ")" (expression bound)
      skipLines
      let yes ← side bound
      if ← skipKeyword "else" then
        skipLines
        return .branch condition yes (← side bound)
      else return .branch condition yes (.block [])
    | .keyword "while" =>
      pass
      expect "("
      let condition ← enclosed ")" (expression bound)
      if ← skip ";" then
        skipLines
        return .loop condition (.block [])
      skipLines
      return .loop condition (← inLoop bound)
    | .keyword "do" =>
      pass
      skipLines
      let body ← inLoop bound
      skipEnds
      if !(← skipKeyword "while") then unexpected
      expect "("
      let condition ← enclosed ")" (expression bound)
      endStatement
      return .loopAfter body condition
    | .keyword "for" =>
      pass
      repetition bound
    | .keyword word => simple bound word
    | _ =>
      let value ← expression bound
      endStatement
      return .expr value

def side : Nat → Reading Statement
  | 0 => unexpected
  | bound + 1 => do if isSign "\x7d" (← peek) then return .block [] else statement bound

def statements : Nat → Reading (List Statement)
  | 0 => unexpected
  | bound + 1 => do
    skipEnds
    if isSign "\x7d" (← peek) then return []
    else
      let first ← statement bound
      return first :: (← statements bound)

def inLoop : Nat → Reading Statement
  | 0 => unexpected
  | bound + 1 => do
    modify fun progress => { progress with loops := progress.loops + 1 }
    let body ← statement bound
    modify fun progress => { progress with loops := progress.loops - 1 }
    return body

def repetition : Nat → Reading Statement
  | 0 => unexpected
  | bound + 1 => do
    match (← get).tokens with
    | (.sign "(", _) :: (.name key, _) :: (.keyword "in", _) :: (.name array, _) ::
        (.sign ")", _) :: rest =>
      modify fun progress => { progress with tokens := rest }
      let key ← useAs false (← variableOf key)
      let array ← useAs true (← variableOf array)
      if ← skip ";" then
        skipLines
        return .each key array (.block [])
      skipLines
      return .each key array (← inLoop bound)
    | _ =>
      expect "("
      let (start, condition?, step) ← enclosed ")" do
        let start ← if isSign ";" (← peek) then pure (Statement.block [])
          else do pure (.expr (← expression bound))
        expect ";"
        skipLines
        let condition? ← if isSign ";" (← peek) then pure none
          else do pure (some (← expression bound))
        expect ";"
        skipLines
        let step ← if isSign ")" (← peek) then pure (Statement.block [])
          else do pure (.expr (← expression bound))
        return (start, condition?, step)
      if ← skip ";" then
        skipLines
        return .count start condition? step (.block [])
      skipLines
      if isSign "\x7d" (← peek) then return .count start condition? step (.block [])
      return .count start condition? step (← inLoop bound)

def simple : Nat → String → Reading Statement
  | 0, _ => unexpected
  | bound + 1, word => do
    let ended (found : Statement) : Reading Statement := do
      endStatement
      return found
    let value? : Reading (Option Expr) := do
      match ← peek with
      | .newline => return none
      | token =>
        if isSign ";" token || isSign "\x7d" token then return none
        else return some (← expression bound)
    match word with
    | "print" =>
      pass
      let (values, target?) ← output bound
      ended (.print values target?)
    | "printf" =>
      pass
      let (values, target?) ← output bound
      if values.isEmpty then refuse "no arguments in call to printf"
      ended (.printf values target?)
    | "next" =>
      if !(← get).scanning then note "improper use of next"
      pass
      ended .next
    | "nextfile" =>
      if !(← get).scanning then note "improper use of nextfile"
      pass
      ended .nextFile
    | "exit" =>
      pass
      ended (.exit (← value?))
    | "return" =>
      if (← get).own?.isNone then note "return outside function body"
      pass
      ended (.give (← value?))
    | "break" =>
      if (← get).loops = 0 then note "break statement outside of loop"
      pass
      ended .leave
    | "continue" =>
      if (← get).loops = 0 then note "continue statement outside of loop"
      pass
      ended .again
    | "delete" =>
      pass
      let array ← arrayName
      if ← skip "[" then ended (.delete array (some (← enclosed "]" (expressions bound))))
      else ended (.delete array none)
    | "getline" => do
      let value ← expression bound
      endStatement
      return .expr value
    | _ => unexpected

end

/-! ### Programs -/

def block (bound : Nat) : Reading Statement := do
  expect "\x7b"
  let body ← statements bound
  expect "\x7d"
  return .block body

def parameters : Nat → Reading (List (List Char))
  | 0 => unexpected
  | bound + 1 => do
    skipLines
    match ← peek with
    | .name name =>
      pass
      if ← skip "," then return name :: (← parameters bound) else return [name]
    | _ => unexpected

def function (bound : Nat) : Reading Unit := do
  let name ← match ← peek with
    | .name name => pure name
    | .called name => pure name
    | _ => unexpected
  pass
  expect "("
  let own ← if isSign ")" (← peek) then pure [] else parameters bound
  expect ")"
  skipLines
  let _ ← functionOf name
  modify fun progress => { progress with
    own? := some own
    kinds := progress.kinds.filter fun (v, _) => v matches .shared _
    scanning := false }
  let body ← block bound
  modify fun progress => { progress with
    own? := none
    functions := ⟨name, own.length, body⟩ :: progress.functions }

def parts : Nat → Program → Reading Program
  | 0, program => return program
  | bound + 1, program => do
    skipEnds
    let size := 40 * (← get).tokens.length + 40
    modify fun progress => { progress with scanning := false }
    match ← peek with
    | .finish => return program
    | .keyword "BEGIN" =>
      pass
      parts bound { program with start := program.start ++ [← block size] }
    | .keyword "END" =>
      pass
      parts bound { program with finish := program.finish ++ [← block size] }
    | .keyword "function" =>
      pass
      function size
      parts bound program
    | .sign "\x7d" =>
      note "extra '\x7d'"
      pass
      unexpected
    | token =>
      modify fun progress => { progress with scanning := true }
      let pattern ←
        if isSign "\x7b" token then pure Pattern.always
        else do
          let first ← expression size
          if ← skip "," then
            skipLines
            pure (Pattern.from first (← expression size))
          else pure (Pattern.when first)
      let action ←
        if isSign "\x7b" (← peek) then block size
        else do
          match ← peek with
          | .newline => pure (.print [] none)
          | .sign ";" => pure (.print [] none)
          | _ => unexpected
      parts bound { program with rules := program.rules ++ [(pattern, action)] }

def callFaults (progress : Progress) (last : Nat) : List Fault :=
  let missing := progress.called.toList.reverse.filter fun name =>
    !progress.functions.any fun function => function.name = name
  let undefined := missing.map fun name =>
    (⟨last, s!"function {String.ofList name} never defined", false⟩ : Fault)
  let large := progress.calls.reverse.filter fun (name, count, _) =>
    progress.functions.any fun function => function.name = name && function.arity < count
  let calls := large.map fun (name, _, line) =>
    (⟨line, s!"too many arguments in call to {String.ofList name}", false⟩ : Fault)
  calls ++ undefined

def program (text : List Char) : Except (List Fault) Program := do
  let (tokens, fault?) := Token.ofText text
  let names := (Variable.known.map String.toList).toArray
  let empty : Program := ⟨[], [], [], #[], []⟩
  let kinds := (List.range names.size).map fun n =>
    (Variable.shared n, n = Variable.environment || n = Variable.arguments)
  let start : Progress := ⟨tokens, names, none, kinds, #[], [], [], [], 0, 0, false, false⟩
  let (result, progress) := (parts (tokens.length + 1) empty).run.run start
  let last := ((tokens.getLast?).map (·.2)).getD 1
  let found := progress.faults.reverse
  match result, fault? with
  | .error fault, none => throw (found ++ [fault])
  | _, some fault => throw (found ++ [fault])
  | .ok program, none =>
    if found ≠ [] then throw found
    let wrong := callFaults progress last
    if wrong ≠ [] then throw wrong
    let functions := progress.called.filterMap fun name =>
      progress.functions.find? fun function => function.name = name
    return { program with functions, names := progress.names.toList }

end Proctor.Machine.Awk.Reader
