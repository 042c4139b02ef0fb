import Proctor.Machine.Shell.Option

/-! The commands of a shell that set variables and parameters, and those that list them. -/
namespace Proctor.Machine.Shell

/-! ### Options of commands -/

/-- The options at the start of arguments, and the arguments after them. Letters in `valued` take a
text. The number bounds the characters. -/
def ownOptions (plain valued : List Char) : Nat → List (List Char) →
    Action (List (Char × List Char) × List (List Char))
  | 0, args => return ([], args)
  | bound + 1, args =>
    match args with
    | ['-', '-'] :: rest => return ([], rest)
    | ('-' :: letter :: letters) :: rest => do
      if valued.contains letter then
        match letters, rest with
        | [], value :: rest =>
          let (options, rest) ← ownOptions plain valued bound rest
          return ((letter, value) :: options, rest)
        | [], [] => Action.refuse s!"No arg for -{letter} option"
        | value, rest =>
          let (options, rest) ← ownOptions plain valued bound rest
          return ((letter, value) :: options, rest)
      else if plain.contains letter then
        let more := if letters = [] then rest else ('-' :: letters) :: rest
        let (options, rest) ← ownOptions plain valued bound more
        return ((letter, []) :: options, rest)
      else Action.refuse s!"Illegal option -{letter}"
    | args => return ([], args)

def optionsOf (plain valued : String) (args : List (List Char)) :
    Action (List (Char × List Char) × List (List Char)) :=
  let length := args.foldl (fun sum arg => sum + arg.length) 0
  ownOptions plain.toList valued.toList (length + args.length + 1) args

def numberIn (text : List Char) : Action Nat := do
  if text ≠ [] && text.all isDecimalDigit && ofDigits 10 text ≤ 2147483647 then
    return ofDigits 10 text
  else Action.refuse s!"Illegal number: {String.ofList text}"

/-! ### Lists of variables -/

def quotedText (text : List Char) : List Char :=
  let rec pieces : Nat → List Char → List Char
    | 0, _ => []
    | bound + 1, text =>
      let plain := text.takeWhile (· ≠ '\'')
      let rest := text.drop plain.length
      let quotes := rest.takeWhile (· = '\'')
      let shown := '\'' :: plain ++ ['\'']
      if quotes = [] then shown
      else
        let rest := rest.drop quotes.length
        shown ++ '"' :: quotes ++ '"' :: if rest = [] then [] else pieces bound rest
  pieces (text.length + 1) text

/-- A variable as a line, after a word; a variable without a value is only named. -/
def variableLine (start name : List Char) (value? : Option (List Char)) : List Char :=
  start ++ name ++ match value? with
    | some value => '=' :: quotedText value ++ ['\n']
    | none => ['\n']

def listVariables (start : List Char) (names : List (List Char)) : Action Unit := do
  let state ← get
  let sorted := names.mergeSort fun a b => !Octets.before b a
  Action.setStatus (← Action.print (sorted.flatMap fun name =>
    variableLine start name (state.value? name)))

/-! ### Setting variables -/

/-- The name in an argument such as `name=value`, and the value if there is one. -/
def assignmentOf (arg : List Char) : List Char × Option (List Char) :=
  match Text.cutFirst? '=' arg with
  | some (name, value) => (name, some value)
  | none => (arg, none)

/-- Ends the shell unless a text is a name of a variable. -/
def demandName (name : List Char) : Action Unit := do
  if !isName name then Action.refuse s!"{String.ofList name}: bad variable name"

def runMarking (word : String) (names : State → List (List Char))
    (mark : List Char → State → State) (args : List (List Char)) : Action Unit := do
  let (options, rest) ← optionsOf "p" "" args
  if options ≠ [] || rest = [] then listVariables (word ++ " ").toList (names (← get))
  else
    rest.forM fun arg => do
      let (name, value?) := assignmentOf arg
      demandName name
      match value? with
      | some value => Action.assign name value
      | none => pure ()
      modify (mark name)
    Action.setStatus 0

def runExport : List (List Char) → Action Unit :=
  runMarking "export" (·.exported) fun name state =>
    { state with exported := State.withName name state.exported }

def runReadonly : List (List Char) → Action Unit :=
  runMarking "readonly" (·.readOnly) fun name state =>
    { state with readOnly := State.withName name state.readOnly }

def hide (state : State) (name : List Char) : State :=
  match state.hidden with
  | [] => state
  | innermost :: others =>
    let entry : Hidden :=
      if name = ['-'] then .options state.options
      else .binding name (state.value? name) (state.exported.contains name)
        (state.readOnly.contains name)
    { state with hidden := (entry :: innermost) :: others }

def unhide (state : State) : Hidden → State
  | .options before => { state with options := before }
  | .binding name value? exported readOnly =>
    let mark (on : Bool) (names : List (List Char)) : List (List Char) :=
      if on then State.withName name names else names.filter (· ≠ name)
    { state with
      bindings := match value? with
        | some value => OrderedMap.put name value state.bindings
        | none => OrderedMap.erase name state.bindings
      exported := mark exported state.exported
      readOnly := mark readOnly state.readOnly }

def unhideAll (state : State) : State :=
  match state.hidden with
  | [] => state
  | innermost :: others => innermost.foldl unhide { state with hidden := others }

def runLocal (args : List (List Char)) : Action Unit := do
  if (← get).calls = 0 then Action.refuse "not in a function"
  args.forM fun arg => do
    let (name, value?) := assignmentOf arg
    if arg ≠ ['-'] then demandName name
    modify fun state => hide state name
    match value? with
    | some value => Action.assign name value
    | none => pure ()
  Action.setStatus 0

def runUnset (args : List (List Char)) : Action Unit := do
  let (options, names) ← optionsOf "vf" "" args
  names.forM fun name => do
    if (options.getLast?).any (·.1 == 'f') then
      modify fun state => { state with functions := OrderedMap.erase name state.functions }
    else
      demandName name
      let state ← get
      if state.readOnly.contains name then Action.refuse s!"{String.ofList name}: is read only"
      set { state with
        bindings := OrderedMap.erase name state.bindings
        exported := state.exported.filter (· ≠ name) }
  Action.setStatus 0

def runSet (args : List (List Char)) : Action Unit := do
  match args with
  | [] => listVariables [] ((← get).bindings.map (·.1))
  | args =>
    let found ← setOptions false (args.length + 1) args
    if found.rest ≠ [] || found.closed then
      modify fun state =>
        { state with parameters := found.rest, optionIndex := 1, optionOffset? := none }
    Action.setStatus 0

def runShift (args : List (List Char)) : Action Unit := do
  let count ← match args with
    | [] => pure 1
    | text :: _ => numberIn text
  let state ← get
  if state.parameters.length < count then Action.refuse "can't shift that many"
  set { state with
    parameters := state.parameters.drop count, optionIndex := 1, optionOffset? := none, status := 0 }

/-! ### Reading lines -/

/-- A character of a line, and whether it is taken as it stands. -/
abbrev LineMark := Char × Bool

/-- The line at the start of octets: its characters, how many octets it has, and whether it is
complete. Unless `raw` holds, a backslash keeps the next character and joins lines. -/
def lineOf (raw : Bool) : List Char → List LineMark → Nat → List LineMark × Nat × Bool
  | [], found, count => (found.reverse, count, false)
  | '\\' :: c :: rest, found, count =>
    if raw then lineOf raw (c :: rest) (('\\', false) :: found) (count + 1)
    else if c = '\n' then lineOf raw rest found (count + 2)
    else lineOf raw rest ((c, true) :: found) (count + 2)
  | c :: rest, found, count =>
    if c = '\n' then (found.reverse, count + 1, true)
    else if c = '\x00' || (c = '\\' && !raw) then lineOf raw rest found (count + 1)
    else lineOf raw rest ((c, false) :: found) (count + 1)

def lineIn (raw : Bool) (chunks : List Chunk) : List LineMark × Nat × Bool :=
  let first := lineOf raw ((chunks.head?.map (·.octets)).getD []) [] 0
  if first.2.2 then first else lineOf raw (chunks.flatMap (·.octets)) [] 0

/-- How far a line is cut into fields: the complete ones, the last first; the one that is being built,
from its end; how many more there may be; how many characters at its end do not count if nothing
follows; and whether blanks between fields are being skipped. -/
structure Cutting where
  complete : List (List Char)
  current : List Char
  left : Nat
  loose? : Option Nat
  skipping : Bool

def Cutting.keep (cutting : Cutting) (c : Char) : Cutting :=
  { cutting with
    current := c :: cutting.current, skipping := false, loose? := cutting.loose?.map (· + 1) }

def Cutting.take (separators : List Char) (cutting : Cutting) (c : Char) : Cutting :=
  let separates := separators.contains c
  let blank := separates && (c == ' ' || c == '\t' || c == '\n')
  let added := { cutting with current := c :: cutting.current }
  if cutting.left = 0 then
    if blank then { added with loose? := some ((cutting.loose?.map (· + 1)).getD 1) }
    else
      let loose? := if separates && cutting.skipping then cutting.loose?.map (· + 1) else none
      { added with loose?, skipping := false }
  else if cutting.skipping && blank then { cutting with current := [] }
  else if cutting.skipping && separates then { cutting with current := [], skipping := false }
  else
    let cutting := if cutting.skipping then { cutting with current := [] } else cutting
    let added := { cutting with current := c :: cutting.current }
    if separates then
      if cutting.current = [] && blank then { cutting with skipping := false }
      else if cutting.left = 1 then { added with left := 0, loose? := some 1, skipping := blank }
      else
        { cutting with
          complete := cutting.current.reverse :: cutting.complete
          current := [], left := cutting.left - 1, skipping := blank }
    else { added with skipping := false }

def cutLine (separators : List Char) (count : Nat) (line : List LineMark) : List (List Char) :=
  let cutting := line.foldl (fun cutting (c, kept) =>
    if kept then cutting.keep c else cutting.take separators c)
    (⟨[], [], count, none, false⟩ : Cutting)
  let last := (cutting.current.drop (cutting.loose?.getD 0)).reverse
  (if last = [] then cutting.complete else last :: cutting.complete).reverse

def runRead (args : List (List Char)) : Action Unit := do
  let (options, names) ← optionsOf "r" "p" args
  if names = [] then Action.refuse "arg count"
  let state ← get
  let (line, complete) ← match state.left 0 with
    | .error _ => pure ([], false)
    | .ok (chunks, ended?) => do
      let (line, count, complete) := lineIn (options.any (·.1 == 'r')) chunks
      let after := state.take 0 count 1
      set { after with clock := if complete then after.clock else max after.clock (ended?.getD 0) }
      if !complete && ended?.isNone then throw .endless
      pure (line, complete)
  let fields := cutLine state.separators names.length line
  names.zipIdx.forM fun (name, i) => do
    demandName name
    Action.assign name (fields.getD i [])
  Action.setStatus (if complete then 0 else 1)

/-! ### Options of scripts -/

/-- What a step through options has come to: the letter or the sign for the variable, the text that goes
with it, a complaint, and where the next step goes on. -/
structure OptionStep where
  letter : Char
  /-- The text to set, or none to take it away, if anything is to be done. -/
  text? : Option (Option (List Char))
  complaint? : Option String
  index : Nat
  offset? : Option Nat
  ended : Bool

def nextOption (letters : List Char) (words : List (List Char)) (index : Nat) (offset? : Option Nat) :
    OptionStep :=
  let silent := letters.head? = some ':'
  let before := if index ≤ 1 then [] else words.getD (index - 2) []
  let rest? := (offset?.filter fun offset => 1 < index && offset ≤ before.length).map before.drop
  let stop (index : Nat) : OptionStep := ⟨'?', none, none, index, none, true⟩
  let step (text : List Char) (index : Nat) : OptionStep :=
    match text with
    | [] => stop index
    | c :: more =>
      let word := words.getD (index - 2) []
      let offset? := some (word.length - more.length)
      let shown : List Char := [c]
      match (Text.cutFirst? c letters).map (·.2) with
      | none =>
        if silent then ⟨'?', some (some shown), none, index, offset?, false⟩
        else ⟨'?', some none, some s!"Illegal option -{c}", index, offset?, false⟩
      | some (':' :: _) =>
        if more ≠ [] then ⟨c, some (some more), none, index, none, false⟩
        else
          match words[index - 1]? with
          | some value => ⟨c, some (some value), none, index + 1, none, false⟩
          | none =>
            if silent then ⟨':', some (some shown), none, index, offset?, false⟩
            else ⟨'?', some none, some s!"No arg for -{c} option", index, offset?, false⟩
      | some _ => ⟨c, some (some []), none, index, offset?, false⟩
  match rest?.filter (· ≠ []) with
  | some text => step text index
  | none =>
    match words[index - 1]? with
    | some ['-', '-'] => stop (index + 1)
    | some ('-' :: c :: more) => step (c :: more) (index + 1)
    | _ => stop index

def runGetopts (args : List (List Char)) : Action Unit := do
  match args with
  | letters :: name :: words =>
    let state ← get
    let words := if words = [] then state.parameters else words
    let (index, offset?) := if words.length + 1 < state.optionIndex then (1, none)
      else (state.optionIndex, state.optionOffset?)
    let found := nextOption letters words index offset?
    match found.complaint? with
    | some complaint => modify fun state => state.tell 2 (complaint ++ "\n")
    | none => pure ()
    match found.text? with
    | some (some text) => Action.assign "OPTARG".toList text
    | some none =>
      modify fun state => { state with bindings := OrderedMap.erase "OPTARG".toList state.bindings }
    | none => pure ()
    Action.assign "OPTIND".toList (digitsOf 10 found.index)
    demandName name
    Action.assign name [found.letter]
    modify fun state =>
      { state with optionIndex := found.index, optionOffset? := found.offset?
                   status := if found.ended then 1 else 0 }
  | _ => Action.refuse "Usage: getopts optstring var [arg...]"

end Proctor.Machine.Shell
