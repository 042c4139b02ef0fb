import Proctor.Machine.Awk.Scan

/-! Where the records of a program come from, and where its output goes. -/
namespace Proctor.Machine.Awk.Running

open Shell (Action)

/-! ### Records -/

/-- The next record of an intake; at an end that never comes the program waits. -/
def nextOf (intake : Intake) : Running (Option (List Char × Intake)) := do
  let found? := intake.next? (← get).recordEnd
  let atEnd := match found? with
    | some (_, after) => after.text.size ≤ after.place
    | none => true
  if atEnd && intake.endless then wait
  return found?

def inputIntake : Running Intake := do
  let scan : Scan ← get
  match scan.input? with
  | some intake => return intake
  | none =>
    match scan.shell.left 0 with
    | .ok (chunks, ended?) =>
      let intake := ⟨(chunks.flatMap (·.octets)).toArray, 0, ended?.isNone⟩
      set { scan with input? := some intake }
      return intake
    | .error failure => fail s!"read error ({failure.reason})"

def finishInput : Running Unit := do
  let scan : Scan ← get
  match scan.shell.left 0 with
  | .ok (_, some ended) =>
    let clock := max scan.shell.clock ended
    set { scan with shell := { scan.shell with clock } }
    act Action.receiveSent
  | _ => return

def inputBlock : Nat := 262144

/-- How many octets are there at once if a process writes without end. -/
def flowSize : Nat := 65536

/-- Takes the input up to a place from the process, in whole blocks. The clock goes on to when they are
there. -/
def takeInput (place : Nat) : Running Unit := do
  let scan : Scan ← get
  let intake ← inputIntake
  if place ≤ scan.taken && place < intake.text.size then return
  let blocks := (place + inputBlock - 1) / inputBlock * inputBlock
  let taken := min intake.text.size blocks
  modify fun scan => { scan with shell := scan.shell.take 0 (taken - scan.taken) 0, taken }
  if intake.text.size < blocks then
    if !intake.endless then finishInput else if intake.text.size ≤ flowSize then wait
  act Action.receiveSent

def nextOfInput : Running (Option (List Char)) := do
  let intake ← inputIntake
  takeInput (intake.place + 1)
  match ← nextOf intake with
  | some (octets, after) =>
    modify fun scan => { scan with input? := some after }
    takeInput after.place
    return some octets
  | none => return none

def openIntake (path : List Char) : Running (Except Failure Intake) := do
  let scan : Scan ← get
  match scan.shell.files.find path with
  | .error failure => return .error failure
  | .ok node =>
    match node.content with
    | .directory => fail s!"read error ({Failure.isDirectory.reason})"
    | .zeros => return .ok ⟨Array.replicate scan.shell.flood '\x00', 0, true⟩
    | .full => return .ok ⟨Array.replicate scan.shell.flood '\x00', 0, true⟩
    | content => return (Files.octetsOf content).map fun octets => ⟨octets.toArray, 0, false⟩

def isInput (name : List Char) : Bool := name = ['-'] || Tool.streamOf? name = some 0

def assignment? (text : List Char) : Option (List Char × List Char) := do
  let (name, value) ← Text.cutFirst? '=' text
  if Shell.isName name then some (name, value) else none

def assignOutside (name value : List Char) : Running Unit := do
  match (← get).program.names.idxOf? name with
  | some n => setShared n (.ofInput (Token.unescaped (value.length + 1) value))
  | none => return

def startSource (name : List Char) : Running Unit := do
  putShared Variable.fileName (.text name)
  putShared Variable.fileRecordCount (.number 0)
  modify fun scan => { scan with named := true }
  if isInput name then modify fun scan => { scan with source := .input }
  else
    match ← openIntake name with
    | .ok intake => modify fun scan => { scan with source := .file intake }
    | .error failure => fail s!"cannot open \"{String.ofList name}\" ({failure.reason})"

/-- Goes on to the next argument that names a source of records; the input is one if none is named. -/
def nextSource : Nat → Running Unit
  | 0 => modify fun scan => { scan with source := .over }
  | bound + 1 => do
    let scan : Scan ← get
    let count := (truncated (← sharedValue Variable.argumentCount).toNumber).toNat
    if count ≤ scan.argument then
      if scan.named then modify fun scan => { scan with source := .over } else startSource ['-']
    else
      let n ← array (.shared Variable.arguments)
      let key := Table.textOf scan.argument
      modify fun scan => { scan with argument := scan.argument + 1 }
      let table := (← get).tables.getD n .empty
      match table.values[key]? with
      | none => nextSource bound
      | some value =>
        let word ← textOf value
        match assignment? word with
        | some (name, value) =>
          assignOutside name value
          nextSource bound
        | none => if word = [] then nextSource bound else startSource word

def countRecord (n : Nat) : Running Unit := do
  let count := (← sharedValue n).toNumber
  putShared n (.number (count + 1))

/-- The next record of all sources, which is counted. The number bounds the sources. -/
def nextRecord : Nat → Running (Option (List Char))
  | 0 => return none
  | bound + 1 => do
    let found? : Option (List Char) ← match (← get).source with
      | .over => return none
      | .next =>
        nextSource 100000
        return ← nextRecord bound
      | .input => do nextOfInput
      | .file intake => do
        match ← nextOf intake with
        | some (octets, after) =>
          modify fun scan => { scan with source := .file after }
          pure (some octets)
        | none => pure none
    match found? with
    | some octets =>
      countRecord Variable.recordCount
      countRecord Variable.fileRecordCount
      return some octets
    | none =>
      modify fun scan => { scan with source := .next }
      nextRecord bound

def nextMain : Running (Option (List Char)) := nextRecord 200000

/-! ### Output -/

def print (octets : List Char) : Running Unit :=
  modify fun scan => { scan with pending := octets :: scan.pending }

/-- The status of a command as the program gets it, of a command that reads what waits for it. -/
def closeOutlet (outlet : Outlet) : Running Int := do
  let octets := outlet.pending.reverse.flatten
  if outlet.command then
    let commands := (← get).commands
    return (← act (commands.feed outlet.name octets))
  else
    let scan : Scan ← get
    match scan.shell.write outlet.stream octets with
    | .ok shell =>
      set { scan with shell := shell.connect outlet.stream none }
      return 0
    | .error failure =>
      fail s!"close failed on file \"{String.ofList outlet.name}\" ({failure.reason})"

def flushFiles : Running Unit := do
  let scan : Scan ← get
  let outlets ← scan.outlets.mapM fun outlet => do
    if outlet.command || outlet.pending.isEmpty then return outlet
    let scan : Scan ← get
    match scan.shell.write outlet.stream outlet.pending.reverse.flatten with
    | .ok shell =>
      set { scan with shell }
      return { outlet with pending := [] }
    | .error _ => return outlet
  modify fun scan => { scan with outlets }

def flushAll : Running Unit := do
  flush
  flushFiles

def firstStream : Nat := 1000

def openOutlet (way : Way) (name : List Char) : Running Unit := do
  match way with
  | .command =>
    flush
    let outlet : Outlet := ⟨name, true, 0, []⟩
    modify fun scan => { scan with outlets := scan.outlets ++ [outlet] }
  | way =>
    let scan : Scan ← get
    match scan.shell.openToWrite name (way = .file) with
    | .error failure =>
      fail s!"cannot open \"{String.ofList name}\" for output ({failure.reason})"
    | .ok (place, shell) =>
      let stream := firstStream + scan.outlets.length
      let (number, shell) := shell.addDescription ⟨.file place 0 (way = .after), false, true⟩
      let shell := shell.connect stream (some number)
      let outlet : Outlet := ⟨name, false, stream, []⟩
      set { scan with shell, outlets := scan.outlets ++ [outlet] }

def printTo (way : Way) (name octets : List Char) : Running Unit := do
  let stream? := if way = .command then none else Tool.streamOf? name
  match stream? with
  | some 1 => print octets
  | some 2 => warn (String.ofList octets)
  | some stream =>
    let scan : Scan ← get
    match scan.shell.write stream octets with
    | .ok shell => set { scan with shell }
    | .error failure =>
      fail s!"cannot open \"{String.ofList name}\" for output ({failure.reason})"
  | none =>
    let command : Bool := way = .command
    let isHere (outlet : Outlet) : Bool := outlet.name = name && outlet.command = command
    let outlets := (← get).outlets
    if !outlets.any isHere then openOutlet way name
    let add (outlet : Outlet) : Outlet :=
      if isHere outlet then { outlet with pending := octets :: outlet.pending } else outlet
    modify fun scan => { scan with outlets := scan.outlets.map add }

/-- Closes all that has a name: the last status, or minus one if there is nothing. -/
def close (name : List Char) : Running Int := do
  let scan : Scan ← get
  let outlets := scan.outlets.filter (·.name = name)
  let read? := scan.outputs.lookup name
  let filed := (scan.files.lookup name).isSome
  set { scan with
    outlets := scan.outlets.filter (·.name ≠ name)
    files := scan.files.filter (·.1 ≠ name)
    outputs := scan.outputs.filter (·.1 ≠ name) }
  let status ← outlets.foldlM (fun _ outlet => closeOutlet outlet) (-1)
  match read? with
  | some (_, status) => return status
  | none => return if filed then 0 else status

/-- Closes all outlets, of commands those that were opened last first, and then the output. -/
def finish : Running Unit := do
  let outlets := (← get).outlets
  modify fun scan => { scan with outlets := [] }
  (outlets.filter (!·.command)).forM fun outlet => do let _ ← closeOutlet outlet
  (outlets.filter (·.command)).reverse.forM fun outlet => do let _ ← closeOutlet outlet
  flush

end Proctor.Machine.Awk.Running
