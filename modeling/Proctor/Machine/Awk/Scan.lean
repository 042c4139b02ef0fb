import Proctor.Machine.Awk.Intake
import Proctor.Machine.Awk.Reader
import Proctor.Machine.Awk.Table
import Proctor.Machine.Shell.Stream

/-! What a program that scans records knows while it runs: its variables and arrays, the record with its
fields, and what it reads and writes. -/
namespace Proctor.Machine.Awk

open Shell (Action Flow)

/-! ### State -/

/-- How commands of a shell are run. -/
structure Commands where
  run : List Char → Action Nat
  feed : List Char → List Char → Action Nat
  output : List Char → Action (List Char × Nat × Bool)

/-- What stands under a name: a value, or an array by its number. -/
inductive Slot where
  | value (value : Value)
  | array (n : Nat)
deriving Repr, Inhabited

inductive Source where
  | next
  | input
  | file (intake : Intake)
  | over

/-- A file or a command that is written to, its stream if it is a file, and what waits to be written, the
last first. -/
structure Outlet where
  name : List Char
  command : Bool
  stream : Nat
  pending : List (List Char)

structure Scan where
  shell : Shell.State
  program : Program
  commands : Commands
  label : String
  /-- The variables that all parts share, and those of the function that runs. -/
  shared : Array Slot
  own : Array Slot
  tables : Array (Table Value)
  room : Nat
  record : Value
  fields : Array Value
  /-- Whether the fields are those of the record, and whether the record is that of the fields. -/
  divided : Bool
  joined : Bool
  separator : Separator
  recordEnd : RecordEnd
  regexes : Std.HashMap (List Char) Regex
  /-- What waits to be written to the output, the last first. -/
  pending : List (List Char)
  outlets : List Outlet
  files : List (List Char × Intake)
  outputs : List (List Char × Intake × Nat)
  /-- The input once it was read from, and how many octets of it were taken from the process. -/
  input? : Option Intake
  taken : Nat
  source : Source
  argument : Nat
  named : Bool
  seed : Nat
  /-- The numbers of the rules that hold up to a last record which did not come yet. -/
  held : List Nat
  status : Nat

inductive Halt where
  | exit
  | fault
  | flow (flow : Flow)

abbrev Running (α : Type) := ExceptT Halt (StateM Scan) α

namespace Running

/-! ### The process -/

def act {α : Type} (action : Action α) : Running α := fun scan =>
  let (result, shell) := action.run scan.shell
  match result with
  | .ok value => (.ok value, { scan with shell })
  | .error flow => (.error (.flow flow), { scan with shell })

def warn (text : String) : Running Unit :=
  modify fun scan => { scan with shell := scan.shell.tell 2 text }

def fail {α : Type} (message : String) : Running α := do
  warn s!"{(← get).label}{message}\n"
  modify fun scan => { scan with status := 2 }
  throw .fault

def outputBlock : Nat := 4096

def flush : Running Unit := do
  let scan : Scan ← get
  if scan.pending.isEmpty then return
  let octets := scan.pending.reverse.flatten
  set { scan with pending := [] }
  match ← act (Action.write 1 octets) with
  | none => return
  | some failure =>
    if outputBlock < octets.length then warn s!"{scan.label}write failure ({failure.reason})\n"
    fail s!"close failed on file \"/dev/stdout\" ({failure.reason})"

/-- Waits for what never comes, or for a signal. Whole blocks of the output were written before. -/
def wait {α : Type} : Running α := do
  let size := (← get).pending.foldl (fun sum octets => sum + octets.length) 0
  if outputBlock ≤ size then flush
  let scan : Scan ← get
  (Action.unnoticed scan.shell).forM fun sent => do
    let scan : Scan ← get
    let clock := max scan.shell.clock sent.time
    set { scan with shell := { scan.shell with clock } }
    act Action.receiveSent
  throw (.flow .endless)

/-! ### Variables -/

def sharedValue (n : Nat) : Running Value := do
  match (← get).shared.getD n (.value .none) with
  | .value value => return value
  | .array _ => return .none

def putShared (n : Nat) (value : Value) : Running Unit :=
  modify fun scan => { scan with shared := scan.shared.setIfInBounds n (.value value) }

def textOf (value : Value) : Running (List Char) := do
  match value with
  | .none => return []
  | .text octets => return octets
  | .both octets _ => return octets
  | .number x =>
    match integerText? x with
    | some digits => return digits
    | none =>
      match ← sharedValue Variable.conversionFormat with
      | .text format => return numberText format x
      | format => return numberText (format.toText []) x

def sharedText (n : Nat) : Running (List Char) := do textOf (← sharedValue n)

def misuse {α : Type} (message : String) : Running α := do
  let name ← sharedText Variable.fileName
  let inFile ← sharedText Variable.fileRecordCount
  let all ← sharedText Variable.recordCount
  let place := s!"FILENAME=\"{String.ofList name}\" FNR={String.ofList inFile} NR={String.ofList all}"
  fail s!"run time error: {message}\n\t{place}"

def regexFor (text : List Char) : Running Regex := do
  match (← get).regexes[text]? with
  | some regex => return regex
  | none =>
    match regexOf text with
    | .ok regex =>
      modify fun scan => { scan with regexes := scan.regexes.insert text regex }
      return regex
    | .error message => misuse message

/-! ### Fields -/

def divide : Running Unit := do
  let scan : Scan ← get
  if scan.divided then return
  let octets ← textOf scan.record
  let lines := scan.recordEnd matches .paragraph
  let fields := ((scan.separator.divide lines octets).map Value.ofInput).toArray
  set { scan with
    fields, divided := true
    shared := scan.shared.setIfInBounds Variable.fieldCount (.value (.number fields.size.toFloat)) }

/-- The record. It is put together from the fields if those were changed. -/
def record : Running Value := do
  let scan : Scan ← get
  if scan.joined then return scan.record
  let between ← sharedText Variable.outputFieldSeparator
  let parts ← scan.fields.toList.mapM textOf
  let record := Value.ofInput (between.intercalate parts)
  set { scan with record, joined := true }
  return record

def field (i : Nat) : Running Value := do
  if i = 0 then record
  else
    divide
    return (← get).fields.getD (i - 1) (.text [])

def setRecord (octets : List Char) : Running Unit :=
  modify fun scan => { scan with record := .ofInput octets, divided := false, joined := true }

def setFieldCount (count : Nat) : Running Unit := do
  divide
  let scan : Scan ← get
  let fields := scan.fields.extract 0 count ++ Array.replicate (count - scan.fields.size) (.text [])
  set { scan with
    fields, joined := false
    shared := scan.shared.setIfInBounds Variable.fieldCount (.value (.number count.toFloat)) }

def setField (i : Nat) (value : Value) : Running Unit := do
  if i = 0 then setRecord (← textOf value)
  else
    divide
    if (← get).fields.size < i then setFieldCount i
    modify fun scan => { scan with
      fields := scan.fields.setIfInBounds (i - 1) value, joined := false }

/-! ### Slots -/

def recordEndOf (text : List Char) : Running RecordEnd := do
  match text with
  | [] => return .paragraph
  | [c] => return .char c
  | text => return .regex (← regexFor text)

def setShared (n : Nat) (value : Value) : Running Unit := do
  if n = Variable.fieldCount then
    let count := truncated value.toNumber
    if count < 0 then misuse "negative value assigned to NF"
    setFieldCount count.toNat
  else if n = Variable.fieldSeparator then
    divide
    match Separator.ofText (← textOf value) with
    | .ok separator => modify fun scan => { scan with separator }
    | .error message => misuse message
    putShared n value
  else if n = Variable.recordSeparator then
    let recordEnd ← recordEndOf (← textOf value)
    modify fun scan => { scan with recordEnd }
    putShared n value
  else putShared n value

def setVariable (v : Variable) (value : Value) : Running Unit :=
  match v with
  | .shared n => setShared n value
  | .own n => modify fun scan => { scan with own := scan.own.setIfInBounds n (.value value) }

def slot (v : Variable) : Running Slot := do
  match v with
  | .shared n =>
    if n = Variable.fieldCount then divide
    return (← get).shared.getD n (.value .none)
  | .own n => return (← get).own.getD n (.value .none)

def valueOf (v : Variable) : Running Value := do
  match ← slot v with
  | .value value => return value
  | .array _ => return .none

def newArray (v : Variable) : Running Nat := do
  let n := (← get).tables.size
  modify fun scan => { scan with tables := scan.tables.push .empty }
  match v with
  | .shared i => modify fun scan => { scan with shared := scan.shared.setIfInBounds i (.array n) }
  | .own i => modify fun scan => { scan with own := scan.own.setIfInBounds i (.array n) }
  return n

def array (v : Variable) : Running Nat := do
  match ← slot v with
  | .array n => return n
  | .value _ => newArray v

/-! ### Arrays -/

/-- What an element of an array is found by. -/
inductive Key where
  | text (octets : List Char)
  | integer (n : Int)

def Key.octets : Key → List Char
  | text octets => octets
  | integer n => Table.textOf n

def keyOf (values : List Value) : Running Key := do
  match values with
  | [.number x] =>
    match integer? x with
    | some n => return .integer n
    | none => return .text (← textOf (.number x))
  | [value] => return .text (← textOf value)
  | values =>
    let between ← sharedText Variable.keySeparator
    return .text (between.intercalate (← values.mapM textOf))

def withArray {α : Type} (n : Nat) (act : Table Value → Table Value × α) : Running α :=
  modifyGet fun scan =>
    let table := scan.tables.getD n .empty
    let tables := scan.tables.setIfInBounds n ⟨#[], #[], false, {}⟩
    let (table, found) := act table
    (found, { scan with tables := tables.setIfInBounds n table })

def element (n : Nat) (key : Key) : Running Value :=
  withArray n fun table =>
    match key with
    | .text octets => table.useText .none octets
    | .integer i => table.useInteger .none i

def setElement (n : Nat) (key : Key) (value : Value) : Running Unit :=
  withArray n fun table => (table.put key.octets value, ())

end Running
end Proctor.Machine.Awk
