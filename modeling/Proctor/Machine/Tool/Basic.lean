import Proctor.Duration
import Proctor.Machine.Files
import Proctor.Machine.Tool.Quoting
import Proctor.Number.Decimal

/-! What the small programs of the machine are given, and what they do. -/
namespace Proctor.Machine

structure Call where
  label : String
  name : String
  args : List (List Char)
  /-- What can be read from a stream with a number, if it is open. -/
  input? : Nat → Option (Except Failure (List Char))
  /-- To what a stream with a number is connected, if it is open. -/
  stream? : Nat → Option Node
  files : Files
  environment : List (List Char × List Char)
  mask : Nat
  /-- How many octets are written by a tool that never ends, and read of what has no end. -/
  flood : Nat

/-- How much of its input a tool takes. -/
inductive Taken where
  | nothing
  | some (count block : Nat)
  | all
deriving DecidableEq, Repr

/-- What a tool has done so far. -/
structure Work where
  call : Call
  written : List (Nat × List Char)
  status : Nat
  files : Files
  time : Nanoseconds
  taken : Taken
  endless : Bool
  starved : Bool

/-- What a tool does; it may stop early. -/
abbrev Tool (α : Type) := ExceptT Unit (StateM Work) α

namespace Tool

def stop {α : Type} : Tool α := throw ()

def call : Tool Call := return (← get).call

def args : Tool (List (List Char)) := return (← call).args

def print (octets : List Char) : Tool Unit :=
  if octets.isEmpty then return
  else modify fun work => { work with written := (1, octets) :: work.written }

def printLine (octets : List Char) : Tool Unit := print (octets ++ ['\n'])

def warn (text : String) : Tool Unit :=
  modify fun work => { work with written := (2, text.toList) :: work.written }

def fail (status : Nat) : Tool Unit :=
  modify fun work => { work with status := max work.status status }

def complain (message : String) (status : Nat) : Tool Unit := do
  warn s!"{(← call).label}{message}\n"
  fail status

def refuse {α : Type} (message : String) (status : Nat) : Tool α := do
  complain message status
  stop

def usages : List (String × String) :=
  [("grep", "Usage: grep [OPTION]... PATTERNS [FILE]...\n")]

def hint {α : Type} (status : Nat) : Tool α := do
  let name := (← call).name
  match usages.lookup name with
  | some text => warn text
  | none => pure ()
  let label := if ["cmp", "diff"].contains name then s!"{name}: " else ""
  warn s!"{label}Try '{name} --help' for more information.\n"
  fail status
  stop

def misused {α : Type} (message : String) (status : Nat) : Tool α := do
  complain message status
  hint status

def change (act : Files → Except Failure Files) : Tool (Option Failure) := do
  let work ← get
  match act work.files with
  | .ok files =>
    set { work with files }
    return none
  | .error failure => return some failure

def files : Tool Files := return (← get).files

/-- What a stream holds. Nothing is left in the input after it was taken. -/
def inputOf (stream : Nat) : Tool (Except Failure (List Char)) := do
  let work ← get
  if stream = 0 then
    set { work with taken := .all }
    if work.taken = .all && (work.call.input? 0).any (·.isOk) then return .ok []
  return (work.call.input? stream).getD (.error .notOpen)

def takes (count block : Nat) : Tool Unit :=
  modify fun work => { work with taken := .some count block }

def streamOf? (path : List Char) : Option Nat :=
  match String.ofList path with
  | "/dev/stdin" => some 0
  | "/dev/stdout" => some 1
  | "/dev/stderr" => some 2
  | _ =>
    let starts := ["/dev/fd/".toList, "/proc/self/fd/".toList]
    (starts.find? fun start => start.isPrefixOf path).bind fun start =>
      let digits := path.drop start.length
      if digits ≠ [] && digits.all isDecimalDigit then some (ofDigits 10 digits) else none

/-- What a path leads to: a stream, or what is among the files, where a link at the end is followed if
`follow` holds. -/
def nodeAt (call : Call) (files : Files) (follow : Bool) (path : List Char) : Except Failure Node :=
  match streamOf? path with
  | some stream =>
    match call.stream? stream with
    | some node => .ok node
    | none => .error .missing
  | none => files.lookUp follow path

/-- Whether a name, of which a dash is the input, leads to zeros without end. -/
def isEndless (name : List Char) : Tool Bool := do
  let path := if name = ['-'] then "/dev/stdin".toList else name
  match nodeAt (← call) (← files) true path with
  | .ok node => return node.content = .zeros || node.content = .full
  | .error _ => return false

def read (path : List Char) : Tool (Except Failure (List Char)) := do
  match streamOf? path with
  | some stream => inputOf stream
  | none =>
    if ← isEndless path then
      modify fun work => { work with endless := true }
      return .ok (List.replicate (← call).flood '\x00')
    return (← files).read path

def readNamed (name : List Char) : Tool (Except Failure (List Char)) :=
  if name = ['-'] then inputOf 0 else read name

/-- What is under a name; if a number is given, no more octets than that are needed. -/
def readSome (most? : Option Nat) (name : List Char) : Tool (Except Failure (List Char)) := do
  match most? with
  | some most => if ← isEndless name then return .ok (List.replicate most '\x00') else readNamed name
  | none => readNamed name

/-- Writes octets under a path, which may name a stream, in the place of what is there or after it. -/
def store (path octets : List Char) (after : Bool) : Tool (Option Failure) := do
  match streamOf? path with
  | some stream =>
    modify fun work => { work with written := (stream, octets) :: work.written }
    return none
  | none =>
    let mode := 0o666 &&& (0o777 ^^^ (← call).mask)
    change fun files => do
      if path.getLast? = some '/' && !files.exists? path then throw .isDirectory
      let old ← match files.find path with
        | .ok node => Files.octetsOf node.content
        | .error .missing => pure []
        | .error failure => throw failure
      files.store (← files.resolve path) (if after then old ++ octets else octets) mode

/-- What named files hold, or the input if none are named, with their names; of each no more than some
octets are needed if a number is given. A file that cannot be read is passed over with a complaint. -/
def someSources (most? : Option Nat) (names : List (List Char))
    (describe : List Char → Failure → String) (status : Nat) :
    Tool (List (List Char × List Char)) := do
  let names := if names.isEmpty then [['-']] else names
  names.filterMapM fun name => do
    match ← readSome most? name with
    | .ok octets => return some (name, octets)
    | .error failure =>
      complain (describe name failure) status
      return none

/-- What named files hold, or the input if none are named, with their names. -/
def sources (names : List (List Char)) (describe : List Char → Failure → String) (status : Nat) :
    Tool (List (List Char × List Char)) :=
  someSources none names describe status

def plainly (name : List Char) (failure : Failure) : String :=
  s!"{Quoting.ifNeeded name}: {failure.reason}"

/-! ### Arguments -/

/-- The options of a tool: letters, and the texts for those that take one. -/
abbrev Options := List (Char × List Char)

/-- The letters and values in an argument after its dash, and whether the last letter still needs a
value; an unknown letter if there is one. -/
def lettersOf (plain valued : List Char) : List Char → Except Char (Options × Option Char)
  | [] => .ok ([], none)
  | c :: rest =>
    if valued.contains c then
      if !rest.isEmpty || plain.contains c then .ok ([(c, rest)], none) else .ok ([], some c)
    else if plain.contains c then
      match lettersOf plain valued rest with
      | .ok (found, missing?) => .ok ((c, []) :: found, missing?)
      | .error c => .error c
    else .error c

def longValue (text : List Char) : List Char × Option (List Char) :=
  match Text.cutFirst? '=' text with
  | some (name, value) => (name, some value)
  | none => (text, none)

def longMatches (long : List (String × Char)) (name : List Char) : List (String × Char) :=
  match long.filter fun (full, _) => full.toList = name with
  | [] => long.filter fun (full, _) => name.isPrefixOf full.toList
  | exact => exact

/-- The options among arguments, and the other arguments. An option whose letter is both plain and
valued has a text only if it is written with it. Options may stand anywhere before two dashes unless `first`
holds; then they come first. -/
def optionsFrom (plain valued : List Char) (long : List (String × Char)) (first : Bool)
    (status : Nat) : List (List Char) → Tool (Options × List (List Char))
  | [] => return ([], [])
  | ['-', '-'] :: rest => return ([], rest)
  | ('-' :: '-' :: text) :: rest => do
    let (name, value?) := longValue text
    match longMatches long name with
    | [] => misused s!"unrecognized option '--{String.ofList text}'" status
    | (full, letter) :: others =>
      if others.any fun (_, other) => other ≠ letter then
        let possible := ((full, letter) :: others).map fun (full, _) => s!" '--{full}'"
        misused s!"option '--{String.ofList name}' is ambiguous; possibilities:{String.join possible}"
          status
      if valued.contains letter && !(plain.contains letter && value?.isNone) then
        match value?, rest with
        | some value, rest =>
          let (options, names) ← optionsFrom plain valued long first status rest
          return ((letter, value) :: options, names)
        | none, value :: rest =>
          let (options, names) ← optionsFrom plain valued long first status rest
          return ((letter, value) :: options, names)
        | none, [] => misused s!"option '--{full}' requires an argument" status
      else
        if value?.isSome then misused s!"option '--{full}' doesn't allow an argument" status
        let (options, names) ← optionsFrom plain valued long first status rest
        return ((letter, []) :: options, names)
  | ('-' :: c :: more) :: rest => do
    match lettersOf plain valued (c :: more), rest with
    | .error c, _ => misused s!"invalid option -- '{c}'" status
    | .ok (found, none), rest =>
      let (options, names) ← optionsFrom plain valued long first status rest
      return (found ++ options, names)
    | .ok (found, some letter), value :: rest =>
      let (options, names) ← optionsFrom plain valued long first status rest
      return (found ++ (letter, value) :: options, names)
    | .ok (_, some letter), [] => misused s!"option requires an argument -- '{letter}'" status
  | name :: rest => do
    if first then return ([], name :: rest)
    let (options, names) ← optionsFrom plain valued long first status rest
    return (options, name :: names)

/-- The options of the tool and its other arguments. Options with letters in `valued` take a text; long
ones stand for letters. -/
def options (plain valued : String) (long : List (String × Char)) (status : Nat) :
    Tool (Options × List (List Char)) := do
  let first := (← call).environment.any fun (name, _) => name = "POSIXLY_CORRECT".toList
  optionsFrom plain.toList valued.toList long first status (← args)

namespace Options

def has (options : Options) (letter : Char) : Bool := options.any (·.1 == letter)

def last? (options : Options) (letter : Char) : Option (List Char) :=
  (options.filter (·.1 == letter)).getLast?.map (·.2)

def lastOf? (options : Options) (letters : String) : Option Char :=
  (options.filter fun (c, _) => letters.toList.contains c).getLast?.map (·.1)

end Options

/-! ### Numbers -/

def number? (digits : List Char) : Option Nat :=
  if digits ≠ [] && digits.all isDecimalDigit then some (ofDigits 10 digits) else none

def integer? : List Char → Option Int
  | '-' :: digits => (number? digits).map fun n => -(n : Int)
  | '+' :: digits => (number? digits).map fun n => (n : Int)
  | digits => (number? digits).map fun n => (n : Int)

def units : List (String × Nat) :=
  [("", 1), ("b", 512), ("kB", 1000), ("k", 1024), ("K", 1024), ("KiB", 1024), ("MB", 1000000),
    ("M", 1048576), ("m", 1048576), ("MiB", 1048576), ("GB", 1000000000), ("G", 1073741824),
    ("GiB", 1073741824)]

def sized? (text : List Char) : Option Nat :=
  let digits := text.takeWhile isDecimalDigit
  match units.lookup (String.ofList (text.drop digits.length)) with
  | some unit => if digits = [] then none else some (ofDigits 10 digits * unit)
  | none => none

def rightAligned (width : Nat) (text : List Char) : List Char :=
  List.replicate (width - text.length) ' ' ++ text

def leftAligned (width : Nat) (text : List Char) : List Char :=
  text ++ List.replicate (width - text.length) ' '

/-- The lines of octets with the newline that ends each, if one does. -/
def wholeLines (octets : List Char) : List (List Char) :=
  let lines := Octets.lines octets
  if octets.getLast? = some '\n' then lines.map (· ++ ['\n'])
  else lines.dropLast.map (· ++ ['\n']) ++ lines.getLast?.toList

def spaced (args : List (List Char)) : List Char := [' '].intercalate args

end Tool
end Proctor.Machine
