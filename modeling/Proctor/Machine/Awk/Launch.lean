import Proctor.Machine.Awk.Run

/-! Starting programs that scan records, as the words of a command ask for. -/
namespace Proctor.Machine.Awk

open Shell (Action)

/-! ### Words -/

/-- What the words of a command ask for: variables with their values, the files that the program is
in, and the words after the options. -/
structure Request where
  settings : List (List Char × List Char)
  files : List (List Char)
  rest : List (List Char)

namespace Request

def add (request : Request) (letter : Char) (value : List Char) : Except String Request :=
  match letter with
  | 'F' => .ok { request with settings := request.settings ++ [("FS".toList, value)] }
  | 'f' => .ok { request with files := request.files ++ [value] }
  | 'v' =>
    match Running.assignment? value with
    | some setting => .ok { request with settings := request.settings ++ [setting] }
    | none => .error s!"improper assignment: -v {String.ofList value}"
  | _ => .ok request

def ofWords : List (List Char) → Request → Except String Request
  | ['-', '-'] :: rest, request => .ok { request with rest }
  | ('-' :: letter :: more) :: others, request =>
    if !("FfvW".toList.contains letter) then
      .error s!"not an option: -{String.ofList (letter :: more)}"
    else
      match more, others with
      | [], [] => .error s!"option -{letter} lacks argument"
      | [], value :: others =>
        match request.add letter value with
        | .ok request => ofWords others request
        | .error message => .error message
      | value, others =>
        match request.add letter value with
        | .ok request => ofWords others request
        | .error message => .error message
  | rest, request => .ok { request with rest }

end Request

/-! ### Start -/

def tableOf (first : Nat) (texts : List (List Char)) : Table Value :=
  (texts.zipIdx first).foldl (fun table (octets, i) =>
    (table.useInteger .none i).1.put (Table.textOf i) (.ofInput octets)) .empty

def tableOfPairs (pairs : List (List Char × List Char)) : Table Value :=
  pairs.foldl (fun table (name, octets) =>
    (table.useText .none name).1.put name (.ofInput octets)) .empty

def firstValues (words : Nat) : List Slot :=
  let text (octets : String) : Slot := .value (.text octets.toList)
  let number (n : Float) : Slot := .value (.number n)
  [number 0, number 0, number 0, text " ", text " ", text "\n", text "\n", text "\x1c", text "%.6g",
    text "%.6g", number 0, number (-1), text "", .array 0, number words.toFloat, .array 1]

def Scan.start (shell : Shell.State) (program : Program) (commands : Commands)
    (words : List (List Char)) : Scan where
  shell := shell
  program := program
  commands := commands
  label := s!"{String.ofList (words.headD [])}: "
  shared :=
    let first := firstValues words.length
    (first ++ List.replicate (program.names.length - first.length) (Slot.value .none)).toArray
  own := #[]
  tables := #[tableOfPairs shell.environment, tableOf 0 words]
  room := 0
  record := .text []
  fields := #[]
  divided := true
  joined := true
  separator := .blanks
  recordEnd := .char '\n'
  regexes := {}
  pending := []
  outlets := []
  files := []
  outputs := []
  input? := none
  taken := 0
  source := .next
  argument := 1
  named := false
  seed := 1
  held := []
  status := 0

def wholeInput : Action (Except Failure (List Char)) := do
  let state ← get
  match state.left 0 with
  | .error failure => return .error failure
  | .ok (chunks, ended?) =>
    let octets := chunks.flatMap (·.octets)
    let after := state.take 0 octets.length 0
    set { after with clock := max after.clock (ended?.getD 0) }
    return .ok octets

def programIn (files : List (List Char)) : Action (Except String (List Char)) := do
  let texts ← files.mapM fun path => do
    let found ← if Running.isInput path then wholeInput
      else do
        let state : Shell.State ← get
        pure (state.files.read path)
    return found.mapError fun failure => s!"cannot open \"{String.ofList path}\" ({failure.reason})"
  return texts.foldlM (fun before found => found.map fun octets => before ++ octets ++ ['\n']) []

def usage : List String :=
  ["Usage: mawk [Options] [Program] [file ...]",
    "",
    "Program:",
    "    The -f option value is the name of a file containing program text.",
    "    If no -f option is given, a \"--\" ends option processing; the following",
    "    parameters are the program text.",
    "",
    "Options:",
    "    -f program-file  Program  text is read from file instead of from the",
    "                     command-line.  Multiple -f options are accepted.",
    "    -F value         sets the field separator, FS, to value.",
    "    -v var=value     assigns value to program variable var.",
    "    --               unambiguous end of options.",
    "",
    "    Implementation-specific options are prefixed with \"-W\".  They can be",
    "    abbreviated:",
    "",
    "    -W version       show version information and exit.",
    "    -W compat        pre-POSIX 2001.",
    "    -W dump          show assembler-like listing of program and exit.",
    "    -W help          show this message and exit.",
    "    -W interactive   set unbuffered output, line-buffered input.",
    "    -W exec file     use file as program as well as last option.",
    "    -W posix         stricter POSIX checking.",
    "    -W random=number set initial random seed.",
    "    -W sprintf=number adjust size of sprintf buffer.",
    "    -W usage         show this message and exit."]

def refuse (message : String) : Action Unit :=
  modify fun state => { state.tell 2 s!"{message}\n" with status := 2 }

def launch (commands : Commands) (name : List Char) (args : List (List Char)) : Action Unit := do
  let label := s!"{String.ofList name}: "
  match Request.ofWords args ⟨[], [], []⟩ with
  | .error message => refuse s!"{label}{message}"
  | .ok request =>
    if request.files = [] && request.rest = [] then
      let text := if args = [] then "\n".intercalate usage ++ "\n" else ""
      modify fun state => { state.tell 2 text with status := 0 }
      return
    let (text, rest) : Except String (List Char) × List (List Char) ← match request.files, request.rest with
      | [], text :: rest => pure (.ok text, rest)
      | files, rest => do pure (← programIn files, rest)
    match text with
    | .error message => refuse s!"{label}{message}"
    | .ok text =>
      match Reader.program text with
      | .error faults =>
        let place := match request.files.getLast? with
          | some path => s!"{label}{String.ofList path}: "
          | none => label
        let lines := faults.map fun fault =>
          if fault.bare then s!"{place}{fault.message}"
          else s!"{place}line {fault.line}: {fault.message}"
        refuse ("\n".intercalate lines)
      | .ok program =>
        let start := Scan.start (← get) program commands (name :: rest)
        let action : Running Unit := do
          request.settings.forM fun (name, value) => Running.assignOutside name value
          Running.runProgram
        let (result, scan) := action.run.run start
        set { scan.shell with status := scan.status }
        match result with
        | .error (.flow flow) => throw flow
        | _ => return

end Proctor.Machine.Awk
