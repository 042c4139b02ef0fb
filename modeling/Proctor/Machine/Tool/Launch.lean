import Proctor.Machine.Tool.Basic
import Proctor.Machine.Tool.Quantity

/-! The tools that start other programs: what they make of their arguments, up to the words of the
programs and how those are to run. -/
namespace Proctor.Machine

/-- How long a program may run, and what happens then. -/
structure Limit where
  time : Nanoseconds
  signal : Nat
  killed? : Option Nanoseconds
  preserved : Bool
  announced : Bool
deriving DecidableEq, Repr

structure Launch where
  words : List (List Char)
  environment : List (List Char × List Char)
  /-- The directory in which it runs, if that is another one. -/
  directory? : Option Place
  limit? : Option Limit
  complaint : Failure → String

/-- Programs that are to run one after another, with the words that are shown before each if `shown`
holds. -/
structure Batch where
  lists : List (List (List Char))
  shown : Bool

namespace Tool

/-! ### Time -/

/-- The nanoseconds of a span of time such as `0.5` or `2m`. -/
def interval? (text : List Char) : Option Nanoseconds := do
  let (quantity, unit) ← Quantity.read? text
  let seconds ← match unit with
    | [] => some 1
    | ['s'] => some 1
    | ['m'] => some 60
    | ['h'] => some 3600
    | ['d'] => some 86400
    | _ => none
  match quantity with
  | .finite false num den =>
    some ((num * seconds * Nanoseconds.perSecond + den - 1) / den)
  | .finite true 0 _ => some 0
  | .infinite false => some (1000000000000 * Nanoseconds.perSecond)
  | _ => none

/-! ### Settings -/

def setting? (word : List Char) : Option (List Char × List Char) := Text.cutFirst? '=' word

def dividedWords (text : List Char) : List (List Char) :=
  let (words, current?, _) := text.foldl (fun (words, current?, quote?) c =>
    match quote? with
    | some quote =>
      if c = quote then (words, some (current?.getD []), none)
      else (words, some (c :: current?.getD []), some quote)
    | none =>
      if c = ' ' || c = '\t' || c = '\n' then (current?.toList ++ words, none, none)
      else if c = '\'' || c = '"' then (words, some (current?.getD []), some c)
      else (words, some (c :: current?.getD []), none))
    (([] : List (List Char)), (none : Option (List Char)), (none : Option Char))
  ((current?.toList ++ words).reverse).map List.reverse

def env : Tool (Option Launch) := do
  let call ← call
  let (options, rest) ← optionsFrom "i0v".toList "uCS".toList
    [("ignore-environment", 'i'), ("null", '0'), ("unset", 'u'), ("chdir", 'C'),
      ("split-string", 'S'), ("debug", 'v')] true 125 call.args
  let rest := ((options.filter (·.1 == 'S')).flatMap fun (_, text) => dividedWords text) ++ rest
  let (dash, rest) := match rest with
    | ['-'] :: rest => (true, rest)
    | rest => (false, rest)
  let start := if dash || options.has 'i' then [] else call.environment
  let start := options.foldl (fun entries (letter, name) =>
    if letter = 'u' then OrderedMap.erase name entries else entries) start
  let settings := rest.takeWhile fun word => (setting? word).isSome
  let environment := (settings.filterMap setting?).foldl
    (fun entries (name, value) => OrderedMap.put name value entries) start
  let words := rest.drop settings.length
  let zero := options.has '0'
  match words with
  | [] =>
    let ending := if zero then '\x00' else '\n'
    print (environment.flatMap fun (name, value) => name ++ '=' :: value ++ [ending])
    return none
  | name :: _ =>
    if zero then misused "cannot specify --null (-0) with command" 125
    let directory? ← match options.last? 'C' with
      | none => pure none
      | some path =>
        match (do
          let place ← call.files.resolve path
          match call.files.content? place with
          | some .directory => return place
          | some _ => throw .notDirectory
          | none => throw .missing : Except Failure Place) with
        | .ok place => pure (some place)
        | .error failure =>
          refuse s!"cannot change directory to {Quoting.always path}: {failure.reason}" 125
    let hint := if name.contains ' ' then
        s!"\n{call.label}use -[v]S to pass options in shebang lines" else ""
    return some ⟨words, environment, directory?, none, fun failure =>
      s!"{Quoting.text name}: {failure.reason}{hint}"⟩

def notRun (name : List Char) (failure : Failure) : String :=
  s!"failed to run command {Quoting.text name}: {failure.reason}"

/-- Runs a program as it would run anyway; options with letters in `valued` are skipped. -/
def plainLaunch (plain valued : String) (long : List (String × Char))
    (complaint : List Char → Failure → String) : Tool (Option Launch) := do
  let call ← call
  let (_, words) ← optionsFrom plain.toList valued.toList long true 125 call.args
  match words with
  | [] => misused "missing operand" 125
  | name :: _ => return some ⟨words, call.environment, none, none, complaint name⟩

def nohup : Tool (Option Launch) := plainLaunch "" "" [] notRun

def stdbuf : Tool (Option Launch) :=
  plainLaunch "" "ioe" [("input", 'i'), ("output", 'o'), ("error", 'e')] notRun

def setsid : Tool (Option Launch) :=
  plainLaunch "cfw" "" [("ctty", 'c'), ("fork", 'f'), ("wait", 'w')] fun name failure =>
    s!"failed to execute {String.ofList name}: {failure.reason}"

def nice : Tool (Option Launch) := do
  let call ← call
  let args := call.args.map fun word =>
    match word with
    | '-' :: digits => if (integer? digits).isSome then "-n".toList ++ digits else word
    | word => word
  let (options, words) ← optionsFrom [] ['n'] [("adjustment", 'n')] true 125 args
  match options.last? 'n' with
  | some text =>
    if (integer? text).isNone then misused s!"invalid adjustment {Quoting.text text}" 125
  | none => pure ()
  match words with
  | [] =>
    if options ≠ [] then misused "a command must be given with an adjustment" 125
    printLine ['0']
    return none
  | name :: _ =>
    return some ⟨words, call.environment, none, none, fun failure =>
      s!"{Quoting.text name}: {failure.reason}"⟩

/-- Runs a program for some time at most; `signal?` reads the name of a signal. -/
def timeout (signal? : List Char → Option Nat) : Tool (Option Launch) := do
  let call ← call
  let (options, words) ← optionsFrom "vfp".toList "ks".toList
    [("kill-after", 'k'), ("signal", 's'), ("verbose", 'v'), ("foreground", 'f'),
      ("preserve-status", 'p')] true 125 call.args
  let spans ← ((options.filter (·.1 == 'k')).map (·.2)).mapM fun text => do
    match interval? text with
    | some span => pure span
    | none => misused s!"invalid time interval {Quoting.text text}" 125
  let signal ← match options.last? 's' with
    | none => pure 15
    | some name =>
      match signal? name with
      | some n => pure n
      | none => misused s!"{Quoting.text name}: invalid signal" 125
  match words with
  | text :: name :: args =>
    match interval? text with
    | none => misused s!"invalid time interval {Quoting.text text}" 125
    | some 0 => return some ⟨name :: args, call.environment, none, none, notRun name⟩
    | some time =>
      let limit : Limit := ⟨time, signal, spans.getLast?, options.has 'p', options.has 'v'⟩
      return some ⟨name :: args, call.environment, none, some limit, notRun name⟩
  | _ => hint 125

/-! ### Many programs -/

/-- How `xargs` cuts its input: at what, and whether quotes and backslashes count. -/
inductive Division where
  | blanks
  | lines
  | mark (c : Char)
deriving DecidableEq, Repr

/-- The words of an input that blanks divide; a word at the end of a line tells so. The number bounds the
characters; a quote that is not closed is an error. -/
def inputWords (byLine : Bool) : List Char → Option (List Char) → List (List Char × Bool) →
    Except String (List (List Char × Bool))
  | [], current?, found => .ok ((current?.map fun w => (w.reverse, true)).toList ++ found).reverse
  | '\\' :: c :: rest, current?, found => inputWords byLine rest (some (c :: current?.getD [])) found
  | c :: rest, current?, found =>
    if c = '\'' || c = '"' then
      let inside := rest.takeWhile fun d => d ≠ c && d ≠ '\n'
      if (rest.drop inside.length).head? = some c then
        inputWords byLine (rest.drop (inside.length + 1))
          (some (inside.reverse ++ current?.getD [])) found
      else
        let kind := if c = '"' then "double" else "single"
        .error (s!"unmatched {kind} quote; " ++
          "by default quotes are special to xargs unless you use the -0 option")
    else if c = '\n' then
      match current? with
      | some word => inputWords byLine rest none ((word.reverse, true) :: found)
      | none =>
        let found := match found with
          | (word, false) :: others => (word, true) :: others
          | others => others
        inputWords byLine rest none found
    else if (c = ' ' || c = '\t') && !(byLine && current?.isSome) then
      match current? with
      | some word => inputWords byLine rest none ((word.reverse, false) :: found)
      | none => inputWords byLine rest none found
    else inputWords byLine rest (some (c :: current?.getD [])) found
termination_by rest => rest.length
decreasing_by all_goals simp only [List.length_cons, List.length_drop]; omega

def replaced (old new text : List Char) : List Char :=
  let rec walk : Nat → List Char → List Char
    | 0, rest => rest
    | _, [] => []
    | bound + 1, c :: rest =>
      if old ≠ [] && old.isPrefixOf (c :: rest) then new ++ walk bound ((c :: rest).drop old.length)
      else c :: walk bound rest
  walk (text.length + 1) text

def inGroups (size : Nat) : Nat → List (List Char) → List (List (List Char))
  | 0, _ => []
  | _, [] => []
  | bound + 1, words => words.take size :: inGroups size bound (words.drop size)

def inLines (size : Nat) (words : List (List Char × Bool)) : List (List (List Char)) :=
  let (groups, current, _) := words.foldl (fun (groups, current, lines) (word, ended) =>
    let lines := if ended then lines + 1 else lines
    if ended && lines = size then ((word :: current).reverse :: groups, [], 0)
    else (groups, word :: current, lines))
    (([] : List (List (List Char))), ([] : List (List Char)), 0)
  ((if current = [] then [] else [current.reverse]) ++ groups).reverse

def xargs : Tool (Option Batch) := do
  let call ← call
  let (options, words) ← optionsFrom "0rtxp".toList "nILdPsaE".toList
    [("null", '0'), ("no-run-if-empty", 'r'), ("verbose", 't'), ("max-args", 'n'),
      ("replace", 'I'), ("max-lines", 'L'), ("delimiter", 'd'), ("max-procs", 'P'),
      ("arg-file", 'a')] true 1 call.args
  let words := if words = [] then ["echo".toList] else words
  let input ← match options.last? 'a' with
    | none => inputOf 0
    | some path => readNamed path
  let octets ← match input with
    | .ok octets => pure octets
    | .error failure => refuse s!"{failure.reason}" 1
  let division : Division :=
    if options.has '0' then .mark '\x00'
    else match options.last? 'd' with
      | some ['\\', 'n'] => .mark '\n'
      | some ['\\', 't'] => .mark '\t'
      | some ['\\', '0'] => .mark '\x00'
      | some (c :: _) => .mark c
      | _ => if options.has 'I' then .lines else .blanks
  let found ← match division with
    | .mark c =>
      let fields := Text.fields c octets
      let fields := if fields.getLast? = some [] then fields.dropLast else fields
      pure (fields.map (·, true))
    | division =>
      match inputWords (division = .lines) octets none [] with
      | .ok found => pure found
      | .error message => refuse message 1
  let given := found.map (·.1)
  let count? (letter : Char) : Option Nat := (options.last? letter).bind number?
  let lists := match options.last? 'I', count? 'n', count? 'L' with
    | some mark, _, _ => given.map fun word => words.map (replaced mark word)
    | none, some size, _ => (inGroups size (given.length + 1) given).map (words ++ ·)
    | none, none, some size => (inLines size found).map (words ++ ·)
    | none, none, none => [words ++ given]
  let lists := if given = [] then
      (if options.has 'r' || options.has 'I' then [] else [words]) else lists
  return some ⟨lists, options.has 't'⟩

end Tool
end Proctor.Machine
