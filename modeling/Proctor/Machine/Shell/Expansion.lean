import Proctor.Machine.Shell.Arithmetic
import Proctor.Machine.Wildcard

/-! Expanding words: the values of their parts, the fields into which values fall, and the paths that
wildcards stand for. -/
namespace Proctor.Machine.Shell

inductive Fragment where
  /-- Text; a divisible one is cut at its separators. -/
  | text (octets : List Char) (quoted divisible : Bool)
  | border
deriving DecidableEq, Repr

/-- Characters, each with whether it is quoted. -/
abbrev Marks := List Wildcard.Mark

/-- Runs a command in a copy of the shell and gives what it prints. -/
abbrev Taker := Command → Action (List Char)

/-- For what a word is expanded: whether it falls into fields, whether its text does so as well, and
whether it is the value of an assignment. -/
structure Purpose where
  fields : Bool
  divided : Bool
  assigned : Bool
deriving DecidableEq, Repr

def plainText (fragments : List Fragment) : List Char :=
  fragments.flatMap fun
    | .text octets _ _ => octets
    | .border => [' ']

def marksOf (fragments : List Fragment) : Marks :=
  fragments.flatMap fun
    | .text octets quoted _ => octets.map (·, quoted)
    | .border => [(' ', true)]

/-! ### Home directories -/

def homeOf? (files : Files) (account : List Char) : Option (List Char) :=
  let accounts := (files.read "/etc/passwd".toList).toOption.getD []
  (Octets.lines accounts).findSome? fun line =>
    match Text.fields ':' line with
    | name :: _ :: _ :: _ :: _ :: home :: _ => if name = account then some home else none
    | _ => none

/-- The fragments of a text that may start with a tilde and the name of an account; `last` tells
whether nothing of the word follows the text. -/
def tildeFragments (state : State) (purpose : Purpose) (last : Bool) (text : List Char) :
    List Fragment :=
  let plain (text : List Char) : List Fragment :=
    if text = [] then [] else [.text text false purpose.divided]
  match text with
  | '~' :: rest =>
    let account := rest.takeWhile fun c => c ≠ '/' && !(purpose.assigned && c = ':')
    let rest := rest.drop account.length
    let home? :=
      if rest = [] && !last then none
      else if account = [] then state.value? "HOME".toList
      else homeOf? state.files account
    match home? with
    | some home => (if home = [] then [] else [.text home true false]) ++ plain rest
    | none => plain text
  | text => plain text

/-- The fragments of the text at the start of a word. In an assignment a tilde counts after each
colon. -/
def startFragments (state : State) (purpose : Purpose) (last : Bool) (text : List Char) :
    List Fragment :=
  if !text.contains '~' then [.text text false purpose.divided]
  else if purpose.assigned then
    let pieces := Text.fields ':' text
    let count := pieces.length
    pieces.zipIdx.flatMap fun (piece, i) =>
      tildeFragments state purpose (last || i + 1 < count) piece ++
        (if i + 1 < count then [.text [':'] false purpose.divided] else [])
  else tildeFragments state purpose last text

/-! ### Parameters -/

def optionLetters : List (String × Char) :=
  [("nounset", 'u'), ("notify", 'b'), ("allexport", 'a'), ("noclobber", 'C'), ("emacs", 'E'),
    ("vi", 'V'), ("verbose", 'v'), ("xtrace", 'x'), ("stdin", 's'), ("noexec", 'n'),
    ("monitor", 'm'), ("interactive", 'i'), ("ignoreeof", 'I'), ("noglob", 'f'), ("errexit", 'e'),
    ("privileged", 'p')]

/-- The value of a parameter that has just one, unless it has none. -/
def State.parameter? (state : State) (name : List Char) : Option (List Char) :=
  match name with
  | ['#'] => some (digitsOf 10 state.parameters.length)
  | ['?'] => some (digitsOf 10 state.status)
  | ['$'] => some (digitsOf 10 state.root)
  | ['!'] => state.background?.map (digitsOf 10)
  | ['-'] =>
    some (optionLetters.filterMap fun (option, letter) => if state.isOn option then some letter else none)
  | name =>
    if name.all isDecimalDigit then
      match ofDigits 10 name with
      | 0 => some state.name
      | n + 1 => state.parameters[n]?
    else state.value? name

def isAll (name : List Char) : Bool := name = ['@'] || name = ['*']

def State.joiner (state : State) : List Char :=
  match state.value? "IFS".toList with
  | none => [' ']
  | some separators => separators.take 1

def allParameters (state : State) (fields quoted : Bool) (name : List Char) : List Fragment :=
  if fields && !(quoted && name = ['*']) then
    ((state.parameters.map fun value => [Fragment.text value quoted (!quoted)]).intersperse
      [.border]).flatten
  else if state.parameters = [] && !quoted then []
  else [.text (state.joiner.intercalate state.parameters) quoted (!quoted)]

/-- The fragments of the value of a parameter, unless it has none. -/
def parameterFragments? (state : State) (fields quoted : Bool) (name : List Char) :
    Option (List Fragment) :=
  if isAll name then some (allParameters state fields quoted name)
  else (state.parameter? name).map fun value => [.text value quoted (!quoted)]

def isEmptyText (fragments : List Fragment) : Bool := plainText fragments = []

def unset {α : Type} (name : List Char) (given? : Option (List Char)) (emptyToo : Bool) : Action α :=
  let reason :=
    if let some given := given? then String.ofList given
    else if emptyToo then "parameter not set or null"
    else "parameter not set"
  Action.refuse s!"{String.ofList name}: {reason}"

/-- The fragments of a parameter that may have no value unless the shell insists. -/
def demanded (fields quoted : Bool) (name : List Char) : Action (List Fragment) := do
  let state ← get
  match parameterFragments? state fields quoted name with
  | some found => return found
  | none =>
    if state.isOn "nounset" then unset name none false
    else return if quoted then [.text [] true false] else []

def cutFragments (fromEnd longest : Bool) (pattern : List Wildcard) :
    List Fragment → List Fragment
  | [] => []
  | .border :: rest => .border :: cutFragments fromEnd longest pattern rest
  | .text octets quoted divisible :: rest =>
    if !fromEnd then .text (Wildcard.cutStart longest pattern octets) quoted divisible :: rest
    else if rest = [] then [.text (Wildcard.cutEnd longest pattern octets) quoted divisible]
    else .text octets quoted divisible :: cutFragments fromEnd longest pattern rest

def assignParameter (name value : List Char) : Action Unit :=
  if isName name then Action.assign name value
  else Action.refuse s!"{String.ofList name}: bad variable name"

/-! ### Words -/

/-- The fragments of a parameter whose value is changed; `inner` gives those of a word. -/
def modified (inner : Purpose → Word → Action (List Fragment)) (purpose : Purpose)
    (name : List Char) (modifier : Modifier) (quoted : Bool) : Action (List Fragment) := do
  let fields := purpose.fields
  match modifier with
  | .none => demanded fields quoted name
  | .length =>
    let found ← demanded false quoted name
    return [.text (digitsOf 10 (plainText found).length) quoted (!quoted)]
  | .cut fromEnd longest pattern =>
    let found ← demanded fields quoted name
    let marks := marksOf (← inner ⟨false, false, false⟩ pattern)
    return cutFragments fromEnd longest (Wildcard.ofText marks) found
  | .instead sign emptyToo word =>
    let found? := (parameterFragments? (← get) fields quoted name).filter fun found =>
      !(emptyToo && isEmptyText found)
    let purpose : Purpose := { purpose with divided := !quoted }
    match sign, found? with
    | '+', some _ => inner purpose word
    | '+', none => return if quoted then [.text [] true false] else []
    | '-', none => inner purpose word
    | '=', none =>
      let value := plainText (← inner ⟨false, false, false⟩ word)
      assignParameter name value
      return [.text value quoted (!quoted)]
    | '?', none =>
      let given := plainText (← inner ⟨false, false, false⟩ word)
      unset name (if word = [] then none else some given) emptyToo
    | _, some found => return found
    | _, none => return []
  | .unknown => Action.refuse "Bad substitution"

/-- The fragments of a word. The number bounds how deep words are nested. -/
def fragments (taker : Taker) : Nat → Purpose → Word → Action (List Fragment)
  | 0, _, _ => return []
  | bound + 1, purpose, word => do
    let count := word.length
    let found ← word.zipIdx.mapM fun (part, i) => do
      match part with
      | .text octets quoted =>
        if quoted then return [Fragment.text octets true false]
        else if i = 0 then
          return startFragments (← get) purpose (count ≤ 1) octets
        else if purpose.assigned && octets.contains '~' then
          match Text.cutFirst? ':' octets with
          | some (before, after) =>
            return .text (before ++ [':']) false purpose.divided ::
              startFragments (← get) purpose (i + 1 = count) after
          | none => return [.text octets false purpose.divided]
        else return [.text octets false purpose.divided]
      | .parameter name modifier quoted =>
        modified (fragments taker bound) purpose name modifier quoted
      | .output command quoted =>
        let printed ← taker command
        return [.text printed quoted (!quoted)]
      | .sum inner quoted =>
        let text := plainText (← fragments taker bound ⟨false, false, false⟩ inner)
        return [.text (intDigits (← evaluate text)) quoted (!quoted)]
    return found.flatten

def maxNesting : Nat := 1000

/-! ### Fields -/

/-- How far values are cut into fields: the complete fields, the last first; the one that is being
built, from its end; and whether separators are being skipped, of which one may still be none of the
blanks. -/
structure Splitting where
  complete : List Marks
  current? : Option Marks
  skipping? : Option Bool

namespace Splitting

def start : Splitting := ⟨[], none, none⟩

def isBlank (c : Char) : Bool := c == ' ' || c == '\t' || c == '\n'

def add (splitting : Splitting) (c : Char) (quoted : Bool) : Splitting :=
  { splitting with
    current? := some ((c, quoted) :: splitting.current?.getD []), skipping? := none }

def finish (splitting : Splitting) : Splitting :=
  { splitting with
    complete := (splitting.current?.getD []).reverse :: splitting.complete, current? := none }

/-- Takes in a character that is divided, when no separators are skipped. -/
def divide (separators : List Char) (splitting : Splitting) (c : Char) : Splitting :=
  if !separators.contains c then splitting.add c false
  else if splitting.current?.isNone && isBlank c then { splitting with skipping? := none }
  else { splitting.finish with skipping? := some (isBlank c) }

def take (separators : List Char) (splitting : Splitting) (c : Char) : Splitting :=
  match splitting.skipping? with
  | none => splitting.divide separators c
  | some blank =>
    if !separators.contains c then splitting.divide separators c
    else if isBlank c then splitting
    else if blank then { splitting with skipping? := some false }
    else { splitting with skipping? := none }.divide separators c

def takeFragment (separators : List Char) (splitting : Splitting) : Fragment → Splitting
  | .border =>
    if splitting.current?.isSome then { splitting.finish with skipping? := none }
    else { splitting with skipping? := none }
  | .text octets quoted true =>
    let splitting := octets.foldl (take separators) { splitting with skipping? := none }
    { splitting with
      skipping? := none
      current? := if quoted then some (splitting.current?.getD []) else splitting.current? }
  | .text octets quoted false =>
    if octets = [] && !quoted then splitting
    else
      let current := octets.foldl (fun marks c => (c, quoted) :: marks) (splitting.current?.getD [])
      { splitting with current? := some current, skipping? := none }

end Splitting

def fieldsOf (separators : List Char) (fragments : List Fragment) : List Marks :=
  let splitting := fragments.foldl (Splitting.takeFragment separators) .start
  (match splitting.current? with
    | some current => current.reverse :: splitting.complete
    | none => splitting.complete).reverse

/-! ### Paths -/

def isWild (mark : Wildcard.Mark) : Bool := !mark.2 && (mark.1 == '*' || mark.1 == '?' || mark.1 == '[')

def pathsFrom (files : Files) : List (List Char) → List Marks → List (List Char)
  | starts, [] => starts
  | starts, part :: parts =>
    let last := parts.isEmpty
    let ending : List Char := if last then [] else ['/']
    let next :=
      if part.any isWild then
        let pattern := Wildcard.ofText part
        let hidden := part.head?.any (·.1 == '.')
        starts.flatMap fun start =>
          let directory := if start = [] then ['.'] else start
          let names := files.namesIn directory ++
            (if files.isDirectory directory then [['.'], ['.', '.']] else [])
          let fitting := names.filter fun name =>
            (hidden || name.head? ≠ some '.') && Wildcard.fits pattern name
          (fitting.map (start ++ · ++ ending)).filter fun path =>
            last || files.isDirectory path
      else starts.map fun start => start ++ part.map (·.1) ++ ending
    pathsFrom files next parts

/-- The paths that a field stands for: itself, if it has no wildcards or no path fits them. -/
def pathsOf (state : State) (field : Marks) : List (List Char) :=
  let text := field.map (·.1)
  let marks := Wildcard.withoutBackslashes field
  if state.isOn "noglob" || !marks.any isWild then [text]
  else
    let slash (mark : Wildcard.Mark) : Bool := mark.1 == '/'
    let parts := marks.splitOnP slash
    let found := (pathsFrom state.files [[]] parts).filter fun path =>
      (state.files.lookUp false path).isOk
    if found = [] then [text] else found.mergeSort fun a b => !Octets.before b a

/-! ### Uses of words -/

def expandAll (taker : Taker) (words : List Word) : Action (List (List Char)) := do
  let found ← words.mapM fun word => do
    let fragments ← fragments taker maxNesting ⟨true, false, false⟩ word
    let state ← get
    return (fieldsOf state.separators fragments).flatMap (pathsOf state)
  return found.flatten

def expandOne (taker : Taker) (word : Word) : Action (List Char) := do
  return plainText (← fragments taker maxNesting ⟨false, false, false⟩ word)

def expandValue (taker : Taker) (word : Word) : Action (List Char) := do
  return plainText (← fragments taker maxNesting ⟨false, false, true⟩ word)

def expandPattern (taker : Taker) (word : Word) : Action (List Wildcard) := do
  return Wildcard.ofText (marksOf (← fragments taker maxNesting ⟨false, false, false⟩ word))

end Proctor.Machine.Shell
