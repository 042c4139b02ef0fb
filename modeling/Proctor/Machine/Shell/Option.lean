import Proctor.Machine.Shell.Expansion
import Proctor.Machine.Shell.Signal

/-! The options of a shell, which are set when it starts and by `set`. -/
namespace Proctor.Machine.Shell

def optionNames : List String :=
  ["errexit", "noglob", "ignoreeof", "interactive", "monitor", "noexec", "stdin", "xtrace", "verbose",
    "vi", "emacs", "noclobber", "allexport", "notify", "nounset", "privileged", "nolog", "debug"]

def optionOf? (letter : Char) : Option String := (optionLetters.find? (·.2 == letter)).map (·.1)

/-- Sets an option or clears it; there is one way of editing at most. -/
def State.withOption (state : State) (name : String) (on : Bool) : State :=
  let others := state.options.filter fun other =>
    other ≠ name && !(on && ((name = "vi" && other = "emacs") || (name = "emacs" && other = "vi")))
  { state with options := if on then others ++ [name] else others }

/-- All options as lines; when the shell starts, each counts as set. -/
def optionLines (state : State) (starting on : Bool) : List Char :=
  let isOn (name : String) : Bool := starting || state.isOn name
  let lines := optionNames.map fun name =>
    if on then
      name ++ String.ofList (List.replicate (16 - name.length) ' ') ++ if isOn name then "on" else "off"
    else (if isOn name then "set -o " else "set +o ") ++ name
  Octets.ofLines ((if on then ["Current option settings"] else []) ++ lines |>.map String.toList)

/-- What the words of options leave over: whether there were two dashes, whether a text of commands
follows, and the words after the options. -/
structure OptionWords where
  closed : Bool
  commands : Bool
  rest : List (List Char)

/-- Sets the options of a group of letters: whether a text of commands follows, and the words left. -/
def setLetters (starting on : Bool) : List Char → List (List Char) →
    Action (Bool × List (List Char))
  | [], rest => return (false, rest)
  | letter :: letters, rest => do
    if letter = 'c' && starting then
      let (_, rest) ← setLetters starting on letters rest
      return (true, rest)
    else if letter = 'l' && starting then setLetters starting on letters rest
    else if letter = 'o' then
      match rest with
      | [] =>
        let _ ← Action.print (optionLines (← get) starting on)
        setLetters starting on letters []
      | name :: rest =>
        if optionNames.contains (String.ofList name) then
          modify fun state => state.withOption (String.ofList name) on
          setLetters starting on letters rest
        else Action.refuse s!"Illegal option -o {String.ofList name}"
    else
      match optionOf? letter with
      | some name =>
        modify fun state => state.withOption name on
        setLetters starting on letters rest
      | none => Action.refuse s!"Illegal option -{letter}"

def setOptions (starting : Bool) : Nat → List (List Char) → Action OptionWords
  | 0, words => return ⟨false, false, words⟩
  | bound + 1, words =>
    match words with
    | ['-'] :: rest => do
      if !starting then
        modify fun state => (state.withOption "xtrace" false).withOption "verbose" false
      return ⟨false, false, rest⟩
    | ['-', '-'] :: rest => return ⟨true, false, rest⟩
    | (sign :: letters) :: rest =>
      if sign = '-' || sign = '+' then do
        let (commands, rest) ← setLetters starting (sign = '-') letters rest
        let found ← setOptions starting bound rest
        return { found with commands := commands || found.commands }
      else return ⟨false, false, (sign :: letters) :: rest⟩
    | words => return ⟨false, false, words⟩

end Proctor.Machine.Shell
