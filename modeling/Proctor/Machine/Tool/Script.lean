import Proctor.Machine.Octets
import Proctor.Machine.Regex.Reader

/-! Scripts that edit lines: their commands, and how they are written. -/
namespace Proctor.Machine.Script

/-! ### Commands -/

inductive Address where
  | line (n : Nat)
  | steps (first each : Nat)
  | last
  /-- A line that an expression matches; without one, the expression that was used last. -/
  | hit (regex? : Option Regex)
deriving Repr

inductive Finish where
  | address (address : Address)
  | later (n : Nat)
  | multiple (n : Nat)
deriving Repr

/-- A part of a text that takes the place of a match. -/
inductive Piece where
  | text (octets : List Char)
  | group (number : Nat)
  /-- A change of the case of letters: of all that follow or of the next one. -/
  | letters (mode : Char)
deriving Repr

structure Substitution where
  regex? : Option Regex
  pieces : List Piece
  number : Nat
  every : Bool
  prints : Bool
  target? : Option (List Char)
deriving Repr

inductive Action where
  /-- Goes on after the end of the block if the lines do not fit. -/
  | block (stop : Nat)
  | label
  | substitute (substitution : Substitution)
  | exchange (pairs : List (Char × Char))
  /-- Adds a text after a line, puts one before it, or in its place. -/
  | append (text : List Char)
  | insert (text : List Char)
  | change (text : List Char)
  /-- Goes on at a label or at the end: always, after a substitution, or without one. -/
  | jump (letter : Char) (label : List Char)
  | quit (letter : Char) (status : Nat)
  | list (width? : Option Nat)
  /-- Reads a file or one of its lines, or writes lines to it. -/
  | readFile (name : List Char)
  | readLine (name : List Char)
  | writeFile (first : Bool) (name : List Char)
  | simple (letter : Char)
deriving Repr

structure Command where
  start? : Option Address
  finish? : Option Finish
  negated : Bool
  action : Action
deriving Repr

/-! ### Reading -/

/-- What is left of a script, and what was read. -/
structure Progress where
  rest : List Char
  place : Nat
  line : Nat
  commands : Array Command
  /-- The blocks that are open: their commands, and where they start. -/
  blocks : List (Nat × String)
  labels : List (List Char × Nat)
  pending : Bool
  extended : Bool
  quiet : Bool

abbrev Reading := ExceptT String (StateM Progress)

def next? : Reading (Option Char) := do
  let progress ← get
  match progress.rest with
  | [] => return none
  | c :: rest =>
    let line := if c = '\n' then progress.line + 1 else progress.line
    set { progress with rest, place := progress.place + 1, line }
    return some c

def back (c? : Option Char) : Reading Unit :=
  match c? with
  | none => return
  | some c => modify fun progress =>
    let line := if c = '\n' then progress.line - 1 else progress.line
    { progress with rest := c :: progress.rest, place := progress.place - 1, line }

def takeWhile (fits : Char → Bool) : Reading (List Char) := do
  let found := (← get).rest.takeWhile fits
  modify fun progress =>
    { progress with
      rest := progress.rest.drop found.length
      place := progress.place + found.length
      line := progress.line + found.count '\n' }
  return found

def isGap (c : Char) : Bool := c == ' ' || c == '\t'

def isWide (c : Char) : Bool := c == ' ' || ('\t' ≤ c && c ≤ '\x0d')

def nextFilled? : Reading (Option Char) := do
  let _ ← takeWhile isGap
  next?

def numberFrom (first : Char) : Reading Nat := do
  return ofDigits 10 (first :: (← takeWhile isDecimalDigit))

def endCommand : Reading Unit := do
  match ← nextFilled? with
  | none => return
  | some c =>
    if c = '\x7d' || c = '#' then back (some c)
    else if c ≠ '\n' && c ≠ ';' then throw "extra characters after command"

/-- The octets up to the end of a named class in a bracket expression, and what follows them. -/
def classFrom? (mark : Char) : List Char → List Char → Option (List Char × List Char)
  | _, [] => none
  | found, c :: rest =>
    if c = mark && rest.head? = some ']' then some (']' :: c :: found, rest.drop 1)
    else classFrom? mark (c :: found) rest

/-- The octets up to the end of a bracket expression, the last first, and what follows them. A backslash
stands for itself there, but `\n` is a newline. `first` holds where the end would be a member; the
number bounds the octets. -/
def bracketFrom? : Nat → (first : Bool) → List Char → List Char → Option (List Char × List Char)
  | 0, _, _, _ => none
  | bound + 1, first, found, text =>
    match text with
    | [] => none
    | '\n' :: _ => none
    | ']' :: rest =>
      if first then bracketFrom? bound false (']' :: found) rest else some (']' :: found, rest)
    | '^' :: rest => bracketFrom? bound (found = ['[']) ('^' :: found) rest
    | '\\' :: 'n' :: rest => bracketFrom? bound false ('\n' :: found) rest
    | '[' :: mark :: rest =>
      if mark = ':' || mark = '.' || mark = '=' then
        match classFrom? mark (mark :: '[' :: found) rest with
        | some (found, rest) => bracketFrom? bound false found rest
        | none => none
      else bracketFrom? bound false ('[' :: found) (mark :: rest)
    | c :: rest => bracketFrom? bound false (c :: found) rest

/-- The text up to a mark that no backslash stands before, if there is one. A backslash before the mark
goes away, and in expressions `\n` is a newline. The number bounds the octets. -/
def upTo? (mark : Char) (isRegex : Bool) : Nat → List Char → Reading (Option (List Char))
  | 0, _ => return none
  | bound + 1, found => do
    match ← next? with
    | none => return none
    | some c =>
      if c = mark then return some found.reverse
      else if c = '\n' then
        back (some c)
        return none
      else if c = '[' && isRegex then
        let progress ← get
        match bracketFrom? (progress.rest.length + 1) true ['['] progress.rest with
        | some (members, rest) =>
          set { progress with
            rest, place := progress.place + (progress.rest.length - rest.length) }
          upTo? mark isRegex bound (members ++ found)
        | none =>
          let _ ← takeWhile (· ≠ '\n')
          return none
      else if c = '\\' then
        match ← next? with
        | none => return none
        | some d =>
          if d = 'n' && isRegex then upTo? mark isRegex bound ('\n' :: found)
          else if d = '\n' then upTo? mark isRegex bound (if isRegex then d :: found else d :: c :: found)
          else if d = mark && !(!isRegex && d = '&') then upTo? mark isRegex bound (d :: found)
          else upTo? mark isRegex bound (d :: c :: found)
      else upTo? mark isRegex bound (c :: found)

def marked (mark : Char) (isRegex : Bool) (complaint : String) : Reading (List Char) := do
  match ← upTo? mark isRegex ((← get).rest.length + 1) [] with
  | some text => return text
  | none => throw complaint

/-- The octet that an escape such as `\x41` spells, and the text after it. -/
def spelled? (text : List Char) : Option (Char × List Char) :=
  let number (base most : Nat) (rest : List Char) : Option (Char × List Char) :=
    let digits := (rest.take most).takeWhile fun c => (digitIn? base c).isSome
    if digits = [] then none
    else some (Octets.char (ofDigits base digits), rest.drop digits.length)
  match text with
  | 'a' :: rest => some ('\x07', rest)
  | 'f' :: rest => some ('\x0c', rest)
  | 'r' :: rest => some ('\r', rest)
  | 't' :: rest => some ('\t', rest)
  | 'v' :: rest => some ('\x0b', rest)
  | 'd' :: rest => number 10 3 rest
  | 'o' :: rest => number 8 3 rest
  | 'x' :: rest => number 16 2 rest
  | 'c' :: c :: rest => some (Octets.char (c.toUpper.toNat.xor 64), rest)
  | _ => none

/-- An expression with its escapes for octets read. The number bounds the octets. -/
def plainRegex : Nat → List Char → List Char
  | 0, text => text
  | bound + 1, text =>
    match text with
    | '\\' :: rest =>
      match spelled? rest with
      | some (c, rest) => c :: plainRegex bound rest
      | none =>
        match rest with
        | c :: rest => '\\' :: c :: plainRegex bound rest
        | [] => ['\\']
    | c :: rest => c :: plainRegex bound rest
    | [] => []

/-- The expression of a text with flags, and how many groups it has; none if the text is empty. -/
def regexOf (text flags : List Char) : Reading (Option (Regex × Nat)) := do
  if text = [] then return none
  let style : Regex.Style := ⟨(← get).extended, false, flags.contains 'M'⟩
  match Regex.ofText style (plainRegex (text.length + 1) text) with
  | .error fault => throw fault.message
  | .ok (regex, groups) => return some (if flags.contains 'I' then regex.caseless else regex, groups)

def addressFlags : Nat → List Char → Reading (List Char)
  | 0, flags => return flags
  | bound + 1, flags => do
    match ← nextFilled? with
    | some 'I' => addressFlags bound ('I' :: flags)
    | some 'M' => addressFlags bound ('M' :: flags)
    | c? =>
      back c?
      return flags

def addressFrom? (c? : Option Char) : Reading (Option Finish) := do
  match c? with
  | none => return none
  | some c =>
    if c = '/' || c = '\\' then
      let mark ← if c = '\\' then pure ((← next?).getD '\n') else pure c
      let text ← marked mark true "unterminated address regex"
      let flags ← addressFlags ((← get).rest.length + 1) []
      let regex? ← regexOf text flags
      return some (.address (.hit (regex?.map (·.1))))
    else if isDecimalDigit c then
      let n ← numberFrom c
      match ← nextFilled? with
      | some '~' =>
        match ← nextFilled? with
        | some d =>
          if isDecimalDigit d then
            let each ← numberFrom d
            return some (.address (if each = 0 then .line n else .steps n each))
          else
            back (some d)
            return some (.address (.line n))
        | none => return some (.address (.line n))
      | d? =>
        back d?
        return some (.address (.line n))
    else if c = '+' || c = '~' then
      match ← nextFilled? with
      | some d =>
        if isDecimalDigit d then
          let n ← numberFrom d
          return some (if c = '+' then .later n else .multiple n)
        else throw "expected number"
      | none => throw "expected number"
    else if c = '$' then return some (.address .last)
    else return none

def textOf : Nat → List Char → List Char
  | 0, text => text
  | bound + 1, text =>
    match text with
    | '\\' :: 'n' :: rest => '\n' :: textOf bound rest
    | '\\' :: rest =>
      match spelled? rest with
      | some (c, rest) => c :: textOf bound rest
      | none =>
        match rest with
        | c :: rest => c :: textOf bound rest
        | [] => []
    | c :: rest => c :: textOf bound rest
    | [] => []

/-- The octets up to the end of a text; a backslash before a newline lets it go on. Whether it goes on
after the end of the script comes with it. The number bounds the octets. -/
def rawText : Nat → List Char → Reading (List Char × Bool)
  | 0, found => return (found.reverse, false)
  | bound + 1, found => do
    match ← next? with
    | none => return (found.reverse, false)
    | some '\n' => return (found.reverse, false)
    | some '\\' =>
      match ← next? with
      | none => return (found.reverse, true)
      | some c => rawText bound (c :: '\\' :: found)
    | some c => rawText bound (c :: found)

/-- The text of a command, which ends with a newline unless there is none of it yet. -/
def commandText : Reading (List Char) := do
  let found ← nextFilled?
  let start : Bool ← match found with
    | none => throw "expected \\ after \x60a', \x60c' or \x60i'"
    | some '\\' =>
      match ← next? with
      | none => pure false
      | some '\n' => pure true
      | c? =>
        back c?
        pure true
    | c? =>
      back c?
      pure true
  if !start then
    modify fun progress => { progress with pending := true }
    return []
  let (text, pending) ← rawText ((← get).rest.length + 1) []
  modify fun progress => { progress with pending }
  return textOf (text.length + 1) text ++ ['\n']

/-- The pieces of a text that takes the place of a match. The octets before come last first; the number
bounds the octets. -/
def piecesOf : Nat → List Char → List Char → List Piece
  | 0, _, _ => []
  | bound + 1, before, text =>
    let flushed : List Piece := if before = [] then [] else [.text before.reverse]
    match text with
    | [] => flushed
    | '&' :: rest => flushed ++ .group 0 :: piecesOf bound [] rest
    | '\\' :: 'n' :: rest => piecesOf bound ('\n' :: before) rest
    | '\\' :: c :: rest =>
      if isDecimalDigit c then flushed ++ .group (c.toNat - 48) :: piecesOf bound [] rest
      else if "ULEul".toList.contains c then flushed ++ .letters c :: piecesOf bound [] rest
      else
        match spelled? (c :: rest) with
        | some (d, rest) => piecesOf bound (d :: before) rest
        | none => piecesOf bound (c :: before) rest
    | c :: rest => piecesOf bound (c :: before) rest

def fileName : Reading (List Char) := do
  let _ ← takeWhile isGap
  let name ← takeWhile (· ≠ '\n')
  let _ ← next?
  if name = [] then throw "missing filename in r/R/w/W commands"
  return name

structure Flags where
  number? : Option Nat
  every : Bool
  prints : Bool
  caseless : Bool
  byLine : Bool
  target? : Option (List Char)

def flagsOf : Nat → Flags → Reading Flags
  | 0, flags => return flags
  | bound + 1, flags => do
    match ← nextFilled? with
    | none => return flags
    | some c =>
      if c = 'i' || c = 'I' then flagsOf bound { flags with caseless := true }
      else if c = 'm' || c = 'M' then flagsOf bound { flags with byLine := true }
      else if c = 'p' then
        if flags.prints then throw "multiple \x60p' options to \x60s' command"
        flagsOf bound { flags with prints := true }
      else if c = 'g' then
        if flags.every then throw "multiple \x60g' options to \x60s' command"
        flagsOf bound { flags with every := true }
      else if c = 'w' then
        let name ← fileName
        return { flags with target? := some name }
      else if isDecimalDigit c then
        if flags.number?.isSome then throw "multiple number options to \x60s' command"
        let n ← numberFrom c
        if n = 0 then throw "number option to \x60s' command may not be zero"
        flagsOf bound { flags with number? := some n }
      else if c = '\x7d' || c = '#' then
        back (some c)
        return flags
      else if c = '\n' || c = ';' then return flags
      else throw "unknown option to \x60s'"

/-- The octets of one side of an exchange. The number bounds them. -/
def exchanged : Nat → List Char → List Char
  | 0, text => text
  | bound + 1, text =>
    match text with
    | '\\' :: '\\' :: rest => '\\' :: exchanged bound rest
    | '\\' :: 'n' :: rest => '\n' :: exchanged bound rest
    | '\\' :: rest =>
      match spelled? rest with
      | some (c, rest) => c :: exchanged bound rest
      | none =>
        match rest with
        | c :: rest => c :: exchanged bound rest
        | [] => ['\\']
    | c :: rest => c :: exchanged bound rest
    | [] => []

def labelName : Reading (List Char) := do
  let _ ← takeWhile isGap
  takeWhile fun c => !isWide c && c ≠ ';' && c ≠ '\x7d'

def add (command : Command) : Reading Unit :=
  modify fun progress => { progress with commands := progress.commands.push command }

/-- Reads the action that a letter starts; `shown` names the place of the command for complaints. -/
def actionOf (letter? : Option Char) (start? : Option Address) (finish? : Option Finish)
    (negated : Bool) (shown : String) : Reading Unit := do
  let put (action : Action) : Reading Unit := add ⟨start?, finish?, negated, action⟩
  match letter? with
  | none => throw "missing command"
  | some letter =>
    if letter = '#' then
      if start?.isSome then throw "comments don't accept any addresses"
      let _ ← takeWhile (· ≠ '\n')
    else if letter = '\x7b' then
      let index := (← get).commands.size
      modify fun progress => { progress with blocks := (index, shown) :: progress.blocks }
      put (.block 0)
    else if letter = '\x7d' then
      match (← get).blocks with
      | [] => throw "unexpected \x60\x7d'"
      | (index, _) :: others =>
        if start?.isSome then throw "\x60\x7d' doesn't want any addresses"
        endCommand
        modify fun progress =>
          let stop := progress.commands.size
          { progress with
            blocks := others
            commands := progress.commands.modify index fun command =>
              { command with action := .block stop } }
    else if letter = 'a' || letter = 'i' || letter = 'c' then
      let text ← commandText
      put (if letter = 'a' then .append text else if letter = 'i' then .insert text else .change text)
    else if letter = ':' then
      if start?.isSome then throw ": doesn't want any addresses"
      let name ← labelName
      if name = [] then throw "\":\" lacks a label"
      modify fun progress =>
        { progress with labels := (name, progress.commands.size) :: progress.labels }
      put .label
    else if letter = 'b' || letter = 't' || letter = 'T' then
      put (.jump letter (← labelName))
    else if letter = 'q' || letter = 'Q' then
      if finish?.isSome then throw "command only uses one address"
      let status ← match ← nextFilled? with
        | some c => if isDecimalDigit c then numberFrom c else do back (some c); pure 0
        | none => pure 0
      endCommand
      put (.quit letter (status % 256))
    else if letter = 'l' then
      let width? ← match ← nextFilled? with
        | some c =>
          if isDecimalDigit c then do
            let n ← numberFrom c
            pure (some n)
          else do
            back (some c)
            pure none
        | none => pure none
      endCommand
      put (.list width?)
    else if letter = 'r' then put (.readFile (← fileName))
    else if letter = 'R' then put (.readLine (← fileName))
    else if letter = 'w' then put (.writeFile false (← fileName))
    else if letter = 'W' then put (.writeFile true (← fileName))
    else if letter = 's' then
      let failed := "unterminated \x60s' command"
      let mark := (← next?).getD '\n'
      let regex ← marked mark true failed
      let text ← marked mark false failed
      let flags ← flagsOf ((← get).rest.length + 1) ⟨none, false, false, false, false, none⟩
      let letters := (if flags.caseless then ['I'] else []) ++ if flags.byLine then ['M'] else []
      let regex? ← regexOf regex letters
      let pieces := piecesOf (text.length + 1) [] text
      let greatest := pieces.foldl (fun most piece =>
        match piece with
        | .group n => max most n
        | _ => most) 0
      match regex? with
      | some (_, groups) =>
        if groups < greatest then
          throw s!"invalid reference \\{greatest} on \x60s' command's RHS"
      | none => pure ()
      put (.substitute ⟨regex?.map (·.1), pieces, flags.number?.getD 1, flags.every, flags.prints,
        flags.target?⟩)
    else if letter = 'y' then
      let failed := "unterminated \x60y' command"
      let mark := (← next?).getD '\n'
      let source ← marked mark false failed
      let target ← marked mark false failed
      let source := exchanged (source.length + 1) source
      let target := exchanged (target.length + 1) target
      if source.length ≠ target.length then throw "strings for \x60y' command are different lengths"
      endCommand
      put (.exchange (source.zip target))
    else if letter = 'v' then
      let _ ← labelName
      endCommand
    else if "=dDFgGhHnNpPzx".toList.contains letter then
      endCommand
      put (.simple letter)
    else throw s!"unknown command: \x60{letter}'"

/-- Reads the commands up to the end of a text. The number bounds them. -/
def commandsFrom (name : String) : Nat → Reading Unit
  | 0 => return
  | bound + 1 => do
    let _ ← takeWhile fun c => isWide c || c = ';'
    match ← next? with
    | none => return
    | some c =>
      let (start?, c?) ← match ← addressFrom? (some c) with
        | none => pure (none, some c)
        | some (.address address) => do
          let c? ← nextFilled?
          pure (some address, c?)
        | some _ => throw "invalid usage of +N or ~N as first address"
      let (finish?, c?) ← match start?, c? with
        | some _, some ',' => do
          match ← addressFrom? (← nextFilled?) with
          | none => throw "unexpected \x60,'"
          | some finish => pure (some finish, ← nextFilled?)
        | _, _ => pure (none, c?)
      let isZero := match start? with
        | some (.line 0) => true
        | some (.steps 0 _) => false
        | _ => false
      let byRegex := match finish? with
        | some (.address (.hit _)) => true
        | _ => false
      if isZero && !byRegex then throw "invalid usage of line address 0"
      let (negated, c?) ← match c? with
        | some '!' => do
          let c? ← nextFilled?
          if c? = some '!' then throw "multiple \x60!'s"
          pure (true, c?)
        | c? => pure (false, c?)
      actionOf c? start? finish? negated name
      commandsFrom name bound

def readText (text : List Char) (shown : String) : Reading Unit := do
  modify fun progress => { progress with rest := text, place := 0, line := 1 }
  let first := (← get).commands.isEmpty
  if (← get).pending then
    let (more, pending) ← rawText (text.length + 1) []
    let line := textOf (more.length + 1) more ++ ['\n']
    modify fun progress =>
      { progress with
        pending
        commands := progress.commands.modify (progress.commands.size - 1) fun command =>
          { command with
            action := match command.action with
              | .append text => .append (text ++ line)
              | .insert text => .insert (text ++ line)
              | .change text => .change (text ++ line)
              | action => action } }
  else if first && ['#', 'n'].isPrefixOf text then
    modify fun progress => { progress with quiet := true }
  commandsFrom shown (text.length + 1)

end Proctor.Machine.Script
