import Proctor.Machine.Tool.Basic
import Proctor.Machine.Tool.Script

/-! Editing lines with a script. -/
namespace Proctor.Machine

/-- A line, and whether a newline ends it. -/
abbrev Edited := List Char × Bool

/-- What goes to a file, the last first, and whether the end of its last line is missing. -/
structure Transcript where
  chunks : List (List Char)
  unfinished : Bool

namespace Transcript

def add (written : Transcript) (octets : List Char) : Transcript :=
  let chunks := if written.unfinished then ['\n'] :: written.chunks else written.chunks
  ⟨octets :: chunks, false⟩

def line (written : Transcript) (separator : Char) (line : Edited) : Transcript :=
  let written := written.add line.1
  if line.2 then ⟨[separator] :: written.chunks, false⟩ else { written with unfinished := true }

def octets (written : Transcript) : List Char := written.chunks.reverse.flatten

end Transcript

structure Editor where
  commands : Array Script.Command
  labels : List (List Char × Nat)
  quiet : Bool
  /-- Whether each file has its own lines, and whether what comes out takes the place of a file. -/
  separate : Bool
  inPlace : Bool
  separator : Char
  width : Nat
  /-- The files that are not open yet, with what they hold. -/
  files : List (List Char × Except Failure (List Edited))
  lines : List Edited
  name : List Char
  taken : Nat
  number : Nat
  pattern : Edited
  hold : Edited
  replaced : Bool
  /-- The commands whose ranges are open, with the line that ends a range if it is known. -/
  ranges : List (Nat × Option Nat)
  /-- What comes after the line, the last first: octets, or a line without its end. -/
  queue : List (List Char × Bool)
  output : Transcript
  written : List (List Char × Transcript)
  readers : List (List Char × List Edited)
  regex? : Option Regex
  complaints : List String
  finished : List (List Char × List Char)
  contents : Files

namespace Editor

inductive Ending where
  | shown
  | silent
  | again
  | quit (status : Nat)
  | failed (message : String)

/-! ### Lines -/

def isLast (editor : Editor) : Bool :=
  editor.lines.isEmpty && (editor.separate || editor.files.all fun (_, lines) =>
    match lines with
    | .ok lines => lines.isEmpty
    | .error _ => true)

def closed (editor : Editor) : Editor :=
  if editor.inPlace && editor.name ≠ [] then
    { editor with
      finished := (editor.name, editor.output.octets) :: editor.finished
      output := ⟨[], false⟩
      name := [] }
  else editor

def nextLine? : Nat → Editor → Editor × Option Edited
  | 0, editor => (editor, none)
  | bound + 1, editor =>
    match editor.lines with
    | line :: rest =>
      let taken := if editor.name = ['-'] then line.1.length + (if line.2 then 1 else 0) else 0
      ({ editor with
          lines := rest, number := editor.number + 1, taken := editor.taken + taken
          replaced := false }, some line)
    | [] =>
      let editor := editor.closed
      match editor.files with
      | [] => (editor, none)
      | (name, .ok lines) :: files =>
        let editor := { editor with files, lines, name }
        nextLine? bound
          (if editor.separate then { editor with number := 0, ranges := [], readers := [] } else editor)
      | (name, .error failure) :: files =>
        let shown := String.ofList name
        let message :=
          if failure = .isDirectory && !editor.inPlace then s!"read error on {shown}: Is a directory"
          else if editor.inPlace && failure = .isDirectory then
            s!"couldn't edit {shown}: not a regular file"
          else s!"can't read {shown}: {failure.reason}"
        nextLine? bound { editor with files, complaints := message :: editor.complaints }

def readLine? (editor : Editor) : Editor × Option Edited :=
  nextLine? (editor.files.length + 2) editor

def display (editor : Editor) (line : Edited) : Editor :=
  { editor with output := editor.output.line editor.separator line }

def emit (editor : Editor) (octets : List Char) : Editor :=
  { editor with output := editor.output.add octets }

def writeTo (editor : Editor) (name : List Char) (line : Edited) : Editor :=
  if name = "/dev/stdout".toList then editor.display line
  else
    let old := (editor.written.lookup name).getD ⟨[], false⟩
    { editor with written := OrderedMap.put name (old.line editor.separator line) editor.written }

def flushed (editor : Editor) : Editor :=
  editor.queue.reverse.foldl (fun editor (octets, isLine) =>
    if isLine then editor.display (octets, true) else editor.emit octets) { editor with queue := [] }

/-! ### Addresses -/

def meant (editor : Editor) (regex? : Option Regex) : Editor × Option Regex :=
  match regex?.or editor.regex? with
  | some regex => ({ editor with regex? := some regex }, some regex)
  | none => (editor, none)

/-- Whether the line has an address; nothing if an expression is missing. -/
def fits (editor : Editor) (address : Script.Address) : Editor × Option Bool :=
  match address with
  | .line n => (editor, some (editor.number == n))
  | .steps first each =>
    (editor, some (first ≤ editor.number && (editor.number - first) % each = 0))
  | .last => (editor, some editor.isLast)
  | .hit regex? =>
    let (editor, regex?) := editor.meant regex?
    (editor, regex?.map fun regex => regex.occurs editor.pattern.1.toArray)

/-- Whether a range that starts at the line goes on after it: not at all, up to a line, or until its
end is found. -/
def opens (editor : Editor) (finish : Script.Finish) : Option (Option Nat) :=
  let upTo (n : Nat) : Option (Option Nat) := if n ≤ editor.number then none else some (some n)
  match finish with
  | .address (.line n) => upTo n
  | .later n => upTo (editor.number + n)
  | .multiple 0 => none
  | .multiple n => upTo ((editor.number / n + 1) * n)
  | .address _ => some none

/-- Whether a command is for the line, without regard to its sign. -/
def covers (editor : Editor) (index : Nat) (command : Script.Command) : Editor × Option Bool :=
  match command.start? with
  | none => (editor, some true)
  | some start =>
    match command.finish? with
    | none => editor.fits start
    | some finish =>
      let close (editor : Editor) : Editor :=
        { editor with ranges := editor.ranges.filter (·.1 ≠ index) }
      match editor.ranges.lookup index with
      | some (some n) =>
        ((if n ≤ editor.number then close editor else editor), some (editor.number ≤ n))
      | some none =>
        match finish with
        | .address address =>
          match editor.fits address with
          | (editor, some true) => (close editor, some true)
          | (editor, some false) => (editor, some true)
          | (editor, none) => (editor, none)
        | _ => (editor, some true)
      | none =>
        match editor.fits start with
        | (editor, some true) =>
          match editor.opens finish with
          | none => (editor, some true)
          | some last? => ({ editor with ranges := (index, last?) :: editor.ranges }, some true)
        | found => found

/-! ### Substitutions -/

/-- A text while the case of its letters is changed. -/
structure Casing where
  output : List (List Char)
  mode : Char
  once : Char

def Casing.add (casing : Casing) (octets : List Char) : Casing :=
  let all : Char → Char :=
    if casing.mode = 'U' then Char.toUpper else if casing.mode = 'L' then Char.toLower else id
  match octets with
  | [] => casing
  | c :: rest =>
    let first :=
      if casing.once = 'u' then c.toUpper else if casing.once = 'l' then c.toLower else all c
    { casing with output := (first :: rest.map all) :: casing.output, once := 'E' }

def replacement (pieces : List Script.Piece) (text : Array Char) (found : Regex.Match) : List Char :=
  let casing := pieces.foldl (fun (casing : Casing) piece =>
    match piece with
    | .text octets => casing.add octets
    | .group 0 => casing.add (text.extract found.start found.stop).toList
    | .group n =>
      match found.groups.lookup n with
      | some (start, stop) => casing.add (text.extract start stop).toList
      | none => casing
    | .letters mode =>
      if mode = 'u' || mode = 'l' then { casing with once := mode }
      else { casing with mode, once := if mode = 'E' then 'E' else casing.once })
    (⟨[], 'E', 'E'⟩ : Casing)
  casing.output.reverse.flatten

/-- The text after a substitution, if there was one. An empty match just after another one does not
count; `before` is the end of the last one. The number bounds the matches. -/
def substituted (substitution : Script.Substitution) (regex : Regex) (text : Array Char) :
    Nat → (count origin : Nat) → (before? : Option Nat) → (output : List (List Char)) → Bool →
    Option (List Char)
  | 0, _, _, _, _, _ => none
  | bound + 1, count, origin, before?, output, changed =>
    let finish (output : List (List Char)) (place : Nat) (changed : Bool) : Option (List Char) :=
      if changed then some (((text.extract place text.size).toList :: output).reverse.flatten) else none
    if text.size < origin then finish output origin changed
    else
      match regex.find? text origin with
      | none => finish output origin changed
      | some found =>
        let before := (text.extract origin found.start).toList
        if found.start = found.stop && before? = some found.start then
          let one := (text.extract found.start (found.start + 1)).toList
          substituted substitution regex text bound count (found.start + 1) none
            (one :: before :: output) changed
        else
          let counts := substitution.number ≤ count
          let shown :=
            if counts then replacement substitution.pieces text found
            else (text.extract found.start found.stop).toList
          let output := shown :: before :: output
          if counts && !substitution.every then finish output found.stop true
          else if found.start = found.stop then
            let one := (text.extract found.stop (found.stop + 1)).toList
            substituted substitution regex text bound (count + 1) (found.stop + 1) none (one :: output)
              (changed || counts)
          else
            substituted substitution regex text bound (count + 1) found.stop (some found.stop) output
              (changed || counts)

/-! ### Commands -/

def listed (c : Char) : List Char :=
  let named := [('\x07', 'a'), ('\x08', 'b'), ('\x0c', 'f'), ('\n', 'n'), ('\r', 'r'), ('\t', 't'),
    ('\x0b', 'v'), ('\\', '\\')]
  match named.lookup c with
  | some letter => ['\\', letter]
  | none => if ' ' ≤ c && c ≤ '~' then [c] else '\\' :: padded 3 (digitsOf 8 c.toNat)

def listing (width : Nat) (line : List Char) : List Char :=
  let (found, _) := line.foldl (fun (found, used) c =>
    let shown := listed c
    if 0 < width && width - 1 < used + shown.length then
      (shown :: ['\\', '\n'] :: found, shown.length)
    else (shown :: found, used + shown.length)) (([] : List (List Char)), 0)
  found.reverse.flatten ++ ['$', '\n']

def editedLines (separator : Char) (octets : List Char) : List Edited :=
  let lines := Octets.piecesBy separator octets
  let ended := octets.getLast? = some separator
  if ended then lines.map (·, true)
  else lines.dropLast.map (·, true) ++ (lines.getLast?.map (·, false)).toList

/-- The first line of the pattern, and the rest if there are more. -/
def firstLine (editor : Editor) : List Char × Option (List Char) :=
  match Text.cutFirst? editor.separator editor.pattern.1 with
  | some (line, rest) => (line, some rest)
  | none => (editor.pattern.1, none)

def target (editor : Editor) (label : List Char) : Nat :=
  if label = [] then editor.commands.size
  else (editor.labels.lookup label).getD editor.commands.size

/-- Does what a command of one letter asks for: goes on, or ends the cycle. -/
def simple (editor : Editor) (letter : Char) : Editor × Option Ending :=
  let text := editor.pattern.1
  let go (editor : Editor) : Editor × Option Ending := (editor, none)
  let patterned (text : List Char) : Editor := { editor with pattern := (text, editor.pattern.2) }
  match letter with
  | '=' => go (editor.emit (digitsOf 10 editor.number ++ ['\n']))
  | 'd' => (editor, some .silent)
  | 'D' =>
    match editor.firstLine with
    | (_, none) => (editor, some .silent)
    | (_, some rest) => (patterned rest, some .again)
  | 'F' => go (editor.emit (editor.name ++ ['\n']))
  | 'g' => go { editor with pattern := editor.hold }
  | 'G' => go { editor with pattern := (text ++ editor.separator :: editor.hold.1, editor.hold.2) }
  | 'h' => go { editor with hold := editor.pattern }
  | 'H' => go { editor with hold := (editor.hold.1 ++ editor.separator :: text, editor.pattern.2) }
  | 'x' => go { editor with pattern := editor.hold, hold := editor.pattern }
  | 'z' => go (patterned [])
  | 'p' => go (editor.display editor.pattern)
  | 'P' =>
    match editor.firstLine with
    | (line, some _) => go (editor.display (line, true))
    | (_, none) => go (editor.display editor.pattern)
  | 'n' =>
    if editor.isLast then (editor, some .shown)
    else
      let editor := if editor.quiet then editor else editor.display editor.pattern
      match editor.flushed.readLine? with
      | (editor, some line) => go { editor with pattern := line }
      | (editor, none) => (editor, some .silent)
  | 'N' =>
    if editor.isLast then (editor, some .shown)
    else
      match editor.flushed.readLine? with
      | (editor, some line) => go { editor with pattern := (text ++ editor.separator :: line.1, line.2) }
      | (editor, none) => (editor, some .shown)
  | _ => go editor

/-- Runs the command at a place: the place of the next one, or the end of the cycle. -/
def step (editor : Editor) (index : Nat) (command : Script.Command) : Editor × (Nat ⊕ Ending) :=
  let next (editor : Editor) : Editor × (Nat ⊕ Ending) := (editor, .inl (index + 1))
  match editor.covers index command with
  | (editor, none) => (editor, .inr (.failed "no previous regular expression"))
  | (editor, some covered) =>
    if covered = command.negated then
      match command.action with
      | .block stop => (editor, .inl stop)
      | _ => next editor
    else
      match command.action with
      | .block _ => next editor
      | .label => next editor
      | .substitute substitution =>
        match editor.meant substitution.regex? with
        | (editor, none) => (editor, .inr (.failed "no previous regular expression"))
        | (editor, some regex) =>
          let text := editor.pattern.1.toArray
          match substituted substitution regex text (2 * text.size + 3) 1 0 none [] false with
          | none => next editor
          | some text =>
            let editor := { editor with pattern := (text, editor.pattern.2), replaced := true }
            let editor := if substitution.prints then editor.display editor.pattern else editor
            next (match substitution.target? with
              | some name => editor.writeTo name editor.pattern
              | none => editor)
      | .exchange pairs =>
        let text := editor.pattern.1.map fun c => (pairs.lookup c).getD c
        next { editor with pattern := (text, editor.pattern.2) }
      | .append text => next { editor with queue := (text, false) :: editor.queue }
      | .insert text => next (editor.emit text)
      | .change text =>
        let opened := !command.negated && (editor.ranges.lookup index).isSome
        (if opened then editor else editor.emit text, .inr .silent)
      | .jump letter label =>
        if letter = 'b' then (editor, .inl (editor.target label))
        else
          let goes := editor.replaced = (letter = 't')
          let editor := { editor with replaced := false }
          if goes then (editor, .inl (editor.target label)) else next editor
      | .quit letter status =>
        if letter = 'Q' then (editor, .inr (.quit status))
        else
          let editor := if editor.quiet then editor else editor.display editor.pattern
          (editor.flushed, .inr (.quit status))
      | .list width? => next (editor.emit (listing (width?.getD editor.width) editor.pattern.1))
      | .readFile name =>
        match editor.contents.read name with
        | .ok octets => next { editor with queue := (octets, false) :: editor.queue }
        | .error _ => next editor
      | .readLine name =>
        let rest := match editor.readers.lookup name with
          | some lines => lines
          | none => editedLines editor.separator ((editor.contents.read name).toOption.getD [])
        match rest with
        | [] => next editor
        | line :: rest =>
          next { editor with
            queue := (line.1, true) :: editor.queue
            readers := OrderedMap.put name rest editor.readers }
      | .writeFile first name =>
        next (editor.writeTo name (if first then (editor.firstLine.1, true) else editor.pattern))
      | .simple letter =>
        match editor.simple letter with
        | (editor, none) => next editor
        | (editor, some ending) => (editor, .inr ending)

/-- Runs commands from a place on up to the end of the cycle, unless there are too many. -/
def cycle : Nat → Nat → Editor → Editor × Option Ending
  | 0, _, editor => (editor, none)
  | bound + 1, index, editor =>
    match editor.commands[index]? with
    | none => (editor, some .shown)
    | some command =>
      match editor.step index command with
      | (editor, .inl next) => cycle bound next editor
      | (editor, .inr ending) => (editor, some ending)

def maxCommands : Nat := 200000

/-- Edits line after line: the status at the end, if there is one, and a complaint. -/
def run : Nat → Bool → Editor → Editor × Option (Nat × Option String)
  | 0, _, editor => (editor, none)
  | bound + 1, again, editor =>
    let (editor, started) :=
      if again then (editor, true)
      else
        match editor.readLine? with
        | (editor, some line) => ({ editor with pattern := line }, true)
        | (editor, none) => (editor, false)
    if !started then (editor, some (0, none))
    else
      match cycle maxCommands 0 editor with
      | (editor, none) => (editor, none)
      | (editor, some .shown) =>
        run bound false (if editor.quiet then editor else editor.display editor.pattern).flushed
      | (editor, some .silent) => run bound false editor.flushed
      | (editor, some .again) => run bound true editor.flushed
      | (editor, some (.quit status)) => (editor.closed, some (status, none))
      | (editor, some (.failed message)) => (editor, some (1, some message))

end Editor

/-! ### The tool -/

namespace Tool

def scriptTargets (commands : Array Script.Command) : List (List Char) :=
  (commands.toList.filterMap fun command =>
    match command.action with
    | .substitute substitution => substitution.target?
    | .writeFile _ name => some name
    | _ => none).eraseDups

def scriptTexts (options : Options) (names : List (List Char)) :
    Tool (List (List Char × String × Bool) × List (List Char)) := do
  let chosen := options.filter fun (c, _) => c == 'e' || c == 'f'
  if chosen = [] then
    match names with
    | [] =>
      warn "Usage: sed [OPTION]... \x7bscript-only-if-no-other-script\x7d [input-file]...\n\n"
      fail 1
      stop
    | script :: names => return ([(script, "-e expression #1", false)], names)
  else
    let numbered := chosen.zipIdx
    let texts ← numbered.mapM fun ((c, text), n) => do
      if c == 'e' then
        let count := ((numbered.filter fun ((c, _), m) => c == 'e' && m ≤ n)).length
        return (text, s!"-e expression #{count}", false)
      match ← readNamed text with
      | .ok octets =>
        let octets := if octets.getLast? = some '\n' then octets.dropLast else octets
        return (octets, s!"file {String.ofList text}", true)
      | .error failure =>
        refuse s!"couldn't open file {String.ofList text}: {failure.reason}" 4
    return (texts, names)

def readScript (texts : List (List Char × String × Bool)) (extended : Bool) : Tool Script.Progress := do
  let mut progress : Script.Progress := ⟨[], 0, 1, #[], [], [], false, extended, false⟩
  for (text, shown, byLine) in texts do
    let (result, after) := (Script.readText text shown).run.run progress
    match result with
    | .ok () => progress := after
    | .error message =>
      if byLine then refuse s!"{shown} line {after.line}: {message}" 1
      else refuse s!"{shown}, char {after.place}: {message}" 1
  match progress.blocks with
  | (_, shown) :: _ => refuse s!"{shown}, char 0: unmatched \x60\x7b'" 1
  | [] => return progress

def backupName (name suffix : List Char) : List Char :=
  let (directory, base) := match Text.cutLast? '/' name with
    | some (directory, base) => (directory ++ ['/'], base)
    | none => ([], name)
  if suffix.contains '*' then directory ++ suffix.flatMap fun c => if c = '*' then base else [c]
  else name ++ suffix

def sed : Tool Unit := do
  let (options, names) ← options "bnrszuEhiĐŞ" "efli" [("quiet", 'n'), ("silent", 'n'), ("debug", 'Đ'),
    ("expression", 'e'), ("file", 'f'), ("in-place", 'i'), ("line-length", 'l'), ("posix", 'Ş'),
    ("regexp-extended", 'E'), ("separate", 's'), ("unbuffered", 'u'), ("null-data", 'z')] 1
  let (texts, names) ← scriptTexts options names
  let script ← readScript texts (options.has 'E' || options.has 'r')
  let jumps := script.commands.toList.filterMap fun command =>
    match command.action with
    | .jump _ label => if label = [] || (script.labels.lookup label).isSome then none else some label
    | _ => none
  match jumps with
  | label :: _ => refuse s!"can't find label for jump to \x60{String.ofList label}'" 4
  | [] => pure ()
  for name in scriptTargets script.commands do
    match ← store name [] ((streamOf? name).isSome) with
    | none => pure ()
    | some failure => refuse s!"couldn't open file {String.ofList name}: {failure.reason}" 4
  let inPlace := options.has 'i'
  if inPlace && names = [] then refuse "no input files" 4
  let names := if names = [] then [['-']] else names
  let separator := if options.has 'z' then '\x00' else '\n'
  let before := (← get).taken
  let inputs ← names.mapM fun name => do
    let found ← if inPlace then read name else readNamed name
    return (name, found.map (Editor.editedLines separator))
  let width := ((options.last? 'l').bind number?).getD 70
  let starts := script.commands.toList.zipIdx.filterMap fun (command, index) =>
    match command.start?, command.finish? with
    | some (.line 0), some _ => some (index, none)
    | _, _ => none
  let editor : Editor :=
    { commands := script.commands, labels := script.labels
      quiet := options.has 'n' || script.quiet
      separate := options.has 's' || inPlace, inPlace, separator
      width := if width = 1 then 0 else width
      files := inputs, lines := [], name := [], taken := 0, number := 0, pattern := ([], true)
      hold := ([], true), replaced := false, ranges := starts, queue := [], output := ⟨[], false⟩
      written := [], readers := [], regex? := none, complaints := [], finished := []
      contents := ← files }
  let editor := if inPlace then { editor with ranges := [] } else editor
  let (editor, result?) := editor.run Editor.maxCommands false
  let fromInput := names.contains ['-'] && !inPlace
  if fromInput && (result?.any fun (status, _) => 0 < status || editor.lines ≠ [] || editor.files ≠ []) then
    if before = .nothing then takes editor.taken 4096
  else if fromInput && editor.lines ≠ [] && result?.isSome && before = .nothing then
    takes editor.taken 4096
  for message in editor.complaints.reverse do
    complain message (if message.startsWith "can't" then 2 else 4)
  for (name, written) in editor.written do
    match ← store name written.octets true with
    | none => pure ()
    | some failure => complain s!"couldn't write {String.ofList name}: {failure.reason}" 4
  for (name, octets) in editor.finished.reverse do
    let suffix := (options.last? 'i').getD []
    if suffix ≠ [] then
      let old := ((← files).read name).toOption.getD []
      let _ ← store (backupName name suffix) old false
    let _ ← store name octets false
  print editor.output.octets
  match result? with
  | none => modify fun work => { work with endless := true }
  | some (status, message?) =>
    match message? with
    | some message => complain s!"-e expression #1, char 0: {message}" 1
    | none => if 0 < status then modify fun work => { work with status }

end Tool
end Proctor.Machine
