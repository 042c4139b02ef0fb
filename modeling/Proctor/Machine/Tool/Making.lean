import Proctor.Machine.Tool.Naming

/-! The tools that make files, directories and links, and set permissions. -/
namespace Proctor.Machine.Tool

/-! ### Permissions -/

/-- The permissions after a change in letters. Without letters for whom, the mask is left out. -/
def changedMode (mask : Nat) (directory : Bool) (mode : Nat) (text : List Char) : Option Nat :=
  let whom := text.takeWhile fun c => "ugoa".toList.contains c
  let rest := text.drop whom.length
  let all := whom = [] || whom.contains 'a'
  let shares (c : Char) : Bool := all || whom.contains c
  let users : Nat := (if shares 'u' then 0o700 else 0) + (if shares 'g' then 0o070 else 0) +
    (if shares 'o' then 0o007 else 0)
  let kept : Nat := if whom = [] then 0o777 &&& (0o777 ^^^ mask) else 0o777
  let rec apply : Nat → Nat → List Char → Option Nat
    | 0, _, _ => none
    | _, mode, [] => some mode
    | bound + 1, mode, operator :: rest =>
      if !("+-=".toList.contains operator) then none
      else
        let letters := rest.takeWhile fun c => "rwxXstugo".toList.contains c
        let after := rest.drop letters.length
        let runs := directory || mode &&& 0o111 ≠ 0
        let bits := letters.foldl (fun bits c => bits ||| match c with
          | 'r' => 0o444
          | 'w' => 0o222
          | 'x' => 0o111
          | 'X' => if runs then 0o111 else 0
          | 'u' => mode / 64 % 8 * 0o111
          | 'g' => mode / 8 % 8 * 0o111
          | 'o' => mode % 8 * 0o111
          | _ => 0) 0
        let bits := bits &&& users &&& kept
        let special := (if letters.contains 's' then
            (if shares 'u' then 0o4000 else 0) + (if shares 'g' then 0o2000 else 0) else 0) +
          (if letters.contains 't' && all then 0o1000 else 0)
        let mode := match operator with
          | '+' => mode ||| bits ||| special
          | '-' => mode &&& (0o7777 ^^^ (bits ||| special))
          | _ => (mode &&& (0o7777 ^^^ users)) ||| bits ||| special
        apply bound mode after
  if rest = [] then none else apply (rest.length + 1) mode rest

def modeOf? (mask : Nat) (directory : Bool) (mode : Nat) (text : List Char) : Option Nat :=
  if text ≠ [] && text.all isOctalDigit then
    let n := ofDigits 8 text
    if n ≤ 0o7777 then some n else none
  else (Text.fields ',' text).foldlM (changedMode mask directory) mode
where
  isOctalDigit (c : Char) : Bool := '0' ≤ c && c ≤ '7'

def modeDigits (mode : Nat) : String := String.ofList (padded 4 (digitsOf 8 mode))

def modeLetters (mode : Nat) : String :=
  String.ofList ((List.range 9).map fun i =>
    if mode / Nat.pow 2 (8 - i) % 2 = 1 then "rwxrwxrwx".toList.getD i '-' else '-')

/-- Sets the permissions of what is at a place, and below it if `deep` holds. -/
def setModes (options : Options) (text : List Char) (files : Files) :
    List (List Char × Place) → Tool Unit
  | [] => return
  | (name, place) :: others => do
    match files.node? place with
    | none => setModes options text files others
    | some node =>
      let mask := (← call).mask
      match modeOf? mask node.content.isDirectory node.mode text with
      | none => misused s!"invalid mode: {Quoting.text text}" 1
      | some mode =>
        modify fun work => { work with files := work.files.setMode place mode }
        let shown (n : Nat) : String := s!"{modeDigits n} ({modeLetters n})"
        if mode ≠ node.mode && (options.has 'v' || options.has 'c') then
          let change := s!"from {shown node.mode} to {shown mode}"
          printLine s!"mode of {Quoting.always name} changed {change}".toList
        else if options.has 'v' then
          printLine s!"mode of {Quoting.always name} retained as {shown mode}".toList
        setModes options text files others

def treeAt (files : Files) : Nat → List Char → Place → List (List Char × Place)
  | 0, _, _ => []
  | bound + 1, name, place =>
    let below := match files.content? place with
      | some .directory =>
        (files.namesAt place).flatMap fun part =>
          treeAt files bound (withoutEndSlashes name ++ '/' :: part) (place ++ [part])
      | _ => []
    (name, place) :: below

def maxDepth : Nat := 500

def isModeWord (word : List Char) : Bool :=
  match word with
  | '-' :: c :: rest => (c :: rest).all fun c => "rwxXst,+-=ugoa01234567".toList.contains c
  | _ => false

def chmod : Tool Unit := do
  let words ← args
  let modeWord? := (words.takeWhile (· ≠ "--".toList)).find? isModeWord
  let others := match modeWord? with
    | some word => words.erase word
    | none => words
  let (options, names) ← optionsFrom "cfRv".toList "Ř".toList
    [("changes", 'c'), ("silent", 'f'), ("quiet", 'f'), ("verbose", 'v'), ("recursive", 'R'),
      ("reference", 'Ř')] false 1 others
  let files ← files
  let reference? := (options.last? 'Ř').bind fun path => (files.find path).toOption
  let given? := match reference?, modeWord? with
    | some node, _ => some (digitsOf 8 node.mode)
    | none, found? => found?
  let (text, names) ← match given?, names with
    | some text, names => pure (text, names)
    | none, [] => misused "missing operand" 1
    | none, text :: names => pure (text, names)
  if names = [] then misused s!"missing operand after {Quoting.text text}" 1
  if (modeOf? 0 false 0 text).isNone then misused s!"invalid mode: {Quoting.text text}" 1
  names.forM fun name => do
    match files.resolve name with
    | .error failure =>
      if options.has 'f' then fail 1
      else complain s!"cannot access {Quoting.always name}: {failure.reason}" 1
    | .ok place =>
      if (files.node? place).isNone then
        if options.has 'f' then fail 1
        else complain s!"cannot access {Quoting.always name}: {Failure.missing.reason}" 1
      else
        let all := if options.has 'R' then treeAt files maxDepth name place else [(name, place)]
        setModes options text files all

/-! ### Directories -/

def prefixesOf (path : List Char) : List (List Char) :=
  let parts := Text.fields '/' (withoutEndSlashes path)
  let all := (List.range parts.length).map fun n => ['/'].intercalate (parts.take (n + 1))
  all.filter fun path => path ≠ [] && path.getLast? ≠ some '/'

def makeDirectory (options : Options) (mode : Nat) (path : List Char) : Tool (Option Failure) := do
  match ← change fun files => files.makeDirectory path mode with
  | none =>
    if options.has 'v' then
      printLine s!"{(← call).name}: created directory {Quoting.always path}".toList
    return none
  | some failure => return some failure

def makeAll (options : Options) (mode usual : Nat) : List (List Char) → Tool Unit
  | [] => return
  | path :: others => do
    if (← files).isDirectory path then makeAll options mode usual others
    else
      match ← makeDirectory options (if others = [] then mode else usual) path with
      | none => makeAll options mode usual others
      | some failure =>
        let failure := if others ≠ [] && failure = .present then .notDirectory else failure
        complain s!"cannot create directory {Quoting.always path}: {failure.reason}" 1

def mkdir : Tool Unit := do
  let (options, names) ← options "pvZ" "m"
    [("parents", 'p'), ("verbose", 'v'), ("mode", 'm'), ("context", 'Z')] 1
  if names = [] then misused "missing operand" 1
  let mask := (← call).mask
  let usual := 0o777 &&& (0o777 ^^^ mask)
  let mode ← match options.last? 'm' with
    | none => pure usual
    | some text =>
      match modeOf? mask true 0o777 text with
      | some mode => pure mode
      | none => refuse s!"invalid mode {Quoting.text text}" 1
  names.forM fun name => do
    if options.has 'p' && name ≠ [] then makeAll options mode usual (prefixesOf name)
    else
      match ← makeDirectory options mode name with
      | none => pure ()
      | some failure => complain s!"cannot create directory {Quoting.always name}: {failure.reason}" 1

def rmdir : Tool Unit := do
  let (options, names) ← options "pv" ""
    [("parents", 'p'), ("verbose", 'v'), ("ignore-fail-on-non-empty", 'Ĩ')] 1
  if names = [] then misused "missing operand" 1
  names.forM fun name => do
    let paths := if options.has 'p' then (prefixesOf name).reverse else [name]
    let _ ← paths.foldlM (fun (going : Bool) path => do
      if !going then return false
      if options.has 'v' then
        printLine s!"{(← call).name}: removing directory, {Quoting.always path}".toList
      match ← change fun files => files.removeDirectory path with
      | none => return true
      | some failure =>
        let failure := if (← files).isDirectory path || failure ≠ .missing then failure else .missing
        if !(failure = .notEmpty && options.has 'Ĩ') then
          let act := if path = name then "failed to remove" else "failed to remove directory"
          complain s!"{act} {Quoting.always path}: {failure.reason}" 1
        return false) true

/-! ### Files -/

def touch : Tool Unit := do
  let (options, names) ← options "acfhm" "drt"
    [("no-create", 'c'), ("date", 'd'), ("no-dereference", 'h'), ("reference", 'r'), ("time", 'a')] 1
  if names = [] then misused "missing file operand" 1
  match options.last? 'r' with
  | some path =>
    match (← files).find path with
    | .ok _ => pure ()
    | .error failure =>
      refuse s!"failed to get attributes of {Quoting.always path}: {failure.reason}" 1
  | none => pure ()
  let mode := 0o666 &&& (0o777 ^^^ (← call).mask)
  names.forM fun name => do
    let files ← files
    match files.find name with
    | .ok _ =>
      let _ ← change fun files => return files.touch (← files.resolve name)
    | .error .missing =>
      if !options.has 'c' then
        if name.getLast? = some '/' then
          complain s!"setting times of {Quoting.always name}: {Failure.missing.reason}" 1
        else
          match ← change fun files => do files.store (← files.resolve name) [] mode with
          | none => pure ()
          | some failure => complain s!"cannot touch {Quoting.always name}: {failure.reason}" 1
    | .error failure => complain s!"cannot touch {Quoting.always name}: {failure.reason}" 1

def changedSize? (old : Nat) (text : List Char) : Option Nat :=
  let round (n : Nat) (up : Bool) : Option Nat :=
    if n = 0 then none else some (if up then (old + n - 1) / n * n else old / n * n)
  match text with
  | '+' :: rest => (sized? rest).map (old + ·)
  | '-' :: rest => (sized? rest).map (old - ·)
  | '<' :: rest => (sized? rest).map (min old)
  | '>' :: rest => (sized? rest).map (max old)
  | '/' :: rest => (sized? rest).bind (round · false)
  | '%' :: rest => (sized? rest).bind (round · true)
  | rest => sized? rest

def truncate : Tool Unit := do
  let (options, names) ← options "co" "rs"
    [("no-create", 'c'), ("io-blocks", 'o'), ("reference", 'r'), ("size", 's')] 1
  let files ← files
  let text ← match options.last? 's', options.last? 'r' with
    | some text, _ => pure (text.dropWhile (· == ' '))
    | none, some path =>
      match files.find path with
      | .ok node => pure (digitsOf 10 node.size)
      | .error failure => refuse s!"cannot stat {Quoting.always path}: {failure.reason}" 1
    | none, none => misused "you must specify either '--size' or '--reference'" 1
  if (changedSize? 0 text).isNone then refuse s!"Invalid number: {Quoting.text text}" 1
  if names = [] then misused "missing file operand" 1
  let mode := 0o666 &&& (0o777 ^^^ (← call).mask)
  names.forM fun name => do
    let old? := (files.read name).toOption
    if old?.isSome || !options.has 'c' then
      let old := old?.getD []
      let size := (changedSize? old.length text).getD 0
      let new := old.take size ++ List.replicate (size - old.length) '\x00'
      match ← change fun files => do files.store (← files.resolve name) new mode with
      | none => pure ()
      | some failure =>
        complain s!"cannot open {Quoting.always name} for writing: {failure.reason}" 1

def mkfifo : Tool Unit := do
  let (_, names) ← options "Z" "m" [("mode", 'm')] 1
  if names = [] then misused "missing operand" 1
  let mode := 0o666 &&& (0o777 ^^^ (← call).mask)
  names.forM fun name => do
    let made ← change fun files => do
      let place ← files.resolve name
      if (files.node? place).isSome then throw .present
      return files.put place .pipe mode
    match made with
    | none => pure ()
    | some failure => complain s!"cannot create fifo {Quoting.always name}: {failure.reason}" 1

def nameChars : List Char :=
  "abcdefghijklmnopqrstuvwxyzABCDEFGHIJKLMNOPQRSTUVWXYZ0123456789".toList

def nameOf (seed : Nat) : Nat → List Char
  | 0 => []
  | count + 1 =>
    let next := (seed * 25214903917 + 11) % 281474976710656
    nameChars.getD (next / 65536 % 62) 'x' :: nameOf next count

def mktemp : Tool Unit := do
  let (options, names) ← options "dqtuV" "pš"
    [("directory", 'd'), ("dry-run", 'u'), ("quiet", 'q'), ("suffix", 'š'), ("tmpdir", 'p')] 1
  let (template, given) ← match names with
    | [] => pure ("tmp.XXXXXXXXXX".toList, false)
    | [name] => pure (name, true)
    | _ => misused "too many templates" 1
  let ending := (options.last? 'š').getD []
  let start := (template.reverse.dropWhile (· ≠ 'X')).reverse
  let tail := template.drop start.length ++ ending
  let count := (start.reverse.takeWhile (· == 'X')).length
  if count < 3 then refuse s!"too few X's in template {Quoting.text template}" 1
  let home := (((← call).environment.lookup "TMPDIR".toList).filter (· ≠ [])).getD "/tmp".toList
  let directory := match options.last? 'p' with
    | some path => if path = [] then home else path
    | none => home
  let inDirectory := !given || options.has 'p' || options.has 't'
  let body := start.take (start.length - count)
  let files ← files
  let seed := files.changes * 7919 + files.nodes.length
  let name := body ++ nameOf seed count ++ tail
  let path := if inDirectory then withoutEndSlashes directory ++ '/' :: name else name
  let act := if options.has 'd' then "directory" else "file"
  let shown := if inDirectory then withoutEndSlashes directory ++ '/' :: template else template
  let made ← if options.has 'u' then pure none
    else if options.has 'd' then change fun files => files.makeDirectory path 0o700
    else change fun files => do files.store (← files.resolve path) [] 0o600
  match made with
  | none => printLine path
  | some failure =>
    if options.has 'q' then fail 1
    else complain s!"failed to create {act} via template {Quoting.always shown}: {failure.reason}" 1

/-! ### Links -/

def pathIn (directory name : List Char) : List Char :=
  let start := if directory.getLast? = some '/' then directory else directory ++ ['/']
  start ++ lastName name

def makeLink (options : Options) (target path : List Char) : Tool Unit := do
  let symbolic := options.has 's'
  let kind := if symbolic then "symbolic link" else "hard link"
  let files ← files
  let found? := (files.lookUp true target).toOption
  let arrow := if symbolic then "->" else "=>"
  let made ← change fun files => do
    let place ← files.locate false path
    if (files.node? place).isSome then
      if !options.has 'f' || (files.content? place).any Content.isDirectory then throw .present
    let files := if (files.node? place).isSome then files.erase place else files
    if (files.node? place.dropLast).isNone then throw .missing
    if symbolic then return files.put place (.link target) 0o777
    else
      match found? with
      | some node => return files.put place node.content node.mode
      | none => throw .missing
  match made with
  | none =>
    if options.has 'v' then
      printLine s!"{Quoting.always path} {arrow} {Quoting.always target}".toList
  | some failure =>
    let way := if failure = .present || symbolic then "" else s!" {arrow} {Quoting.always target}"
    complain s!"failed to create {kind} {Quoting.always path}{way}: {failure.reason}" 1

def linkOne (options : Options) (target path : List Char) : Tool Unit := do
  if options.has 's' then makeLink options target path
  else
    match (← files).lookUp true target with
    | .error failure => complain s!"failed to access {Quoting.always target}: {failure.reason}" 1
    | .ok node =>
      if node.content.isDirectory then
        complain s!"{String.ofList target}: hard link not allowed for directory" 1
      else makeLink options target path

def ln : Tool Unit := do
  let (options, names) ← options "bdfFiLnPrsTv" "St"
    [("force", 'f'), ("symbolic", 's'), ("no-dereference", 'n'), ("no-target-directory", 'T'),
      ("target-directory", 't'), ("verbose", 'v'), ("relative", 'r'), ("interactive", 'i')] 1
  if names = [] then misused "missing file operand" 1
  let files ← files
  let into (directory : List Char) (targets : List (List Char)) : Tool Unit :=
    targets.forM fun target => linkOne options target (pathIn directory target)
  match options.last? 't', names with
  | some directory, names => into directory names
  | none, [target] =>
    if options.has 'T' then
      misused s!"missing destination file operand after {Quoting.text target}" 1
    else into ['.'] [target]
  | none, [target, path] =>
    let linked := options.has 'n' && (files.lookUp false path).toOption.any (·.content.isLink)
    if files.isDirectory path && !options.has 'T' && !linked then into path [target]
    else linkOne options target path
  | none, names =>
    let directory := (names.getLast?).getD []
    if files.isDirectory directory then into directory names.dropLast
    else
      let failure := if files.exists? directory then Failure.notDirectory else .missing
      refuse s!"target {Quoting.always directory}: {failure.reason}" 1

end Proctor.Machine.Tool
