import Proctor.Machine.Tool.Making

/-! The tools that copy, move and remove files. -/
namespace Proctor.Machine.Tool

/-! ### Targets -/

/-- Copies or moves each of some things to a target: into it, if it is a directory. -/
def eachToTarget (options : Options) (names : List (List Char))
    (act : List Char → List Char → Tool Unit) : Tool Unit := do
  if names = [] then misused "missing file operand" 1
  let files ← files
  let into (directory : List Char) (sources : List (List Char)) : Tool Unit :=
    sources.forM fun source => act source (pathIn directory source)
  let absent (directory : List Char) : Failure :=
    if files.exists? directory then .notDirectory else .missing
  match options.last? 't', names with
  | some directory, sources =>
    if files.isDirectory directory then into directory sources
    else refuse s!"target directory {Quoting.always directory}: {(absent directory).reason}" 1
  | none, [source] => misused s!"missing destination file operand after {Quoting.text source}" 1
  | none, [source, target] =>
    if files.isDirectory target && !options.has 'T' then into target [source] else act source target
  | none, names =>
    let directory := (names.getLast?).getD []
    if options.has 'T' then misused s!"extra operand {Quoting.text ((names.drop 2).headD [])}" 1
    if files.isDirectory directory then into directory names.dropLast
    else refuse s!"target {Quoting.always directory}: {(absent directory).reason}" 1

def isSpared (options : Options) (files : Files) (source target : List Char) : Bool :=
  match files.lookUp false target with
  | .error _ => false
  | .ok node =>
    options.has 'n' ||
      (options.has 'u' && (files.find source).toOption.any fun other => other.modified ≤ node.modified)

/-! ### Copying -/

def tellCopy (options : Options) (source target : List Char) : Tool Unit :=
  if options.has 'v' then
    printLine s!"{Quoting.always source} -> {Quoting.always target}".toList
  else return

def copyFile (options : Options) (node : Node) (source target : List Char) : Tool Unit := do
  let files ← files
  let mask := (← call).mask
  let kept := options.has 'p' || options.has 'a'
  let mode := if kept then node.mode else node.mode &&& (0o777 ^^^ mask)
  let old? := (files.find target).toOption
  let isNew := (files.lookUp false target).isOk = false
  if old?.any (·.content.isDirectory) then
    complain s!"cannot overwrite directory {Quoting.always target} with non-directory" 1
  else if target.getLast? = some '/' && isNew then
    complain s!"cannot create regular file {Quoting.always target}: Not a directory" 1
  else
    let content := if options.has 's' then Content.link source else node.content
    let made ← change fun files => do
      match content with
      | .link path =>
        let place ← files.locate false target
        if (files.node? place.dropLast).isNone then throw .missing
        return (if (files.node? place).isSome then files.erase place else files).put place (.link path) 0o777
      | .program name =>
        let place ← files.resolve target
        return files.put place (.program name) mode
      | content =>
        let place ← files.resolve target
        let files ← files.store place (← Files.octetsOf content) mode
        return if kept then files.setMode place mode else files
    match made with
    | none => tellCopy options source target
    | some failure =>
      let kind := if content.isLink then "symbolic link" else "regular file"
      complain s!"cannot create {kind} {Quoting.always target}: {failure.reason}" 1

/-- Copies something, and what lies below it but for the copy itself. The number bounds how deep that
goes. -/
def copyTree (options : Options) (follow : Bool) (own : List Char × List Char × Place) :
    Nat → List Char → List Char → Tool Unit
  | 0, _, _ => return
  | bound + 1, source, target => do
    let files ← files
    match files.lookUp follow source with
    | .error failure => complain s!"cannot stat {Quoting.always source}: {failure.reason}" 1
    | .ok node =>
      if isSpared options files source target && !node.content.isDirectory then return
      let from' := ((files.locate follow source).toOption).getD []
      let to' := ((files.locate true target).toOption).getD []
      if !node.content.isDirectory then
        if from' = to' then
          complain s!"{Quoting.always source} and {Quoting.always target} are the same file" 1
        else copyFile options node source target
      else
        let name := Quoting.always source
        let exists? := (files.find target).toOption
        if from' = own.2.2 then
          let whole := Quoting.always own.1
          complain s!"cannot copy a directory, {whole}, into itself, {Quoting.always own.2.1}" 1
        else if exists?.any fun other => !other.content.isDirectory then
          complain s!"cannot overwrite non-directory {Quoting.always target} with directory {name}" 1
        else
          let made ← if exists?.isSome then pure none
            else change fun files => files.makeDirectory target node.mode
          match made with
          | some failure =>
            complain s!"cannot create directory {Quoting.always target}: {failure.reason}" 1
          | none =>
            if exists?.isNone then tellCopy options source target
            let parts := ((← Tool.files).namesAt from').mergeSort fun a b => !Octets.before b a
            parts.forM fun part =>
              copyTree options (options.has 'L') own bound (withoutEndSlashes source ++ '/' :: part)
                (withoutEndSlashes target ++ '/' :: part)

def cp : Tool Unit := do
  let (options, names) ← options "abdfiHlLnPpRrsTuvxZ" "StŇ"
    [("archive", 'a'), ("force", 'f'), ("interactive", 'i'), ("link", 'l'), ("dereference", 'L'),
      ("no-clobber", 'n'), ("no-dereference", 'P'), ("recursive", 'R'), ("symbolic-link", 's'),
      ("target-directory", 't'), ("no-target-directory", 'T'), ("update", 'u'), ("verbose", 'v'),
      ("preserve", 'p'), ("parents", 'Ň')] 1
  if options.has 'n' then
    let advice := "use --update=none instead"
    warn s!"cp: warning: behavior of -n is non-portable and may change in future; {advice}\n"
  let deep := options.has 'R' || options.has 'r' || options.has 'a'
  let follow := options.has 'L' || options.has 'H' ||
    !(options.has 'P' || options.has 'd' || options.has 'a' || deep)
  eachToTarget options names fun source target => do
    let found := (← files).lookUp follow source
    if !deep && found.toOption.any (·.content.isDirectory) then
      complain s!"-r not specified; omitting directory {Quoting.always source}" 1
    else
      let place := (((← files).locate true target).toOption).getD []
      copyTree options follow (source, target, place) maxDepth source target

/-! ### Moving -/

def moveOne (options : Options) (source target : List Char) : Tool Unit := do
  let files ← files
  let first := Quoting.always source
  let second := Quoting.always target
  match files.lookUp false (withoutEndSlashes source), files.lookUp true source with
  | .error failure, _ => complain s!"cannot stat {first}: {failure.reason}" 1
  | .ok node, found =>
    let slashed := source.getLast? = some '/' && source ≠ ['/']
    if slashed && !node.content.isDirectory && !(found.toOption.any (·.content.isDirectory)) then
      complain s!"cannot stat {first}: Not a directory" 1
    else if isSpared options files source target then
      if options.has 'n' then complain s!"not replacing {second}" 1
    else
      let from' := ((files.locate false (withoutEndSlashes source)).toOption).getD []
      let directory := node.content.isDirectory
      match files.locate false (withoutEndSlashes target) with
      | .error failure => complain s!"cannot move {first} to {second}: {failure.reason}" 1
      | .ok to' =>
        let old? := files.node? to'
        let exists? := (files.find target).toOption
        if lastName source = ['.'] || lastName source = ['.', '.'] then
          complain s!"cannot move {first} to {second}: Device or resource busy" 1
        else if from' = to' then complain s!"{first} and {second} are the same file" 1
        else if directory && from'.isPrefixOf to' then
          complain s!"cannot move {first} to a subdirectory of itself, {second}" 1
        else if directory && exists?.any (fun other => !other.content.isDirectory) then
          complain s!"cannot overwrite non-directory {second} with directory {first}" 1
        else if !directory && old?.any (·.content.isDirectory) then
          complain s!"cannot overwrite directory {second} with non-directory" 1
        else if directory && (files.namesAt to') ≠ [] then
          complain s!"cannot overwrite {second}: Directory not empty" 1
        else if (files.node? to'.dropLast).isNone then
          complain s!"cannot move {first} to {second}: {Failure.missing.reason}" 1
        else if target.getLast? = some '/' && !directory then
          complain s!"cannot move {first} to {second}: Not a directory" 1
        else
          modify fun work => { work with files := work.files.move from' to' }
          if options.has 'v' then printLine s!"renamed {first} -> {second}".toList

def mv : Tool Unit := do
  let (options, names) ← options "bfinTuvZ" "St"
    [("force", 'f'), ("interactive", 'i'), ("no-clobber", 'n'), ("no-target-directory", 'T'),
      ("target-directory", 't'), ("update", 'u'), ("verbose", 'v')] 1
  eachToTarget options names (moveOne options)

/-! ### Removing -/

def tellRemoval (options : Options) (kind : String) (name : List Char) : Tool Unit :=
  if options.has 'v' then printLine s!"removed {kind}{Quoting.always name}".toList else return

/-- Removes something, and what lies below it. The number bounds how deep that goes. -/
def removeTree (options : Options) : Nat → List Char → Place → Tool Unit
  | 0, _, _ => return
  | bound + 1, name, place => do
    let files ← files
    match files.content? place with
    | none => return
    | some .directory =>
      let parts := (files.namesAt place).mergeSort fun a b => !Octets.before b a
      parts.forM fun part =>
        removeTree options bound (withoutEndSlashes name ++ '/' :: part) (place ++ [part])
      modify fun work => { work with files := work.files.erase place }
      tellRemoval options "directory " name
    | some _ =>
      modify fun work => { work with files := work.files.erase place }
      tellRemoval options "" name

def kindOf (node : Node) : String :=
  match node.content with
  | .directory => "directory"
  | .link _ => "symbolic link"
  | .pipe => "fifo"
  | .file octets => if octets = [] then "regular empty file" else "regular file"
  | _ => "regular file"

def removeOne (options : Options) (name : List Char) : Tool Unit := do
  let files ← files
  let deep := options.has 'r' || options.has 'R'
  let refused (failure : Failure) : Tool Unit :=
    complain s!"cannot remove {Quoting.always name}: {failure.reason}" 1
  let last := lastName name
  match files.lookUp false name with
  | .error .missing => if options.has 'f' then return else refused .missing
  | .error .notDirectory => if options.has 'f' then return else refused .notDirectory
  | .error failure => refused failure
  | .ok node =>
    let place := ((files.locate false name).toOption).getD []
    if name.getLast? = some '/' && !node.content.isDirectory then refused .notDirectory
    else if !node.content.isDirectory then
      match node.content with
      | .program _ => refused .denied
      | _ =>
        modify fun work => { work with files := work.files.erase place }
        tellRemoval options "" name
    else if !deep && !options.has 'd' then refused .isDirectory
    else if last = ['.'] || last = ['.', '.'] then
      complain s!"refusing to remove '.' or '..' directory: skipping {Quoting.always name}" 1
    else if deep && place = [] then
      warn "rm: it is dangerous to operate recursively on '/'\n"
      warn "rm: use --no-preserve-root to override this failsafe\n"
      fail 1
    else if deep then removeTree options maxDepth name place
    else if files.namesAt place ≠ [] then refused .notEmpty
    else
      modify fun work => { work with files := work.files.erase place }
      tellRemoval options "directory " name

/-- Asks before each removal; a line of the input that starts with a letter for yes allows it. -/
def removeAsked (options : Options) : List (List Char) → List (List Char) → Tool Unit
  | [], _ => return
  | name :: others, answers => do
    match (← files).lookUp false name with
    | .error _ =>
      removeOne options name
      removeAsked options others answers
    | .ok node =>
      warn s!"rm: remove {kindOf node} {Quoting.always name}? "
      if (answers.headD []).head?.any fun c => c == 'y' || c == 'Y' then removeOne options name
      removeAsked options others answers.tail

def rm : Tool Unit := do
  let (options, names) ← options "dfiIrRv" "Ň"
    [("dir", 'd'), ("force", 'f'), ("recursive", 'r'), ("verbose", 'v'), ("preserve-root", 'Ň'),
      ("interactive", 'i'), ("one-file-system", 'Ň')] 1
  if names = [] then
    if options.has 'f' then stop else misused "missing operand" 1
  if options.lastOf? "fi" = some 'i' then
    let answers := ((← inputOf 0).toOption).getD []
    removeAsked options names (Octets.lines answers)
  else names.forM (removeOne options)

end Proctor.Machine.Tool
