import Proctor.Machine.Tool.Listing

/-! The tools that tell what the machine, its user, its variables and its files are. -/
namespace Proctor.Machine.Tool

def takesNone (names : List (List Char)) : Tool Unit :=
  match names with
  | [] => return
  | extra :: _ => misused s!"extra operand {Quoting.text extra}" 1

/-! ### User and machine -/

def whoami : Tool Unit := do
  let (_, names) ← options "" "" [] 1
  takesNone names
  printLine "root".toList

def logname : Tool Unit := do
  let (_, names) ← options "" "" [] 1
  takesNone names
  refuse "no login name" 1

def id : Tool Unit := do
  let (options, names) ← options "agGnruzZ" ""
    [("user", 'u'), ("group", 'g'), ("groups", 'G'), ("name", 'n'), ("real", 'r'), ("zero", 'z')] 1
  names.forM fun name => do
    if name ≠ "root".toList && name ≠ ['0'] then refuse s!"{Quoting.text name}: no such user" 1
  let kinds := ["u", "g", "G"].filter fun letter => options.has (letter.toList.headD 'u')
  if 1 < kinds.length then refuse "cannot print \"only\" of more than one choice" 1
  let finish := if options.has 'z' then '\x00' else '\n'
  match kinds with
  | [] =>
    if options.has 'n' || options.has 'r' then
      refuse "cannot print only names or real IDs in default format" 1
    if options.has 'z' then refuse "option --zero not permitted in default format" 1
    printLine "uid=0(root) gid=0(root) groups=0(root)".toList
  | _ => print ((if options.has 'n' then "root" else "0").toList ++ [finish])

def groups : Tool Unit := do
  let (_, _) ← options "" "" [] 1
  printLine "root".toList

def uname : Tool Unit := do
  let (options, names) ← options "asnrvmpio" ""
    [("all", 'a'), ("kernel-name", 's'), ("nodename", 'n'), ("kernel-release", 'r'),
      ("kernel-version", 'v'), ("machine", 'm'), ("processor", 'p'), ("hardware-platform", 'i'),
      ("operating-system", 'o')] 1
  takesNone names
  let parts := [('s', "Linux"), ('n', "localhost"), ('r', "6.8.0"), ('v', "#1 SMP"), ('m', "x86_64"),
    ('p', "x86_64"), ('i', "x86_64"), ('o', "GNU/Linux")]
  let wanted := parts.filter fun (letter, _) => options.has 'a' || options.has letter
  let wanted := if wanted = [] then parts.take 1 else wanted
  printLine (spaced (wanted.map fun (_, text) => text.toList))

def hostname : Tool Unit := do
  let (_, _) ← options "aAbdfFiIsyv" "" [] 1
  printLine "localhost".toList

def arch : Tool Unit := do
  let (_, names) ← options "" "" [] 1
  takesNone names
  printLine "x86_64".toList

def nproc : Tool Unit := do
  let (options, names) ← options "a" "i" [("all", 'a'), ("ignore", 'i')] 1
  takesNone names
  let spared := ((options.last? 'i').bind number?).getD 0
  printLine (digitsOf 10 (max 1 (4 - spared)))

def tty : Tool Unit := do
  let (options, names) ← options "s" "" [("silent", 's'), ("quiet", 's')] 2
  match names with
  | [] => pure ()
  | extra :: _ => misused s!"extra operand {Quoting.text extra}" 2
  if !options.has 's' then printLine "not a tty".toList
  fail 1

def sync : Tool Unit := do
  let (_, names) ← options "df" "" [("data", 'd'), ("file-system", 'f')] 1
  let files ← files
  names.forM fun name => do
    match files.find name with
    | .ok _ => pure ()
    | .error failure => complain s!"error opening {Quoting.always name}: {failure.reason}" 1

/-! ### Variables and programs -/

def printenv : Tool Unit := do
  let (options, names) ← optionsFrom ['0'] [] [("null", '0')] true 2 (← args)
  let finish := if options.has '0' then '\x00' else '\n'
  let environment := (← call).environment
  if names = [] then
    environment.forM fun (name, value) => print (name ++ '=' :: value ++ [finish])
  else
    names.forM fun name => do
      match environment.lookup name with
      | some value => print (value ++ [finish])
      | none => fail 1

def which : Tool Unit := do
  let (options, names) ← options "as" "" [("all", 'a')] 2
  let files ← files
  let searched := ((← call).environment.lookup "PATH".toList).getD []
  let runs (path : List Char) : Bool := match files.find path with
    | .ok ⟨.program _, _, _⟩ => true
    | .ok ⟨.file _, mode, _⟩ => mode &&& 0o111 ≠ 0
    | _ => false
  if names = [] then fail 1
  names.forM fun name => do
    let paths := if name.contains '/' then [name]
      else (Text.fields ':' searched).map fun directory =>
        (if directory = [] then ['.'] else directory) ++ '/' :: name
    let found := paths.filter runs
    if found = [] then fail 1
    if !options.has 's' then (if options.has 'a' then found else found.take 1).forM printLine

/-! ### Files -/

def kindText (node : Node) : String :=
  match node.content with
  | .directory => "directory"
  | .link _ => "symbolic link"
  | .pipe => "fifo"
  | .file octets => if octets = [] then "regular empty file" else "regular file"
  | .program _ => "regular file"
  | _ => "character special file"

def toldOf (files : Files) (name : List Char) (place : Place) (node : Node) (letter : Char) : String :=
  match letter with
  | 'n' => String.ofList name
  | 'N' =>
    match node.content with
    | .link target => s!"{Quoting.always name} -> {Quoting.always target}"
    | _ => Quoting.always name
  | 's' => toString node.size
  | 'a' => String.ofList (digitsOf 8 node.mode)
  | 'A' => String.ofList node.permissions
  | 'F' => kindText node
  | 'U' => "root"
  | 'G' => "root"
  | 'u' => "0"
  | 'g' => "0"
  | 'h' => toString (files.linkCount place node)
  | 'b' => toString (node.blocks * 2)
  | 'B' => "512"
  | 'o' => "4096"
  | 'f' =>
    let kind := if node.content.isDirectory then 0x4000 else if node.content.isLink then 0xa000
      else if node.content.isDevice then 0x2000 else if node.content = .pipe then 0x1000 else 0x8000
    String.ofList (Nat.toDigits 16 (kind + node.mode))
  | 'i' => toString (place.flatten.length + 100)
  | 'm' => "/"
  | 'Y' => toString node.modified
  | 'X' => toString node.modified
  | 'Z' => toString node.modified
  | '%' => "%"
  | _ => "?"

/-- A format with the letters after percent signs replaced, and escapes too if `escaped` holds. The
number bounds the octets. -/
def toldIn (escaped : Bool) (told : Char → String) : Nat → List Char → List Char
  | 0, format => format
  | _, [] => []
  | bound + 1, '%' :: rest =>
    let flags := rest.takeWhile fun c => "-0# +".toList.contains c
    let digits := (rest.drop flags.length).takeWhile isDecimalDigit
    match rest.drop (flags.length + digits.length) with
    | letter :: after =>
      let text := (told letter).toList
      let width := ofDigits 10 digits
      let text := if flags.contains '-' then leftAligned width text
        else if flags.contains '0' then List.replicate (width - text.length) '0' ++ text
        else rightAligned width text
      text ++ toldIn escaped told bound after
    | [] => ['%']
  | bound + 1, '\\' :: 'n' :: rest =>
    (if escaped then ['\n'] else ['\\', 'n']) ++ toldIn escaped told bound rest
  | bound + 1, '\\' :: 't' :: rest =>
    (if escaped then ['\t'] else ['\\', 't']) ++ toldIn escaped told bound rest
  | bound + 1, c :: rest => c :: toldIn escaped told bound rest

def stat : Tool Unit := do
  let (options, names) ← options "Lft" "cĆ"
    [("dereference", 'L'), ("file-system", 'f'), ("format", 'c'), ("printf", 'Ć'), ("terse", 't')] 1
  if names = [] then misused "missing operand" 1
  let usual := "  File: %N\n  Size: %s\tBlocks: %b\tIO Block: %o   %F\nAccess: (%a/%A)".toList
  let format := ((options.last? 'c').orElse fun _ => options.last? 'Ć').getD usual
  let escaped := options.has 'Ć'
  let files ← files
  names.forM fun name => do
    let follow := options.has 'L'
    match nodeAt (← call) files follow name with
    | .error failure =>
      complain s!"cannot statx {Quoting.always name}: {failure.reason}" 1
    | .ok node =>
      let place := ((files.locate follow name).toOption).getD []
      let octets := toldIn escaped (toldOf files name place node) (format.length + 1) format
      if escaped then print octets else printLine octets

end Proctor.Machine.Tool
