import Proctor.Machine.Tool.Basic

/-! The tools that take paths apart, or find out where they lead. -/
namespace Proctor.Machine.Tool

/-! ### Parts of paths -/

/-- A path without slashes at its end, one of which stays if there is nothing else. -/
def withoutEndSlashes (path : List Char) : List Char :=
  let rest := (path.reverse.dropWhile (· == '/')).reverse
  if rest = [] && path ≠ [] then ['/'] else rest

def lastName (path : List Char) : List Char :=
  let path := withoutEndSlashes path
  if path = ['/'] then path else ((Text.fields '/' path).getLast?).getD []

def directoryPart (path : List Char) : List Char :=
  let path := withoutEndSlashes path
  let start := (path.reverse.dropWhile (· ≠ '/')).reverse
  if path = ['/'] then path else if start = [] then ['.'] else withoutEndSlashes start

def withoutEnding (ending name : List Char) : List Char :=
  if ending.isSuffixOf name && name ≠ ending then name.take (name.length - ending.length) else name

def basename : Tool Unit := do
  let (options, names) ← optionsFrom "az".toList "s".toList
    [("multiple", 'a'), ("suffix", 's'), ("zero", 'z')] true 1 (← args)
  let finish := if options.has 'z' then '\x00' else '\n'
  let display (ending name : List Char) : Tool Unit :=
    print (withoutEnding ending (lastName name) ++ [finish])
  if options.has 'a' || options.has 's' then
    if names = [] then misused "missing operand" 1
    names.forM (display ((options.last? 's').getD []))
  else
    match names with
    | [] => misused "missing operand" 1
    | [name] => display [] name
    | [name, ending] => display ending name
    | _ :: _ :: extra :: _ => misused s!"extra operand {Quoting.text extra}" 1

def dirname : Tool Unit := do
  let (options, names) ← optionsFrom "z".toList [] [("zero", 'z')] true 1 (← args)
  if names = [] then misused "missing operand" 1
  let finish := if options.has 'z' then '\x00' else '\n'
  names.forM fun name => print (directoryPart name ++ [finish])

/-! ### Places of paths -/

/-- How much of a path has to exist. -/
inductive Existing where
  | all
  | most
  | nothing
deriving DecidableEq

def wholePath (existing : Existing) (path : List Char) : Tool (Except Failure (List Char)) := do
  let files ← files
  match files.resolve path, existing with
  | .ok place, .all =>
    return if (files.node? place).isSome then .ok (Files.pathOf place) else .error .missing
  | .ok place, _ => return .ok (Files.pathOf place)
  | .error .zeroByte, _ => return .error .zeroByte
  | .error _, .nothing =>
    return if path = [] then .error .missing else .ok (Files.pathOf (files.placeOf path))
  | .error failure, _ => return .error failure

def readlink : Tool Unit := do
  let (options, names) ← options "femnqsvz" ""
    [("canonicalize", 'f'), ("canonicalize-existing", 'e'), ("canonicalize-missing", 'm'),
      ("no-newline", 'n'), ("quiet", 'q'), ("silent", 's'), ("verbose", 'v'), ("zero", 'z')] 1
  if names = [] then misused "missing operand" 1
  let finish := if options.has 'z' then ['\x00']
    else if options.has 'n' && names.length = 1 then [] else ['\n']
  let files ← files
  names.forM fun name => do
    let found ← match options.lastOf? "fem" with
      | some 'f' => wholePath .most name
      | some 'e' => wholePath .all name
      | some _ => wholePath .nothing name
      | none =>
        match files.lookUp false name with
        | .ok ⟨.link target, _, _⟩ => pure (.ok target)
        | .ok _ => pure (.error .invalid)
        | .error failure => pure (.error failure)
    match found with
    | .ok path => print (path ++ finish)
    | .error failure => if options.has 'v' then complain (plainly name failure) 1 else fail 1

def wayTo (directory place : Place) : List Char :=
  let common := ((directory.zip place).takeWhile fun (a, b) => a = b).length
  let up := List.replicate (directory.length - common) ['.', '.']
  let parts := up ++ place.drop common
  if parts = [] then ['.'] else ['/'].intercalate parts

def realpath : Tool Unit := do
  let (options, names) ← options "eLmPqsz" "ŘB"
    [("canonicalize-existing", 'e'), ("canonicalize-missing", 'm'), ("logical", 'L'), ("physical", 'P'),
      ("quiet", 'q'), ("strip", 's'), ("no-symlinks", 's'), ("zero", 'z'), ("relative-to", 'Ř'),
      ("relative-base", 'B')] 1
  if names = [] then misused "missing operand" 1
  let files ← files
  let existing : Existing :=
    if options.has 'e' then .all else if options.has 'm' then .nothing else .most
  names.forM fun name => do
    let found ← if options.has 's' then
        pure (if name = [] then .error .missing else .ok (Files.pathOf (files.placeOf name)))
      else wholePath existing name
    match found with
    | .ok path =>
      let path := match options.last? 'Ř' with
        | some base =>
          let base := ((files.resolve base).toOption).getD (files.placeOf base)
          wayTo base (files.placeOf path)
        | none => path
      print (path ++ [if options.has 'z' then '\x00' else '\n'])
    | .error failure => if options.has 'q' then fail 1 else complain (plainly name failure) 1

def pwd : Tool Unit := do
  let (options, _) ← options "LP" "" [("logical", 'L'), ("physical", 'P')] 1
  let files ← files
  let current := Files.pathOf files.current
  let told := (OrderedMap.get? "PWD".toList (← call).environment).getD []
  let right := told.head? = some '/' && (files.resolve told).toOption = some files.current
  printLine (if options.lastOf? "LP" = some 'L' && right then told else current)

end Proctor.Machine.Tool
