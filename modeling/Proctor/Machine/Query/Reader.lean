import Proctor.Machine.Query.Basic

/-! How the words of a command spell a query: the signs that the words stand for, and the query that
the signs spell. -/
namespace Proctor.Machine.Query

open Tool (complain refuse)

/-- How a tree is walked, and the programs that run on many files, the last first. -/
structure Plan where
  /-- Whether links are followed: everywhere, or where the walk starts. -/
  follows : Bool
  followsFirst : Bool
  deepFirst : Bool
  least : Nat
  most? : Option Nat
  style : Regex.Style
  collectors : List (Bool × List (List Char))

/-- How closely something holds two queries together. -/
inductive Rank where
  | list
  | either
  | both
deriving DecidableEq, Repr

def Rank.number : Rank → Nat
  | .list => 1
  | .either => 2
  | .both => 3

def Rank.join : Rank → Query → Query → Query
  | .list => .sequence
  | .either => .either
  | .both => .both

/-- A sign of a query. A parenthesis may be put in around the whole of it. -/
inductive Sign where
  | query (query : Query)
  | negation (name : String)
  | joint (name : String) (rank : Rank)
  | opening (added : Bool)
  | closing (added : Bool)

/-! ### Texts -/

def bound? (text : List Char) : Option Bound :=
  match text with
  | '+' :: digits => (Tool.number? digits).map .above
  | '-' :: digits => (Tool.number? digits).map .below
  | digits => (Tool.number? digits).map .exactly

def sizeTest (text : List Char) : Except String Test :=
  match text.getLast? with
  | none => .error "invalid null argument to -size"
  | some last =>
    let unit? : Option Nat := match last with
      | 'b' => some 512
      | 'c' => some 1
      | 'w' => some 2
      | 'k' => some 1024
      | 'M' => some 1048576
      | 'G' => some 1073741824
      | _ => none
    match unit?, isDecimalDigit last with
    | none, false => .error s!"invalid -size type \x60{last}'"
    | _, _ =>
      match bound? (if unit?.isSome then text.dropLast else text) with
      | some bound => .ok (.size bound (unit?.getD 512))
      | none => .error s!"Invalid argument \x60{String.ofList text}' to -size"

def kindsIn (name : String) (text : List Char) : Except String (List Char) := do
  if text = [] then throw s!"Arguments to {name} should contain at least one letter"
  let parts := Text.fields ',' text
  parts.mapM fun
    | [] => throw (s!"Last file type in list argument to {name} is missing, " ++
        "i.e., list is ending on: ','")
    | [letter] =>
      if "bcdpflsD".toList.contains letter then return letter
      else throw s!"Unknown argument to {name}: {letter}"
    | letter :: _ =>
      if "bcdpflsD".toList.contains letter then
        throw s!"Must separate multiple arguments to {name} using: ','"
      else throw s!"Unknown argument to {name}: {letter}"

def modeTest (text : List Char) : Except String Test :=
  let (share, rest) : Share × List Char := match text with
    | '-' :: rest => (.all, rest)
    | '/' :: rest => (.any, rest)
    | rest => (.exactly, rest)
  match Tool.modeOf? 0 false 0 rest with
  | some mode => .ok (.mode share mode)
  | none => .error s!"invalid mode {Quoting.text text}"

def styleNamed? (kind : String) : Option Regex.Style :=
  if ["posix-extended", "egrep", "posix-egrep", "awk", "gnu-awk", "posix-awk"].contains kind then
    some ⟨true, true, false⟩
  else if ["findutils-default", "emacs", "ed", "sed", "grep", "posix-basic",
      "posix-minimal-basic"].contains kind then
    some ⟨false, true, false⟩
  else none

def styleNames : String :=
  "'findutils-default', 'ed', 'emacs', 'gnu-awk', 'grep', 'posix-awk', 'awk', " ++
    "'posix-basic', 'posix-egrep', 'egrep', 'posix-extended', 'posix-minimal-basic', 'sed'"

/-- The pieces of a format; complaints about it are the second part. The number bounds the pieces. -/
def piecesOf : Nat → List Char → List Piece × List String
  | 0, _ => ([], [])
  | _, [] => ([], [])
  | bound + 1, '\\' :: rest =>
    let put (octets : List Char) (after : List Char) : List Piece × List String :=
      let (pieces, faults) := piecesOf bound after
      (.text octets :: pieces, faults)
    match rest with
    | [] =>
      ([.text ['\\']], ["warning: escape \x60\\' followed by nothing at all"])
    | 'c' :: _ => ([], [])
    | c :: after =>
      let digits := (rest.take 3).takeWhile fun d => '0' ≤ d && d ≤ '7'
      if digits ≠ [] then put [Char.ofNat (ofDigits 8 digits % 256)] (rest.drop digits.length)
      else
        match ([('a', '\x07'), ('b', '\x08'), ('f', '\x0c'), ('n', '\n'), ('r', '\r'), ('t', '\t'),
          ('v', '\x0b'), ('\\', '\\')] : List (Char × Char)).lookup c with
        | some meant => put [meant] after
        | none =>
          let (pieces, faults) := put ['\\', c] after
          (pieces, ("warning: unrecognized escape \x60" ++ String.ofList ['\\', c] ++ "'") :: faults)
  | bound + 1, '%' :: rest =>
    let flags := rest.takeWhile fun c => "-+ #0".toList.contains c
    let digits := (rest.drop flags.length).takeWhile isDecimalDigit
    match rest.drop (flags.length + digits.length) with
    | [] => ([], ["error: % at end of format string"])
    | '%' :: after =>
      let (pieces, faults) := piecesOf bound after
      (.text ['%'] :: pieces, faults)
    | letter :: after =>
      let (pieces, faults) := piecesOf bound after
      if "pfhHPsdkbmMyYlnugUG".toList.contains letter then
        (.item letter (flags.contains '-') (ofDigits 10 digits) :: pieces, faults)
      else
        (.text ('%' :: flags ++ digits ++ [letter]) :: pieces,
          s!"warning: unrecognized format directive \x60%{letter}'" :: faults)
  | bound + 1, text =>
    let plain := text.takeWhile fun c => c ≠ '\\' && c ≠ '%'
    let (pieces, faults) := piecesOf bound (text.drop plain.length)
    (.text plain :: pieces, faults)

/-! ### Words -/

/-- Whether a word can be no path: it is one of the signs, or it starts with a dash. -/
def isSign (leading : Bool) (word : List Char) : Bool :=
  match word with
  | ['-'] => false
  | '-' :: _ => true
  | [c] => c = '(' || c = '!' || (!leading && (c = ')' || c = ','))
  | _ => false

def bare? (name : String) : Option Query :=
  match name with
  | "-true" => some (.test (.always true))
  | "-false" => some (.test (.always false))
  | "-nouser" => some (.test (.always false))
  | "-nogroup" => some (.test (.always false))
  | "-readable" => some (.test (.always true))
  | "-writable" => some (.test (.always true))
  | "-executable" => some (.test .runs)
  | "-empty" => some (.test .empty)
  | "-print" => some (.deed (.show '\n'))
  | "-print0" => some (.deed (.show '\x00'))
  | "-prune" => some (.deed .skip)
  | "-quit" => some (.deed .quit)
  | "-delete" => some (.deed .remove)
  | _ => none

def setting? (name : String) (plan : Plan) : Option Plan :=
  match name with
  | "-depth" => some { plan with deepFirst := true }
  | "-d" => some { plan with deepFirst := true }
  | "-follow" => some { plan with follows := true }
  | "-delete" => some { plan with deepFirst := true }
  | "-xdev" => some plan
  | "-mount" => some plan
  | "-daystart" => some plan
  | "-noleaf" => some plan
  | "-warn" => some plan
  | "-nowarn" => some plan
  | "-ignore_readdir_race" => some plan
  | "-noignore_readdir_race" => some plan
  | _ => none

def sign? (name : String) : Option Sign :=
  match name with
  | "(" => some (.opening false)
  | ")" => some (.closing false)
  | "!" => some (.negation name)
  | "-not" => some (.negation name)
  | "-a" => some (.joint name .both)
  | "-and" => some (.joint name .both)
  | "-o" => some (.joint name .either)
  | "-or" => some (.joint name .either)
  | "," => some (.joint name .list)
  | _ => none

def texted : List String :=
  ["-name", "-iname", "-path", "-wholename", "-ipath", "-iwholename", "-lname", "-ilname", "-regex",
    "-iregex", "-regextype", "-type", "-xtype", "-size", "-perm", "-newer", "-anewer", "-cnewer",
    "-samefile", "-links", "-mtime", "-mmin", "-atime", "-amin", "-ctime", "-cmin", "-user", "-group",
    "-uid", "-gid", "-maxdepth", "-mindepth", "-printf"]

def refuseQuietly {α : Type} : Tool α := do
  Tool.fail 1
  Tool.stop

def withText (plan : Plan) (name : String) (text : List Char) : Tool (Query × Plan) := do
  let ask (test : Test) : Tool (Query × Plan) := return (.test test, plan)
  let read (test : Except String Test) : Tool (Query × Plan) :=
    match test with
    | .ok test => ask test
    | .error message => refuse message 1
  let fits (part : Part) (caseless : Bool) : Tool (Query × Plan) :=
    ask (.fits part caseless (Wildcard.ofPlain (if caseless then lowered text else text)))
  let counted (test : Bound → Test) : Tool (Query × Plan) :=
    match bound? text with
    | some bound => ask (test bound)
    | none => refuse s!"invalid argument \x60{String.ofList text}' to \x60{name}'" 1
  let matching (caseless : Bool) : Tool (Query × Plan) :=
    match Regex.ofText plan.style text with
    | .ok (regex, _) => ask (.matching (if caseless then regex.caseless else regex))
    | .error fault =>
      refuse s!"failed to compile regular expression '{String.ofList text}': {fault.message}" 1
  let nodeOf : Tool (Place × Node) := do
    let files ← Tool.files
    match (do
      let place ← files.locate plan.follows text
      return (place, ← files.lookUp plan.follows text) : Except Failure (Place × Node)) with
    | .ok found => return found
    | .error failure => refuse s!"{Quoting.text text}: {failure.reason}" 1
  let levels (change : Nat → Plan) : Tool (Query × Plan) :=
    match Tool.number? text with
    | some n => return (.test (.always true), change n)
    | none =>
      let wants := s!"Expected a positive decimal integer argument to {name}"
      refuse s!"{wants}, but got {Quoting.text text}" 1
  match name with
  | "-name" => fits .name false
  | "-iname" => fits .name true
  | "-path" => fits .path false
  | "-wholename" => fits .path false
  | "-ipath" => fits .path true
  | "-iwholename" => fits .path true
  | "-lname" => fits .target false
  | "-ilname" => fits .target true
  | "-regex" => matching false
  | "-iregex" => matching true
  | "-regextype" =>
    match styleNamed? (String.ofList text) with
    | some style => return (.test (.always true), { plan with style })
    | none =>
      let unknown := s!"Unknown regular expression type {Quoting.text text}"
      refuse s!"{unknown}; valid types are {styleNames}." 1
  | "-type" => read ((kindsIn name text).map (.kind false))
  | "-xtype" => read ((kindsIn name text).map (.kind true))
  | "-size" => read (sizeTest text)
  | "-perm" => read (modeTest text)
  | "-samefile" => ask (.at (← nodeOf).1)
  | "-links" => counted .links
  | "-maxdepth" => levels fun n => { plan with most? := some n }
  | "-mindepth" => levels fun n => { plan with least := n }
  | "-user" =>
    if text = "root".toList || Tool.number? text = some 0 then ask (.always true)
    else if (Tool.number? text).isSome then ask (.always false)
    else refuse s!"{Quoting.text text} is not the name of a known user" 1
  | "-group" =>
    if text = "root".toList || Tool.number? text = some 0 then ask (.always true)
    else if (Tool.number? text).isSome then ask (.always false)
    else refuse s!"{Quoting.text text} is not the name of an existing group" 1
  | "-uid" => counted fun bound => .always (bound.holds 0)
  | "-gid" => counted fun bound => .always (bound.holds 0)
  | "-printf" =>
    let (pieces, faults) := piecesOf (text.length + 1) text
    faults.forM fun fault => complain fault 0
    if faults.any (·.startsWith "error") then refuseQuietly
    return (.deed (.format pieces), plan)
  | _ =>
    if name.endsWith "newer" then ask (.changedAfter (← nodeOf).2.modified) else counted .age

def hasMark (word : List Char) : Bool :=
  (word.zip (word.drop 1)).contains ('\x7b', '\x7d')

/-- The words of a program up to the sign at their end, whether that is a plus after the place of the
files, and the words after it. -/
def programWords : Bool → List (List Char) → Option (List (List Char) × Bool × List (List Char))
  | _, [] => none
  | _, [';'] :: rest => some ([], false, rest)
  | after, word :: rest =>
    if after && word = ['+'] then some ([], true, rest)
    else
      (programWords (hasMark word) rest).map fun (words, many, rest) =>
        (word :: words, many, rest)

def program (plan : Plan) (name : String) (words : List (List Char)) :
    Tool (Query × Plan × List (List Char)) := do
  let inside := name = "-execdir" || name = "-okdir"
  match programWords false words with
  | none => refuse s!"missing argument to \x60{name}'" 1
  | some ([], _, _) => refuse s!"invalid argument \x60;' to \x60{name}'" 1
  | some (words, false, rest) => return (.deed (.run inside words), plan, rest)
  | some (words, true, rest) =>
    let marks := "\x7b\x7d"
    match words.filter hasMark with
    | _ :: _ :: _ => refuse s!"Only one instance of {marks} is supported with {name} ... +" 1
    | [word] =>
      if word ≠ marks.toList then
        let wants := s!"In '{name} ... {marks} +' the '{marks}' must appear by itself"
        refuse s!"{wants}, but you specified {Quoting.text word}" 1
    | [] => pure ()
    let number := plan.collectors.length
    let plan := { plan with collectors := (inside, words.dropLast) :: plan.collectors }
    return (.deed (.note number), plan, rest)

/-- Adds a sign to others, the last first. Two queries side by side must both hold. -/
def addSign (signs : List Sign) (sign : Sign) : List Sign :=
  let ends := match signs with
    | .query _ :: _ => true
    | .closing _ :: _ => true
    | _ => false
  let starts := match sign with
    | .query _ => true
    | .negation _ => true
    | .opening _ => true
    | _ => false
  if ends && starts then sign :: .joint "-a" .both :: signs else sign :: signs

/-- The signs for some words, the last first. The number bounds the words. -/
def signsOf : Nat → Plan → Option (List Char) → List Sign → List (List Char) →
    Tool (List Sign × Plan)
  | 0, plan, _, signs, _ => return (signs, plan)
  | _, plan, _, signs, [] => return (signs, plan)
  | bound + 1, plan, before?, signs, word :: rest => do
    let name := String.ofList word
    let next (query : Query) (plan : Plan) (rest : List (List Char)) : Tool (List Sign × Plan) :=
      signsOf bound plan (some word) (addSign signs (.query query)) rest
    if !isSign false word then
      complain s!"paths must precede expression: \x60{name}'" 1
      match before? with
      | some before =>
        if (← Tool.files).exists? word then
          complain s!"possible unquoted pattern after predicate \x60{String.ofList before}'?" 1
      | none => pure ()
      Tool.stop
    else if let some sign := sign? name then
      signsOf bound plan (some word) (addSign signs sign) rest
    else if let some query := bare? name then
      next query ((setting? name plan).getD plan) rest
    else if let some plan := setting? name plan then next (.test (.always true)) plan rest
    else if ["-exec", "-execdir"].contains name then
      let (query, plan, rest) ← program plan name rest
      next query plan rest
    else if texted.contains name then
      match rest with
      | [] => refuse s!"missing argument to \x60{name}'" 1
      | text :: rest =>
        let (query, plan) ← withText plan name text
        next query plan rest
    else refuse s!"unknown predicate \x60{name}'" 1

/-! ### Signs -/

def Sign.name : Sign → String
  | .query _ => ""
  | .negation name => name
  | .joint name _ => name
  | .opening _ => "("
  | .closing _ => ")"

def Sign.strength : Sign → Nat
  | .joint _ rank => rank.number
  | .negation _ => 4
  | _ => 0

mutual

/-- The query at the start of some signs, as far as it holds together more closely than a number tells,
and the signs after it. -/
def leading : Nat → List Sign → Nat → Option Sign → Except String (Query × List Sign)
  | 0, _, _, _ => .error "invalid expression"
  | _, [], _, _ => .error "invalid expression"
  | bound + 1, sign :: rest, strength, before? => do
    let (first, rest) ← match sign with
      | .query query => pure (query, rest)
      | .joint name _ =>
        throw (s!"invalid expression; you have used a binary operator '{name}' " ++
          "with nothing before it.")
      | .closing added =>
        let operator? : Option String := match before? with
          | some (.negation name) => some name
          | some (.joint name _) => some name
          | _ => none
        let before := (before?.map Sign.name).getD ""
        match operator?, added with
        | some name, false => throw s!"expected an expression between '{name}' and ')'"
        | _, true => throw s!"expected an expression after '{before}'"
        | _, false => throw "invalid expression; you have too many ')'"
      | .negation _ => do
        let (inner, rest) ← leading bound rest 4 (some sign)
        pure (.not inner, rest)
      | .opening added => do
        let wants := "Perhaps you need an extra predicate after '('"
        match rest with
        | [] =>
          throw s!"invalid expression; expected to find a ')' but didn't see one. {wants}"
        | .closing true :: _ =>
          throw s!"invalid expression; expected to find a ')' but didn't see one. {wants}"
        | .closing false :: _ =>
          if added then
            throw "invalid expression: expected expression before closing parentheses ')'."
          else throw "invalid expression; empty parentheses are not allowed."
        | _ => pure ()
        let (inner, rest) ← leading bound rest 0 (some sign)
        match rest with
        | .closing _ :: rest => pure (inner, rest)
        | _ =>
          throw "invalid expression; I was expecting to find a ')' somewhere but did not see one."
    joined bound first rest strength

def joined : Nat → Query → List Sign → Nat → Except String (Query × List Sign)
  | 0, _, _, _ => .error "invalid expression"
  | bound + 1, first, signs, strength =>
    match signs with
    | .joint name rank :: rest =>
      if rank.number ≤ strength then .ok (first, signs)
      else do
        let (second, rest) ← leading bound rest rank.number (some (.joint name rank))
        joined bound (rank.join first second) rest strength
    | .negation _ :: _ => if 4 ≤ strength then .ok (first, signs) else .error "invalid expression"
    | _ => .ok (first, signs)

end

/-- The query that signs spell. One that only leaves files out shows the others. -/
def ofSigns (signs : List Sign) : Except String Query := do
  let show' : Query := .deed (.show '\n')
  if signs.isEmpty then return show'
  let does := signs.any fun
    | .query query => query.acts
    | _ => false
  let signs := if does then signs
    else .opening true :: signs ++ [.closing true, .joint "-a" .both, .query show']
  let (query, rest) ← leading (4 * signs.length + 8) signs 0 none
  if !rest.isEmpty then throw "you have too many ')'"
  return query

/-! ### The whole -/

def leadingOptions : Plan → List (List Char) → Plan × List (List Char)
  | plan, ['-', 'P'] :: rest => leadingOptions { plan with follows := false, followsFirst := false } rest
  | plan, ['-', 'H'] :: rest => leadingOptions { plan with follows := false, followsFirst := true } rest
  | plan, ['-', 'L'] :: rest => leadingOptions { plan with follows := true } rest
  | plan, ['-', 'D'] :: _ :: rest => leadingOptions plan rest
  | plan, ('-' :: 'O' :: _) :: rest => leadingOptions plan rest
  | plan, ['-', '-'] :: rest => (plan, rest)
  | plan, words => (plan, words)

/-- What the arguments of the tool ask for: the paths to start from, how to walk, and the query. -/
def request : Tool (List (List Char) × Plan × Query) := do
  let start : Plan := ⟨false, false, false, 0, none, ⟨false, true, false⟩, []⟩
  let (plan, words) := leadingOptions start (← Tool.args)
  let paths := words.takeWhile fun word => !isSign true word
  let words := words.drop paths.length
  let (signs, plan) ← signsOf (words.length + 1) plan none [] words
  match ofSigns signs.reverse with
  | .error message => refuse message 1
  | .ok query => return (if paths = [] then [['.']] else paths, plan, query)

end Proctor.Machine.Query
