import Proctor.Machine.Tool.Basic
import Proctor.Machine.Wildcard

/-! Replacing, deleting and squeezing single octets. -/
namespace Proctor.Machine.Tool

/-- A part of a set of octets. -/
inductive SetPart where
  | char (c : Char)
  | range (low high : Char)
  | named (name : String)
  | same (c : Char)
  /-- An octet so many times; as often as needed without a number. -/
  | times (c : Char) (count? : Option Nat)
deriving DecidableEq, Repr

namespace SetPart

def members (name : String) : List Char :=
  let ranges := (classes.lookup name).getD []
  ((List.range 256).map Octets.char).filter (inRanges ranges)

def octets : SetPart → List Char
  | .char c => [c]
  | .range low high => ((List.range (high.toNat + 1)).drop low.toNat).map Octets.char
  | .named name => members name
  | .same c => [c]
  | .times c count? => List.replicate (count?.getD 0) c

def isCase : SetPart → Bool
  | .named name => name == "lower" || name == "upper"
  | _ => false

def isOther : SetPart → Bool
  | .named name => name != "lower" && name != "upper"
  | _ => false

def isUnbounded : SetPart → Bool
  | .times _ none => true
  | _ => false

end SetPart

/-- An octet of a set as it is written, and whether a backslash stands before it. -/
abbrev Written := Char × Bool

def octalDigits (text : List Char) : List Char :=
  let digits := (text.take 3).takeWhile fun c => '0' ≤ c && c ≤ '7'
  if ofDigits 8 digits < 256 then digits else digits.take 2

/-- The octets of a text with its escapes read. The number bounds how many there are. -/
def writtenOf : Nat → List Char → List Written
  | 0, _ => []
  | _, [] => []
  | bound + 1, '\\' :: c :: rest =>
    let digits := octalDigits (c :: rest)
    if digits ≠ [] then
      (Octets.char (ofDigits 8 digits), true) :: writtenOf bound ((c :: rest).drop digits.length)
    else
      let octet := (Quoting.escapes.find? fun (_, letter) => letter = c).map (·.1)
      (octet.getD c, true) :: writtenOf bound rest
  | bound + 1, c :: rest => (c, false) :: writtenOf bound rest

/-- The digits of escapes that would spell more than an octet. The number bounds the characters. -/
def wideEscapes : Nat → List Char → List (List Char)
  | 0, _ => []
  | _, [] => []
  | bound + 1, '\\' :: rest =>
    let digits := (rest.take 3).takeWhile fun c => '0' ≤ c && c ≤ '7'
    if 256 ≤ ofDigits 8 digits then digits :: wideEscapes bound (rest.drop 2)
    else wideEscapes bound (rest.drop (max 1 digits.length))
  | bound + 1, _ :: rest => wideEscapes bound rest

/-- The text before a mark and a bracket that have no backslash, and what comes after them. -/
def closedBy? (mark : Char) : List Written → Option (List Char × List Written)
  | [] => none
  | first :: rest =>
    if first = (mark, false) && rest.head? = some (']', false) then some ([], rest.drop 1)
    else (closedBy? mark rest).map fun (inside, after) => (first.1 :: inside, after)

def shownOctet (c : Char) : List Char :=
  if c = '\\' then ['\\', '\\'] else if Quoting.isHidden c then Quoting.escaped c else [c]

def repeatIn? (written : List Written) : Option (Char × List Char × List Written) :=
  match written with
  | (c, _) :: ('*', false) :: rest =>
    let inside := rest.takeWhile fun (c, escaped) => !escaped && c ≠ ']'
    match rest.drop inside.length with
    | (']', false) :: after => some (c, inside.map (·.1), after)
    | _ => none
  | _ => none

/-- The parts of a set. The number bounds how many there are. -/
def partsOf : Nat → List Written → Tool (List SetPart)
  | 0, _ => return []
  | bound + 1, written => do
    let plainly (written : List Written) : Tool (List SetPart) := do
      match written with
      | (low, _) :: ('-', false) :: (high, _) :: rest =>
        if high < low then
          let ends := s!"{String.ofList (shownOctet low)}-{String.ofList (shownOctet high)}"
          refuse s!"range-endpoints of '{ends}' are in reverse collating sequence order" 1
        return .range low high :: (← partsOf bound rest)
      | (c, _) :: rest => return .char c :: (← partsOf bound rest)
      | [] => return []
    let repeated : Tool (List SetPart) := do
      match repeatIn? (written.drop 1) with
      | none => plainly written
      | some (c, digits, rest) =>
        let base := if digits.head? = some '0' then 8 else 10
        if digits.all fun d => (digitIn? base d).isSome then
          let count := ofDigits base digits
          return .times c (if count = 0 then none else some count) :: (← partsOf bound rest)
        else
          refuse s!"invalid repeat count {Quoting.text digits} in [c*n] construct" 1
    match written with
    | ('[', false) :: (':', false) :: rest =>
      match closedBy? ':' rest with
      | none => repeated
      | some (name, after) =>
        if name = [] then refuse "missing character class name '[::]'" 1
        if (classes.lookup (String.ofList name)).isSome then
          return .named (String.ofList name) :: (← partsOf bound after)
        else if (repeatIn? (written.drop 1)).isSome then repeated
        else refuse s!"invalid character class {Quoting.text name}" 1
    | ('[', false) :: ('=', false) :: rest =>
      match closedBy? '=' rest with
      | none => repeated
      | some ([c], after) => return .same c :: (← partsOf bound after)
      | some (name, _) =>
        if name = [] then refuse "missing equivalence class character '[==]'" 1
        if (repeatIn? (written.drop 1)).isSome then repeated
        else
          let shown := String.ofList (name.flatMap shownOctet)
          refuse s!"{shown}: equivalence class operand must be a single character" 1
    | ('[', false) :: _ => repeated
    | written => plainly written

def offsetsOf (parts : List SetPart) : List (Nat × SetPart) :=
  let (found, _) := parts.foldl (fun (found, place) part =>
    ((place, part) :: found, place + part.octets.length)) (([] : List (Nat × SetPart)), 0)
  found.reverse

/-- Octets of which none repeats the one before it while it is in a set. -/
def squeezed (set : Char → Bool) (octets : List Char) : List Char :=
  (octets.foldl (fun found c =>
    if found.head? = some c && set c then found else c :: found) ([] : List Char)).reverse

def targetsOf (source : List Char) (sourceParts target : List SetPart) (complement truncates : Bool) :
    Tool (List Char) := do
  if 1 < (target.filter (·.isUnbounded)).length then
    refuse "only one [c*] repeat construct may appear in string2" 1
  let isSame : SetPart → Bool
    | .same _ => true
    | _ => false
  if target.any isSame then
    refuse "[=c=] expressions may not appear in string2 when translating" 1
  if target.any (·.isOther) then
    refuse ("when translating, the only character classes that may appear in\n" ++
      "string2 are 'upper' and 'lower'") 1
  let known := target.foldl (fun sum part => sum + part.octets.length) 0
  let filled := target.map fun part =>
    match part with
    | .times c none => .times c (some (source.length - known))
    | part => part
  let sourceCases := (offsetsOf sourceParts).filter fun (_, part) => part.isCase
  let targetCases := (offsetsOf filled).filter fun (_, part) => part.isCase
  if !complement && targetCases.any fun (place, _) => !sourceCases.any fun (other, _) => other = place then
    refuse "misaligned [:upper:] and/or [:lower:] construct" 1
  let octets := filled.flatMap (·.octets)
  if source.length ≤ octets.length then return octets
  if truncates then return octets
  match octets.getLast? with
  | none =>
    if source = [] then return []
    refuse "when not truncating set1, string2 must be non-empty" 1
  | some last =>
    if (filled.getLast?.map (·.isCase)).getD false then
      refuse ("when translating with string1 longer than string2,\n" ++
        "the latter string must not end with a character class") 1
    return octets ++ List.replicate (source.length - octets.length) last

def tr : Tool Unit := do
  let (options, sets) ← optionsFrom "cCdst".toList [] [("complement", 'c'), ("delete", 'd'),
    ("squeeze-repeats", 's'), ("truncate-set1", 't')] true 1 (← args)
  let complement := options.has 'c' || options.has 'C'
  let (deletes, squeezes) := (options.has 'd', options.has 's')
  let least := if deletes = squeezes then 2 else 1
  let most := if deletes && !squeezes then 1 else 2
  if sets.length < least then
    match sets.getLast? with
    | none => misused "missing operand" 1
    | some last =>
      complain s!"missing operand after {Quoting.always last}" 1
      warn (if squeezes then
        "Two strings must be given when both deleting and squeezing repeats.\n"
        else "Two strings must be given when translating.\n")
      hint 1
  match sets[most]? with
  | some extra =>
    complain s!"extra operand {Quoting.always extra}" 1
    if sets.length = 2 then
      warn "Only one string may be given when deleting without squeezing repeats.\n"
    hint 1
  | none => pure ()
  let parts (text : List Char) : Tool (List SetPart) := do
    (wideEscapes (text.length + 1) text).forM fun digits => do
      let (short, last) := (String.ofList (digits.take 2), String.ofList (digits.drop 2))
      warn (s!"{(← call).label}warning: the ambiguous octal escape \\{String.ofList digits} is " ++
        s!"being\n\tinterpreted as the 2-byte sequence \\0{short}, {last}\n")
    if text.getLast? = some '\\' && (text.reverse.takeWhile (· == '\\')).length % 2 = 1 then
      warn (s!"{(← call).label}warning: an unescaped backslash at end of " ++
        "string is not portable\n")
    partsOf (text.length + 1) (writtenOf (text.length + 1) text)
  let sourceParts ← parts (sets.headD [])
  let targetParts ← parts ((sets.drop 1).headD [])
  if sourceParts.any (·.isUnbounded) then
    refuse "the [c*] repeat construct may not appear in string1" 1
  let listed := sourceParts.flatMap (·.octets)
  let among (list : List Char) : Char → Bool :=
    let table := ((List.range 256).map fun n => list.contains (Octets.char n)).toArray
    fun c => (table[c.toNat]?).getD false
  let inListed := among listed
  let source (c : Char) : Bool := inListed c != complement
  let translates := !deletes && 1 < sets.length
  if !translates && targetParts.any (·.isUnbounded) then
    refuse "the [c*] construct may appear in string2 only when translating" 1
  let targetOctets := targetParts.flatMap (·.octets)
  let mut replaced : Array Char := ((List.range 256).map Octets.char).toArray
  let mut inTarget := among targetOctets
  if translates then
    let from' := if complement then ((List.range 256).map Octets.char).filter source else listed
    let targets ← targetsOf from' sourceParts targetParts complement (options.has 't')
    if complement && sourceParts.any (fun part => part.isOther || part.isCase) &&
        !(targets.eraseDups.length ≤ 1) then
      refuse ("when translating with complemented character classes,\n" ++
        "string2 must map all characters in the domain to one") 1
    for (c, d) in from'.zip targets do
      replaced := replaced.set! c.toNat d
    inTarget := among targets
  let table := replaced
  let squeezeSet := inTarget
  match ← inputOf 0 with
  | .error failure => refuse s!"read error: {failure.reason}" 1
  | .ok octets =>
    print (
      if deletes then
        let kept := octets.filter fun c => !source c
        if squeezes then squeezed squeezeSet kept else kept
      else if translates then
        let found := octets.map fun c => (table[c.toNat]?).getD c
        if squeezes then squeezed squeezeSet found else found
      else squeezed source octets)

end Proctor.Machine.Tool
