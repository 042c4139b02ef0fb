import Proctor.Json.Reader

/-! Decoding typed values straight from JSON text. Faults are found in reading order: a value of
the wrong type is refused as soon as its kind is known. -/
namespace Proctor.Json

/-- Reads a value of a type; the argument is the number of containers that may still be opened. -/
abbrev Decoder (α : Type) := Nat → Reader α

def entering {α : Type} (room : Nat) (inside : Nat → Reader α) : Reader α :=
  match room with
  | 0 => throw .tooDeep
  | room + 1 => do
    advance
    inside room

def mismatch {α : Type} (wanted : String) : Reader α := do
  match ← peek with
  | none => throw .expectedValue
  | some '[' => throw (.wrongType .sequence wanted)
  | some '\x7b' => throw (.wrongType .map wanted)
  | some _ =>
    let scalar ← valueWith stepwise fun _ => throw .expectedValue
    throw (.wrongType scalar.found wanted)

def peekValue : Reader Char := do
  match ← peek with
  | none => throw .endOfValue
  | some c => return c

def decodeString (wanted : String) : Reader String := do
  if (← peekValue) = '"' then stringToken else mismatch wanted

def decodeBool : Decoder Bool := fun _ => do
  match ← peekValue with
  | 't' => advance; word ['r', 'u', 'e']; return true
  | 'f' => advance; word ['a', 'l', 's', 'e']; return false
  | _ => mismatch "a boolean"

def decodeCount : Decoder Nat := fun _ => do
  let c ← peekValue
  if c = '-' || isDecimalDigit c then
    match ← number stepwise c with
    | .int n => if n < 0 then throw (.wrongValue (.int n) "usize") else return n.toNat
    | other => throw (.wrongType other.found "usize")
  else mismatch "usize"

def decodeOptional {α : Type} (decode : Decoder α) : Decoder (Option α) := fun room => do
  if (← peek) = some 'n' then
    advance
    word ['u', 'l', 'l']
    return none
  else return some (← decode room)

def decodeNull (wanted : String) : Reader Unit := do
  if (← peekValue) = 'n' then
    advance
    word ['u', 'l', 'l']
  else mismatch wanted

def decodeList {α : Type} (decode : Decoder α) : Decoder (List α) := fun room => do
  if (← peekValue) = '[' then
    entering room fun room => do
      let found ← items (decode room) (← bound) true
      endList
      return found
  else mismatch "a sequence"

def decodePair {α β : Type} (left : Decoder α) (right : Decoder β) : Decoder (α × β) :=
  fun room => do
    let wanted := "a tuple of size 2"
    if (← peekValue) = '[' then
      entering room fun room => do
        if !(← nextItem true) then throw (.wrongLength 0 wanted)
        let a ← left room
        if !(← nextItem false) then throw (.wrongLength 1 wanted)
        let b ← right room
        endList
        return (a, b)
    else mismatch wanted

def decodeMap : Decoder (List (String × Json)) := fun room => do
  if (← peekValue) = '\x7b' then
    entering room fun room => do
      let found ← members (value stepwise room) (← bound) true
      endObject
      return OrderedMap.ofPairs (found.map fun (name, value) => (name, value.settle))
  else mismatch "a map"

/-! ### Structures -/

structure Field (σ : Type) where
  name : String
  /-- Whether the field may be left out. -/
  optional : Bool
  filled : σ → Bool
  read : Nat → σ → Reader σ

/-- Fills fields by name, in the order of the text; unknown names are skipped. -/
def fillByName {σ : Type} (fields : List (Field σ)) (room : Nat) : Nat → Bool → σ → Reader σ
  | 0, _, _ => throw .endOfObject
  | bound + 1, first, partly => do
    if ← nextName first then
      let name ← stringToken
      match fields.find? (·.name == name) with
      | some field =>
        if field.filled partly then throw (.repeatedField name)
        colon
        let partly ← field.read room partly
        fillByName fields room bound false partly
      | none =>
        colon
        skip
        fillByName fields room bound false partly
    else return partly

def fillInOrder {σ : Type} (wanted : String) (room : Nat) :
    List (Field σ) → Nat → Bool → σ → Reader σ
  | [], _, _, partly => return partly
  | field :: others, index, first, partly => do
    if ← nextItem first then
      let partly ← field.read room partly
      fillInOrder wanted room others (index + 1) false partly
    else if field.optional then fillInOrder wanted room others (index + 1) first partly
    else throw (.wrongLength index wanted)

def elementCount (n : Nat) : String :=
  if n = 1 then "1 element" else toString n ++ " elements"

/-- A structure, written as an object or as a list of its fields in order. -/
def decodeStructure {σ : Type} (type : String) (fields : List (Field σ)) (empty : σ) :
    Decoder σ := fun room => do
  match ← peekValue with
  | '[' =>
    entering room fun room => do
      let wanted := type ++ " with " ++ elementCount fields.length
      let found ← fillInOrder wanted room fields 0 true empty
      endList
      return found
  | '\x7b' =>
    entering room fun room => do
      let found ← fillByName fields room (← bound) true empty
      match fields.find? fun field => !field.optional && !field.filled found with
      | some field => throw (.missingField field.name)
      | none =>
        endObject
        return found
  | _ => mismatch type

def decode {α : Type} (decoder : Decoder α) (text : String) : Except Fault α :=
  readAll (decoder maxOpen) text

end Proctor.Json
