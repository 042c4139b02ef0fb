import Proctor.Machine.Regex

/-! Octets that are read record by record. -/
namespace Proctor.Machine.Awk

/-- Octets that are read record by record, from some place on. -/
structure Intake where
  text : Array Char
  place : Nat
  endless : Bool

inductive RecordEnd where
  | char (c : Char)
  | paragraph
  | regex (regex : Regex)
deriving Repr, Inhabited

namespace Intake

def indexFrom? (c : Char) (text : Array Char) (i : Nat) : Option Nat :=
  if h : i < text.size then
    if text[i] = c then some i else indexFrom? c text (i + 1)
  else none
termination_by text.size - i

/-- The first place from some place on at which there is no newline. -/
def pastLines (text : Array Char) (i : Nat) : Nat :=
  if h : i < text.size then
    if text[i] = '\n' then pastLines text (i + 1) else i
  else i
termination_by text.size - i

def emptyLine? (text : Array Char) (i : Nat) : Option Nat :=
  if h : i + 1 < text.size then
    if text[i] = '\n' && text[i + 1] = '\n' then some i else emptyLine? text (i + 1)
  else none
termination_by text.size - i

/-- Where the next match that is not empty starts and stops. The number bounds the places. -/
def hitFrom? (hit : Regex) (text : Array Char) : Nat → Nat → Option (Nat × Nat)
  | 0, _ => none
  | bound + 1, origin =>
    match hit.find? text origin with
    | none => none
    | some one =>
      if one.start = one.stop then
        if text.size ≤ one.start then none else hitFrom? hit text bound (one.start + 1)
      else some (one.start, one.stop)

/-- The next record and what is left after it, if there is one. -/
def next? (recordEnd : RecordEnd) (intake : Intake) : Option (List Char × Intake) :=
  let text := intake.text
  let start := if recordEnd matches .paragraph then pastLines text intake.place else intake.place
  if text.size ≤ start then none
  else
    let (stop, place) := match recordEnd with
      | .char c =>
        match indexFrom? c text start with
        | some i => (i, i + 1)
        | none => (text.size, text.size)
      | .paragraph =>
        match emptyLine? text start with
        | some i => (i, pastLines text i)
        | none => (if text.back? = some '\n' then text.size - 1 else text.size, text.size)
      | .regex hit =>
        (hitFrom? hit text (text.size + 1) start).getD (text.size, text.size)
    some ((text.extract start stop).toList, { intake with place })

end Intake
end Proctor.Machine.Awk
