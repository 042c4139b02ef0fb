import Proctor.Machine.Octets
import Std.Data.HashMap

/-! Arrays with texts and integers as keys. Keys hang in lists, which are chosen by a hash value; a key that
was used moves to the front of its list, and the lists one after another are the order of the keys. -/
namespace Proctor.Machine.Awk

/-- A number of 32 bits for a text: each octet is mixed in, and then all is multiplied by a prime. -/
def hashOf (key : List Char) : Nat :=
  key.foldl (fun h c => (h ^^^ c.toNat) * 16777619 % 4294967296) 2166136261

instance hashableText : Hashable (List Char) := @instHashableList Char instHashableChar

/-- An array: its keys as texts, its keys as integers, and what they stand for. An integer is not among
the texts before a text was looked for. -/
structure Table (α : Type) where
  texts : Array (List (List Char))
  integers : Array (List Int)
  complete : Bool
  values : Std.HashMap (List Char) α

namespace Table

/-- How many lists a new array has, and how many keys a list has on average at most. -/
def fewest : Nat := 64

def maxLength : Nat := 12

def empty {α : Type} : Table α :=
  ⟨Array.replicate fewest [], Array.replicate fewest [], false, {}⟩

variable {α : Type}

def size (table : Table α) : Nat := table.values.size

def textOf (n : Int) : List Char :=
  if n < 0 then '-' :: Nat.toDigits 10 n.natAbs else Nat.toDigits 10 n.natAbs

def textPlace (table : Table α) (key : List Char) : Nat := hashOf key % table.texts.size

def integerPlace (table : Table α) (n : Int) : Nat := (n % table.integers.size).toNat

def frontText (table : Table α) (key : List Char) : Table α :=
  { table with texts := table.texts.modify (table.textPlace key) fun keys => key :: keys.erase key }

def frontInteger (table : Table α) (n : Int) : Table α :=
  { table with
    integers := table.integers.modify (table.integerPlace n) fun keys => n :: keys.erase n }

def completed (table : Table α) : Table α :=
  if table.complete then table
  else
    let table := table.integers.foldl (fun table keys =>
      keys.foldl (fun table n => table.frontText (textOf n)) table) table
    { table with complete := true }

/-- Doubles the number of lists; each list is divided, and keeps its order. -/
def doubled (table : Table α) : Table α :=
  let count := table.texts.size
  let divide {β : Type} (lists : Array (List β)) (place : β → Nat) : Array (List β) :=
    let low := lists.mapIdx fun i keys => keys.filter fun key => place key % (2 * count) = i
    let high := lists.mapIdx fun i keys => keys.filter fun key => place key % (2 * count) ≠ i
    low ++ high
  { table with
    texts := divide table.texts hashOf
    integers := divide table.integers fun n => (n % (2 * count)).toNat }

def grown (table : Table α) : Table α :=
  if table.texts.size * maxLength < table.size + 1 then table.doubled else table

/-- Uses a text as a key: what it stands for, which is `initial` if it is new. -/
def useText (table : Table α) (initial : α) (key : List Char) : Table α × α :=
  let table := table.completed
  match table.values[key]? with
  | some value => (table.frontText key, value)
  | none =>
    let table := table.grown
    ({ table with values := table.values.insert key initial }.frontText key, initial)

def useInteger (table : Table α) (initial : α) (n : Int) : Table α × α :=
  let key := textOf n
  let known := (table.integers.getD (table.integerPlace n) []).contains n
  if known then
    (table.frontInteger n, (table.values[key]?).getD initial)
  else if table.complete then
    let (table, value) := table.useText initial key
    (table.frontInteger n, value)
  else
    let table := table.grown
    ({ table with values := table.values.insert key initial }.frontInteger n, initial)

def put (table : Table α) (key : List Char) (value : α) : Table α :=
  { table with values := table.values.insert key value }

def contains (table : Table α) (key : List Char) : Bool := table.values.contains key

def erase (table : Table α) (key : List Char) : Table α :=
  { table with
    texts := table.texts.modify (table.textPlace key) fun keys => keys.erase key
    integers := table.integers.map fun keys => keys.filter fun n => textOf n ≠ key
    values := table.values.erase key }

def keys (table : Table α) : List (List Char) := table.texts.toList.flatten

def ofList (values : List α) : Table α :=
  let count := values.length
  let size := (List.range 32).foldl (fun size _ =>
    if size * maxLength < count then size * 2 else size) fewest
  let start : Table α := ⟨Array.replicate size [], Array.replicate size [], false, {}⟩
  values.zipIdx.foldl (fun table (value, i) =>
    (table.put (textOf (i + 1 : Nat)) value).frontInteger (i + 1 : Nat)) start

end Table
end Proctor.Machine.Awk
