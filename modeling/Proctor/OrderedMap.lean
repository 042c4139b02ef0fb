/-! Maps that keep the order in which their keys were first stored, as lists of pairs. -/
namespace Proctor.OrderedMap

variable {κ ν : Type} [DecidableEq κ]

def get? (key : κ) : List (κ × ν) → Option ν
  | [] => none
  | (k, v) :: rest => if k = key then some v else get? key rest

def contains (key : κ) (entries : List (κ × ν)) : Bool := (get? key entries).isSome

/-- Stores a value: in its place if the key is present, else at the end. -/
def put (key : κ) (value : ν) : List (κ × ν) → List (κ × ν)
  | [] => [(key, value)]
  | (k, v) :: rest => if k = key then (k, value) :: rest else (k, v) :: put key value rest

def erase (key : κ) : List (κ × ν) → List (κ × ν)
  | [] => []
  | (k, v) :: rest => if k = key then rest else (k, v) :: erase key rest

def take? (key : κ) : List (κ × ν) → Option (ν × List (κ × ν))
  | [] => none
  | (k, v) :: rest =>
    if k = key then some (v, rest)
    else (take? key rest).map fun (value, others) => (value, (k, v) :: others)

def keys (entries : List (κ × ν)) : List κ := entries.map (·.1)

def ofPairs (pairs : List (κ × ν)) : List (κ × ν) :=
  pairs.foldl (fun entries (key, value) => put key value entries) []

theorem get?_put (key other : κ) (value : ν) (entries : List (κ × ν)) :
    get? other (put key value entries) = if key = other then some value else get? other entries := by
  induction entries with
  | nil => simp [put, get?]
  | cons entry rest ih =>
    obtain ⟨k, v⟩ := entry
    by_cases same : k = key
    · subst same
      by_cases found : k = other <;> simp [put, get?, found]
    · by_cases found : k = other
      · subst found
        simp [put, get?, same, Ne.symm same]
      · simp [put, get?, same, found, ih]

theorem keys_put (key : κ) (value : ν) (entries : List (κ × ν)) :
    keys (put key value entries) =
      if key ∈ keys entries then keys entries else keys entries ++ [key] := by
  induction entries with
  | nil => simp [put, keys]
  | cons entry rest ih =>
    obtain ⟨k, v⟩ := entry
    by_cases same : k = key
    · simp [put, keys, same]
    · simp only [keys] at ih
      by_cases present : key ∈ rest.map (·.1)
      · simp [put, keys, same, ih, present]
      · simp [put, keys, same, ih, present, Ne.symm same]

theorem take?_eq (key : κ) (entries : List (κ × ν)) :
    take? key entries = (get? key entries).map fun value => (value, erase key entries) := by
  induction entries with
  | nil => rfl
  | cons entry rest ih =>
    obtain ⟨k, v⟩ := entry
    by_cases same : k = key
    · simp [take?, get?, erase, same]
    · simp [take?, get?, erase, same, ih, Function.comp_def]

end Proctor.OrderedMap
