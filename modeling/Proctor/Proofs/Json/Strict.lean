import Proctor.Json.Printer
import Mathlib

/-! Strict JSON values, and how deep arrays and objects nest in a value. -/
namespace Proctor.Json

mutual
def depth : Json → Nat
  | .array items => depthAll items + 1
  | .object members => depthMembers members + 1
  | _ => 0

def depthAll : List Json → Nat
  | [] => 0
  | item :: rest => max (depth item) (depthAll rest)

def depthMembers : List (String × Json) → Nat
  | [] => 0
  | member :: rest => max (depthMember member) (depthMembers rest)

def depthMember : String × Json → Nat
  | (_, value) => depth value
end

/-- Integers have 64 bits, with or without a sign; other numbers are finite; the members of an object
have different names. -/
inductive Strict : Json → Prop
  | null : Strict .null
  | bool (b : Bool) : Strict (.bool b)
  | int (n : Int) (least : -2 ^ 63 ≤ n) (greatest : n < 2 ^ 64) : Strict (.int n)
  | float (x : Binary64) (finite : x.isFinite = true) : Strict (.float x)
  | string (text : String) : Strict (.string text)
  | array (items : List Json) (inside : ∀ item ∈ items, Strict item) : Strict (.array items)
  | object (members : List (String × Json)) (distinct : (OrderedMap.keys members).Nodup)
      (inside : ∀ member ∈ members, Strict member.2) : Strict (.object members)

theorem depthAll_le (items : List Json) (room : Nat) :
    depthAll items ≤ room ↔ ∀ item ∈ items, item.depth ≤ room := by
  induction items with
  | nil => simp [depthAll]
  | cons item items ih => simp [depthAll,ih]

theorem depthMembers_le (members : List (String × Json)) (room : Nat) :
    depthMembers members ≤ room ↔ ∀ member ∈ members, member.2.depth ≤ room := by
  induction members with
  | nil => simp [depthMembers]
  | cons member members ih =>
    obtain ⟨name,value⟩ := member
    simp [depthMembers,depthMember,ih]

/-! ### Texts of lists -/

theorem eq_map {α β : Type} (one : α → β) (all : List α → List β) (none : all [] = [])
    (some : ∀ a rest, all (a :: rest) = one a :: all rest) (items : List α) :
    all items = items.map one := by
  induction items with
  | nil => exact none
  | cons a items ih => rw [some,ih,List.map_cons]

theorem compactAll_eq (items : List Json) : compactAll items = items.map compact :=
  eq_map _ _ rfl (fun _ _ => rfl) items

theorem compactMembers_eq (members : List (String × Json)) :
    compactMembers members = members.map fun member => quote member.1 ++ ':' :: compact member.2 :=
  eq_map _ _ rfl (fun (_,_) _ => rfl) members

theorem prettyAll_eq (level : Nat) (items : List Json) :
    prettyAll level items = items.map (prettyAt level) :=
  eq_map _ _ rfl (fun _ _ => rfl) items

theorem prettyMembers_eq (level : Nat) (members : List (String × Json)) :
    prettyMembers level members =
      members.map fun member => quote member.1 ++ [':', ' '] ++ prettyAt level member.2 :=
  eq_map _ _ rfl (fun (_,_) _ => rfl) members

/-! ### Settled values -/

theorem settleAll_eq (items : List Json) : settleAll items = items.map settle :=
  eq_map _ _ rfl (fun _ _ => rfl) items

theorem settleMembers_eq (members : List (String × Json)) :
    settleMembers members = members.map fun member => (member.1, settle member.2) :=
  eq_map _ _ rfl (fun (_,_) _ => rfl) members

end Proctor.Json
