import Proctor.Proofs.Literal.Parsing
import Proctor.Proofs.Json.Strict
import Proctor.Proofs.OrderedMap
import Mathlib

/-! A literal that was parsed nests no deeper than there was room, and its JSON value is strict and nests
no deeper either. -/
namespace Proctor.Literal
open Grammar

/-- At most so many collections are open at once, also in the keys of dicts. -/
inductive Fits : Nat → Literal → Prop
  | null (room : Nat) : Fits room .null
  | bool (room : Nat) (b : Bool) : Fits room (.bool b)
  | int (room : Nat) (n : Int) : Fits room (.int n)
  | float (room : Nat) (x : Binary64) : Fits room (.float x)
  | text (room : Nat) (value : String) : Fits room (.text value)
  | bytes (room : Nat) (value : List UInt8) : Fits room (.bytes value)
  | list (room : Nat) (items : List Literal) (inside : ∀ item ∈ items, Fits room item) :
      Fits (room + 1) (.list items)
  | tuple (room : Nat) (items : List Literal) (inside : ∀ item ∈ items, Fits room item) :
      Fits (room + 1) (.tuple items)
  | set (room : Nat) (items : List Literal) (inside : ∀ item ∈ items, Fits room item) :
      Fits (room + 1) (.set items)
  | dict (room : Nat) (entries : List (Literal × Literal))
      (keys : ∀ entry ∈ entries, Fits room entry.1)
      (contents : ∀ entry ∈ entries, Fits room entry.2) : Fits (room + 1) (.dict entries)

theorem Fits.succ {room : Nat} {a : Literal} (fits : Fits room a) : Fits (room + 1) a := by
  induction fits with
  | null => exact .null _
  | bool _ b => exact .bool _ b
  | int _ n => exact .int _ n
  | float _ x => exact .float _ x
  | text _ value => exact .text _ value
  | bytes _ value => exact .bytes _ value
  | list room items _ ih => exact .list _ items ih
  | tuple room items _ ih => exact .tuple _ items ih
  | set room items _ ih => exact .set _ items ih
  | dict room entries _ _ keys contents => exact .dict _ entries keys contents

/-! ### Parsed literals -/

private theorem series_all {α : Type} {One : List Kind → α → Prop} (kinds : List Kind) (items : List α)
    (series : Series One kinds items) : ∀ a ∈ items, ∃ used, One used a := by
  induction series with
  | one kinds a first => simpa using ⟨kinds,first⟩
  | more kinds a others rest first tail ih =>
    intro b member
    rcases List.mem_cons.mp member with rfl | inside
    · exact ⟨kinds,first⟩
    · exact ih b inside

private theorem items_all {α : Type} {One : List Kind → α → Prop} (kinds : List Kind) (items : List α)
    (found : Items One kinds items) : ∀ a ∈ items, ∃ used, One used a := by
  cases found with
  | none => simp
  | some kinds _ comma series trailing => exact series_all kinds items series

private theorem fits_of_scalar (room : Nat) (kinds : List Kind) (a : Literal) (scalar : Scalar kinds a) :
    Fits room a := by
  cases scalar with
  | null => exact .null room
  | bool b => exact .bool room b
  | number signs inside kind numeral unsigned =>
    unfold signed
    cases unsigned <;> simp only [opposite] <;> repeat' split
    all_goals constructor
  | text parts some => exact .text room _
  | bytes parts some => exact .bytes room _

private theorem fits_members (room : Nat) (a : Literal) (items : List Literal) (held : members? a = some items)
    (fits : Fits room a) : ∀ item ∈ items, Fits room item := by
  cases fits with
  | list room found inside => cases held; exact fun item member => (inside item member).succ
  | tuple room found inside => cases held; exact fun item member => (inside item member).succ
  | set room found inside => cases held; exact fun item member => (inside item member).succ
  | dict room entries keys contents =>
    cases held
    intro item member
    obtain ⟨entry,isEntry,rfl⟩ := List.mem_map.mp member
    exact (keys entry isEntry).succ
  | _ => cases held

private theorem fits_of_construct (room : Nat) (One : List Kind → Literal → Prop)
    (fits : ∀ kinds a, One kinds a → Fits room a) (kinds : List Kind) (a : Literal)
    (construct : Construct One kinds a) : Fits (room + 1) a := by
  have each (items : List Literal) (all : ∀ item ∈ items, ∃ used, One used item) :
      ∀ item ∈ items, Fits room item := by
    intro item member
    obtain ⟨used,one⟩ := all item member
    exact fits used item one
  cases construct with
  | list kinds items inside => exact .list room items (each items (items_all kinds items inside))
  | unit => exact .tuple room [] (by simp)
  | group kinds a inside => exact (fits kinds a inside).succ
  | tuple kinds a others rest first tail =>
    refine .tuple room _ ?_
    intro item member
    rcases List.mem_cons.mp member with rfl | inside
    · exact fits kinds _ first
    · exact each rest (items_all others rest tail) item inside
  | empty => exact .dict room [] (by simp) (by simp)
  | dict kinds entries comma series trailing =>
    have all (entry : Literal × Literal) (member : entry ∈ entries) :
        Fits room entry.1 ∧ Fits room entry.2 := by
      obtain ⟨used,one⟩ := series_all kinds entries series entry member
      cases one with
      | pair first key second content keyOne contentOne =>
        exact ⟨fits first key keyOne,fits second content contentOne⟩
    exact .dict room entries (fun entry member => (all entry member).1)
      fun entry member => (all entry member).2
  | set kinds items comma series trailing =>
    exact .set room items (each items (series_all kinds items series))
  | setOfNone name isSet => exact .set room [] (by simp)
  | setOf name isSet kinds b comma items argument trailing held =>
    exact .set room items (fits_members room b items held (fits kinds b argument))
  | dictOfNone => exact .dict room [] (by simp) (by simp)
  | dictOf kinds entries comma argument trailing => exact (fits kinds _ argument).succ

theorem fits_of_value (room : Nat) (kinds : List Kind) (a : Literal) (derived : Value room kinds a) :
    Fits room a := by
  induction room generalizing kinds a with
  | zero => exact fits_of_scalar 0 kinds a derived
  | succ room ih =>
    rcases derived with scalar | construct
    · exact fits_of_scalar _ kinds a scalar
    · exact fits_of_construct room _ ih kinds a construct

/-! ### Their JSON values -/

theorem allToJson_eq (items : List Literal) : allToJson items = items.map toJson :=
  Json.eq_map _ _ rfl (fun _ _ => rfl) items

theorem entriesToJson_eq (entries : List (Literal × Literal)) :
    entriesToJson entries = entries.map entryToJson :=
  Json.eq_map _ _ rfl (fun _ _ => rfl) entries

private theorem entryToJson_value (entry : Literal × Literal) : (entryToJson entry).2 = toJson entry.2 := by
  obtain ⟨key,content⟩ := entry
  cases key <;> rfl

private theorem floatJson_strict (x : Binary64) : (floatJson x).Strict ∧ (floatJson x).depth = 0 := by
  unfold floatJson
  split
  · next finite => exact ⟨.float x finite,rfl⟩
  · repeat' split
    all_goals exact ⟨.string _,rfl⟩

private theorem intJson_strict (n : Int) : (intJson n).Strict ∧ (intJson n).depth = 0 := by
  unfold intJson
  split
  · next bounds => exact ⟨.int n (by omega) (by omega),rfl⟩
  · exact floatJson_strict _

private theorem array_strict (room : Nat) (items : List Literal)
    (each : ∀ item ∈ items, (toJson item).Strict ∧ (toJson item).depth ≤ room) :
    (Json.array (allToJson items)).Strict ∧ (Json.array (allToJson items)).depth ≤ room + 1 := by
  rw [allToJson_eq]
  constructor
  · refine .array _ ?_
    intro v member
    obtain ⟨item,isItem,rfl⟩ := List.mem_map.mp member
    exact (each item isItem).1
  · rw [Json.depth,Nat.add_le_add_iff_right,Json.depthAll_le]
    intro v member
    obtain ⟨item,isItem,rfl⟩ := List.mem_map.mp member
    exact (each item isItem).2

/-- Every literal that fits has a strict JSON value, whatever it holds. -/
theorem toJson_strict (room : Nat) (a : Literal) (fits : Fits room a) :
    (toJson a).Strict ∧ (toJson a).depth ≤ room := by
  induction fits with
  | null => exact ⟨.null,Nat.zero_le _⟩
  | bool _ b => exact ⟨.bool b,Nat.zero_le _⟩
  | int room n =>
    obtain ⟨strict,flat⟩ := intJson_strict n
    exact ⟨strict,by rw [toJson,flat]; exact Nat.zero_le _⟩
  | float room x =>
    obtain ⟨strict,flat⟩ := floatJson_strict x
    exact ⟨strict,by rw [toJson,flat]; exact Nat.zero_le _⟩
  | text _ value => exact ⟨.string value,Nat.zero_le _⟩
  | bytes _ value => exact ⟨.string _,Nat.zero_le _⟩
  | list room items _ ih => exact array_strict room items ih
  | tuple room items _ ih => exact array_strict room items ih
  | set room items _ ih => exact array_strict room items ih
  | dict room entries _ _ _ contents =>
    have each (member : String × Json) (inside : member ∈ OrderedMap.ofPairs (entriesToJson entries)) :
        member.2.Strict ∧ member.2.depth ≤ room := by
      have isPair := OrderedMap.mem_ofPairs _ member inside
      rw [entriesToJson_eq] at isPair
      obtain ⟨entry,isEntry,rfl⟩ := List.mem_map.mp isPair
      rw [entryToJson_value]
      exact contents entry isEntry
    constructor
    · exact .object _ (OrderedMap.nodup_ofPairs _) fun member inside => (each member inside).1
    · rw [toJson,Json.depth,Nat.add_le_add_iff_right,Json.depthMembers_le]
      exact fun member inside => (each member inside).2

end Proctor.Literal
