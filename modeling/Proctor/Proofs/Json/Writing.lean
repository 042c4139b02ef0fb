import Proctor.Proofs.Json.Grammar
import Proctor.Proofs.Json.Strict
import Proctor.Proofs.OrderedMap
import Mathlib

/-! The compact and the pretty text of a value whose only numbers are counts are derivable in the grammar
of JSON. -/
namespace Proctor.Json
open Grammar

/-! ### Strings -/

private theorem character_escaped (c : Char) : Character (escaped c) c := by
  unfold escaped
  split
  · next same => rw [same]; exact .simple '"' _ (by simp [simpleEscapes])
  split
  · next same => rw [same]; exact .simple '\\' _ (by simp [simpleEscapes])
  split
  · next same => rw [same]; exact .simple 'b' _ (by simp [simpleEscapes])
  split
  · next same => rw [same]; exact .simple 't' _ (by simp [simpleEscapes])
  split
  · next same => rw [same]; exact .simple 'n' _ (by simp [simpleEscapes])
  split
  · next same => rw [same]; exact .simple 'f' _ (by simp [simpleEscapes])
  split
  · next same => rw [same]; exact .simple 'r' _ (by simp [simpleEscapes])
  split
  · next control =>
    have short := Character.short _ c.toNat (hex_padded 4 c.toNat (by decide) (by omega)) (by omega)
    rwa [Char.ofNat_toNat] at short
  · next noQuote noBackslash _ _ _ _ _ printable =>
    exact .verbatim c noQuote noBackslash (Nat.le_of_not_lt printable)

theorem characters_escaped (text : List Char) : Characters (text.flatMap escaped) text := by
  induction text with
  | nil => exact .nil
  | cons c text ih => exact .cons _ c _ text (character_escaped c) ih

theorem quote_eq (text : String) : quote text = '"' :: text.toList.flatMap escaped ++ ['"'] := rfl

private theorem scalar_quote (round : Rounding) (text : String) : Scalar round (quote text) (.string text) := by
  have scalar : Scalar round _ _ := .string _ _ (characters_escaped text.toList)
  rwa [String.ofList_toList] at scalar

/-! ### Counts -/

private theorem whole_digitsOf (n : Nat) : Whole (digitsOf 10 n) := by
  refine ⟨digits_digitsOf n,fun zero => ?_⟩
  rw [digitsOf_head n zero]
  rfl

private theorem scalar_count (round : Rounding) (n : Nat) (fits : n ≤ maxUnsigned) :
    Scalar round (intText n) (.int n) := by
  have valued : Numeral.value round ⟨false, ⟨digitsOf 10 n, [], 0⟩, true⟩ = .ok (.int n) := by
    simp [Numeral.value,ofDigits_digitsOf,fits]
  have positive : intText n = digitsOf 10 n := by simp [intText]
  rw [positive]
  exact .number false _ _ true _ (.integral (whole_digitsOf n)) valued

/-! ### Members -/

private theorem member_written {α : Type} {One : List Char → α → Prop} (name : String) (gaps text : List Char)
    (a : α) (blank : Blank gaps) (one : One text a) :
    Member One (quote name ++ ':' :: (gaps ++ text)) (name, a) := by
  have member := Member.pair _ _ [] gaps text a (characters_escaped name.toList) blank_nil blank one
  rw [String.ofList_toList] at member
  simpa only [quote_eq,List.append_assoc,List.cons_append,List.nil_append] using member

/-! ### Parts -/

private theorem joined_cons (separator text : List Char) (texts : List (List Char)) :
    joined separator (text :: texts) = text ++ texts.flatMap (separator ++ ·) := by
  induction texts generalizing text with
  | nil => simp [joined]
  | cons next texts ih => rw [joined,ih,List.flatMap_cons,List.append_assoc,List.append_assoc]; simp

section Parts
variable {α β : Type} (One : List Char → α → Prop) (text : β → List Char) (make : β → α)
variable (gaps after : List Char) (blank : Blank gaps) (blankAfter : Blank after)
include blank blankAfter

private theorem others_written (items : List β) (each : ∀ b ∈ items, One (text b) (make b)) :
    Others One ((items.map text).flatMap (',' :: gaps ++ ·) ++ after) (items.map make) := by
  induction items with
  | nil => exact .none after blankAfter
  | cons b items ih =>
    have tail := ih fun c member => each c (List.mem_cons_of_mem _ member)
    have whole := Others.more [] gaps (text b) (make b) _ _ blank_nil blank (each b (by simp)) tail
    simpa only [List.map_cons,List.flatMap_cons,List.append_assoc,List.cons_append,List.nil_append]
      using whole

theorem parts_written (before : List Char) (blankBefore : Blank before) (items : List β)
    (each : ∀ b ∈ items, One (text b) (make b)) :
    Parts One (before ++ joined (',' :: gaps) (items.map text) ++ after) (items.map make) := by
  cases items with
  | nil => exact .none _ (blank_append _ _ (by simpa [joined] using blankBefore) blankAfter)
  | cons b items =>
    have tail := others_written One text make gaps after blank blankAfter items
      fun c member => each c (List.mem_cons_of_mem _ member)
    have whole := Parts.some before (text b) (make b) _ _ blankBefore (each b (by simp)) tail
    simpa only [List.map_cons,joined_cons,List.append_assoc] using whole

end Parts

private theorem indent_blank_space (level : Nat) : Blank (indent level) := by
  intro c member
  rcases List.mem_cons.mp member with rfl | space
  · rfl
  · rw [List.eq_of_mem_replicate space]
    rfl

private theorem block_written {α β : Type} (One : List Char → α → Prop) (text : β → List Char) (make : β → α)
    (opening closing : Char) (level : Nat) (items : List β)
    (each : ∀ b ∈ items, One (text b) (make b)) : ∃ inner,
      block opening closing level (items.map text) = opening :: inner ++ [closing] ∧
        Parts One inner (items.map make) := by
  cases items with
  | nil => exact ⟨[],rfl,.none [] blank_nil⟩
  | cons b items =>
    refine ⟨_,?_,parts_written One text make (indent (level + 1)) (indent level) (indent_blank_space _)
      (indent_blank_space _) (indent (level + 1)) (indent_blank_space _) (b :: items) each⟩
    simp [block]

/-! ### Layouts -/

/-- A way to write values: one that opens nothing is written compactly, the parts of an array or an object
stand between its brackets, one level deeper. -/
structure Layout (text : Nat → Json → List Char) : Prop where
  flat (level : Nat) (v : Json) (closed : v.depth = 0) : text level v = v.compact
  array {α : Type} (One : List Char → α → Prop) (make : Json → α) (level : Nat) (items : List Json)
    (each : ∀ item ∈ items, One (text (level + 1) item) (make item)) : ∃ inner,
      text level (.array items) = '[' :: inner ++ [']'] ∧ Parts One inner (items.map make)
  object {α : Type} (One : List Char → α → Prop) (make : Json → α) (level : Nat)
    (members : List (String × Json))
    (each : ∀ member ∈ members, One (text (level + 1) member.2) (make member.2)) : ∃ inner,
      text level (.object members) = '\x7b' :: inner ++ ['\x7d'] ∧
        Parts (Member One) inner (members.map fun member => (member.1, make member.2))

theorem layout_compact : Layout fun _ => compact where
  flat _ _ _ := rfl
  array One make _ items each := by
    refine ⟨_,?_,parts_written One compact make [] [] blank_nil blank_nil [] blank_nil items each⟩
    simp [compact,compactAll_eq]
  object One make _ members each := by
    refine ⟨_,?_,parts_written (Member One) _ (fun member => (member.1, make member.2)) [] [] blank_nil
      blank_nil [] blank_nil members fun member inside =>
        member_written member.1 [] (compact member.2) (make member.2) blank_nil (each member inside)⟩
    simp [compact,compactMembers_eq]

theorem layout_pretty : Layout prettyAt where
  flat level v closed := by
    cases v with
    | array | object => simp [Json.depth] at closed
    | _ => rfl
  array One make level items each := by
    obtain ⟨inner,same,parts⟩ := block_written One (prettyAt (level + 1)) make '[' ']' level items each
    exact ⟨inner,by rw [prettyAt,prettyAll_eq,same],parts⟩
  object One make level members each := by
    obtain ⟨inner,same,parts⟩ := block_written (Member One) _ (fun member => (member.1, make member.2))
      '\x7b' '\x7d' level members fun member inside => member_written member.1 [' ']
        (prettyAt (level + 1) member.2) (make member.2) (by simp [Blank,isSpace]) (each member inside)
    refine ⟨inner,?_,parts⟩
    rw [prettyAt,prettyMembers_eq,← same]
    simp only [List.append_assoc,List.cons_append,List.nil_append]

/-! ### Values -/

/-- A value whose only numbers are counts of 64 bits. -/
inductive Plain : Json → Prop
  | null : Plain .null
  | bool (b : Bool) : Plain (.bool b)
  | count (n : Nat) (fits : n ≤ maxUnsigned) : Plain (.int n)
  | string (text : String) : Plain (.string text)
  | array (items : List Json) (inside : ∀ item ∈ items, Plain item) : Plain (.array items)
  | object (members : List (String × Json)) (inside : ∀ member ∈ members, Plain member.2) :
      Plain (.object members)

theorem Layout.value {text : Nat → Json → List Char} (layout : Layout text) (round : Rounding) (v : Json)
    (plain : Plain v) (level room : Nat) (depth : v.depth ≤ room) : Value round room (text level v) v := by
  have scalar {v : Json} (level room : Nat) (closed : v.depth = 0)
      (derived : Scalar round v.compact v) : Value round room (text level v) v :=
    layout.flat level v closed ▸ value_of_scalar round room _ _ derived
  induction plain generalizing level room with
  | null => exact scalar _ _ rfl .null
  | bool b => cases b with
    | true => exact scalar _ _ rfl .true
    | false => exact scalar _ _ rfl .false
  | count n fits => exact scalar _ _ rfl (scalar_count round n fits)
  | string text => exact scalar _ _ rfl (scalar_quote round text)
  | array items inside ih =>
    cases room with
    | zero => simp [Json.depth] at depth
    | succ room =>
      rw [Json.depth,Nat.add_le_add_iff_right,depthAll_le] at depth
      obtain ⟨inner,same,parts⟩ := layout.array (Value round room) id level items fun item member =>
        ih item member (level + 1) room (depth item member)
      rw [List.map_id] at parts
      rw [same]
      exact .inr (.array inner items parts)
  | object members inside ih =>
    cases room with
    | zero => simp [Json.depth] at depth
    | succ room =>
      rw [Json.depth,Nat.add_le_add_iff_right,depthMembers_le] at depth
      obtain ⟨inner,same,parts⟩ := layout.object (Value round room) id level members
        fun member isMember => ih member isMember (level + 1) room (depth member isMember)
      rw [same]
      exact .inr (.object inner members (by simpa using parts))

/-! ### Values that are kept -/

/-- A value that is the same after it is written, read and settled, with so much room. -/
structure Kept (room : Nat) (v : Json) : Prop where
  plain : v.Plain
  depth : v.depth ≤ room
  settled : v.settle = v

namespace Kept
variable (room : Nat)

theorem null : Kept room .null := ⟨.null,Nat.zero_le _,rfl⟩

theorem bool (b : Bool) : Kept room (.bool b) := ⟨.bool b,Nat.zero_le _,rfl⟩

theorem count (n : Nat) (fits : n ≤ maxUnsigned) : Kept room (.int n) :=
  ⟨.count n fits,Nat.zero_le _,rfl⟩

theorem string (text : String) : Kept room (.string text) := ⟨.string text,Nat.zero_le _,rfl⟩

theorem array (items : List Json) (kept : ∀ item ∈ items, Kept room item) :
    Kept (room + 1) (.array items) where
  plain := .array _ fun item inside => (kept item inside).plain
  depth := by
    rw [Json.depth,Nat.add_le_add_iff_right,depthAll_le]
    exact fun item inside => (kept item inside).depth
  settled := by
    rw [settle,settleAll_eq,List.map_congr_left fun item inside => (kept item inside).settled,
      List.map_id']

theorem object (members : List (String × Json)) (distinct : (OrderedMap.keys members).Nodup)
    (kept : ∀ member ∈ members, Kept room member.2) : Kept (room + 1) (.object members) where
  plain := .object _ fun member inside => (kept member inside).plain
  depth := by
    rw [Json.depth,Nat.add_le_add_iff_right,depthMembers_le]
    exact fun member inside => (kept member inside).depth
  settled := by
    rw [settle,settleMembers_eq]
    exact congrArg Json.object (OrderedMap.ofPairs_map_self settle members distinct
      fun member inside => (kept member inside).settled)

theorem mono (more : Nat) (le : room ≤ more) {v : Json} (kept : Kept room v) : Kept more v :=
  ⟨kept.plain,kept.depth.trans le,kept.settled⟩

theorem laid {text : Nat → Json → List Char} (layout : Layout text) {v : Json} (kept : Kept room v)
    (round : Rounding) (level : Nat) : Value round room (text level v) v :=
  layout.value round v kept.plain level room kept.depth

end Kept
end Proctor.Json
