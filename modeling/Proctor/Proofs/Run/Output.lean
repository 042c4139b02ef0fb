import Proctor.Proofs.Json.Normal
import Proctor.Run.Output
import Mathlib

/-! The records that are read from the output of an interpreter, and why there are none: what every item of
the list says of its test, and the first item that is no record. -/
namespace Proctor.Output
open Json
open Literal (jsonOfSource)

/-! ### Fields -/

def Has (value : Json) (name : String) (field : Json) : Prop :=
  ∃ members, value = .object members ∧ (name, field) ∈ members

def Lacks (value : Json) (name : String) : Prop :=
  ∃ members, value = .object members ∧ name ∉ OrderedMap.keys members

private theorem distinct_of_strict (members : List (String × Json)) (strict : (Json.object members).Strict) :
    (OrderedMap.keys members).Nodup := by
  cases strict with
  | object _ distinct _ => exact distinct

theorem has_iff (members : List (String × Json)) (strict : (Json.object members).Strict) (name : String)
    (field : Json) : Has (.object members) name field ↔ OrderedMap.get? name members = some field := by
  rw [OrderedMap.get?_eq_some _ _ _ (distinct_of_strict members strict)]
  simp [Has]

private theorem lacks_iff (members : List (String × Json)) (name : String) :
    Lacks (.object members) name ↔ OrderedMap.get? name members = none := by
  rw [OrderedMap.get?_eq_none]
  simp [Lacks]

/-! ### What a field says -/

/-- A text is told as it is, any other value by its compact text. -/
inductive Told : Json → String → Prop
  | verbatim (text : String) : Told (.string text) text
  | compact (value : Json) (other : ∀ text, value ≠ .string text) : Told value value.toText

private theorem told_iff (value : Json) (text : String) : Told value text ↔ textOf value = text := by
  constructor
  · rintro (_ | ⟨_,other⟩)
    · rfl
    · cases value with
      | string text => exact absurd rfl (other text)
      | _ => rfl
  · rintro rfl
    cases value with
    | string text => exact .verbatim text
    | _ => exact .compact _ fun _ same => nomatch same

/-- What the item shows as the value that was received. -/
inductive Received (item : Json) : String → Prop
  | shown (value : Json) (field : Has item "received" value) : Received item value.toText
  | nothing (absent : Lacks item "received") : Received item "<no value>"

/-- What the item gives as the error of a failed test; no error and null say nothing. -/
inductive Complaint (item : Json) : String → Prop
  | told (error : Json) (text : String) (field : Has item "error" error) (real : error ≠ .null)
      (told : Told error text) : Complaint item text
  | null (field : Has item "error" .null) : Complaint item "test failed without an error message"
  | nothing (absent : Lacks item "error") : Complaint item "test failed without an error message"

private theorem received_iff (members : List (String × Json)) (strict : (Json.object members).Strict)
    (text : String) : Received (.object members) text ↔
      ((OrderedMap.get? "received" members).map Json.toText).getD noValue = text := by
  constructor
  · rintro (⟨value,field⟩ | absent)
    · rw [(has_iff members strict _ _).mp field]
      rfl
    · rw [(lacks_iff members _).mp absent]
      rfl
  · rintro rfl
    cases found : OrderedMap.get? "received" members with
    | some value => exact .shown value ((has_iff members strict _ _).mpr found)
    | none => exact .nothing ((lacks_iff members _).mpr found)

private theorem complaint_iff (members : List (String × Json)) (strict : (Json.object members).Strict)
    (text : String) : Complaint (.object members) text ↔
      (reportedError? (OrderedMap.get? "error" members)).getD Record.missingError = text := by
  have real (error : Json) (present : error ≠ .null) :
      reportedError? (some error) = some (textOf error) := by
    cases error with
    | null => exact absurd rfl present
    | _ => rfl
  constructor
  · rintro (⟨error,_,field,present,told⟩ | field | absent)
    · rw [(has_iff members strict _ _).mp field,real error present]
      exact (told_iff error _).mp told
    · rw [(has_iff members strict _ _).mp field]
      rfl
    · rw [(lacks_iff members _).mp absent]
      rfl
  · rintro rfl
    cases found : OrderedMap.get? "error" members with
    | none => exact .nothing ((lacks_iff members _).mpr found)
    | some error =>
      have field := (has_iff members strict _ _).mpr found
      by_cases null : error = .null
      · rw [null] at field ⊢
        exact .null field
      · rw [real error null]
        exact .told error _ field null ((told_iff error _).mpr rfl)

/-! ### Items -/

/-- The item is an object with a test and a truth value for whether it passed. -/
structure Proper (item : Json) : Prop where
  test : ∃ test, Has item "test" test
  passed : ∃ passed, Has item "passed" (.bool passed)

/-- The record says what the item says. -/
inductive Describes (item : Json) : Record → Prop
  | passed (test : Json) (name received : String) (named : Has item "test" test) (told : Told test name)
      (marked : Has item "passed" (.bool true)) (shown : Received item received) :
      Describes item ⟨name, some received, none⟩
  | failed (test : Json) (name received error : String) (named : Has item "test" test)
      (told : Told test name) (marked : Has item "passed" (.bool false)) (shown : Received item received)
      (complaint : Complaint item error) : Describes item ⟨name, some received, some error⟩

/-- Why the item at an index is no record. A missing test comes before what is wrong with the mark. -/
inductive Misses (index : Nat) (item : Json) : Misshape → Prop
  | notObject (other : ∀ members, item ≠ .object members) :
      Misses index item (.notObject index (kindOf item))
  | noTest (absent : Lacks item "test") : Misses index item (.noTest index)
  | noPassed (test : Json) (name : String) (named : Has item "test" test) (told : Told test name)
      (absent : Lacks item "passed") : Misses index item (.noPassed index name)
  | passedNotBool (test mark : Json) (name : String) (named : Has item "test" test)
      (told : Told test name) (marked : Has item "passed" mark) (other : ∀ passed, mark ≠ .bool passed) :
      Misses index item (.passedNotBool index name (kindOf mark))

/-- What is read of an item: a record that the item describes, or why it is none. -/
def Reads (index : Nat) (item : Json) : Except Misshape Record → Prop
  | .ok record => Describes item record
  | .error misshape => Misses index item misshape

private theorem recordOf_reads (index : Nat) (item : Json) (strict : item.Strict) :
    Reads index item (recordOf index item) := by
  cases item with
  | object members =>
    have has := has_iff members strict
    have received := (received_iff members strict _).mpr rfl
    have complaint := (complaint_iff members strict _).mpr rfl
    -- The fields are looked for in the order in which they are missed.
    cases test? : OrderedMap.get? "test" members with
    | none =>
      simp only [recordOf,test?]
      exact .noTest ((lacks_iff members _).mpr test?)
    | some test =>
      have named := (has "test" test).mpr test?
      have told := (told_iff test _).mpr rfl
      cases passed? : OrderedMap.get? "passed" members with
      | none =>
        simp only [recordOf,test?,passed?]
        exact .noPassed test _ named told ((lacks_iff members _).mpr passed?)
      | some mark =>
        have marked := (has "passed" mark).mpr passed?
        simp only [recordOf,test?,passed?]
        cases mark with
        | bool passed =>
          cases passed with
          | true => exact .passed test _ _ named told marked received
          | false => exact .failed test _ _ _ named told marked received complaint
        | _ => exact .passedNotBool test _ _ named told marked (by simp)
  | _ => exact .notObject (by simp)

private theorem recordOf_describes (index : Nat) (item : Json) (strict : item.Strict) (record : Record)
    (describes : Describes item record) : recordOf index item = .ok record := by
  cases describes with
  | passed test name received named told marked shown =>
    obtain ⟨members,rfl,_⟩ := id named
    rw [has_iff members strict] at named marked
    rw [told_iff] at told
    rw [received_iff members strict] at shown
    simp only [recordOf,named,marked,told,shown,if_pos,Record.pass]
  | failed test name received error named told marked shown complaint =>
    obtain ⟨members,rfl,_⟩ := id named
    rw [has_iff members strict] at named marked
    rw [told_iff] at told
    rw [received_iff members strict] at shown
    rw [complaint_iff members strict] at complaint
    simp only [recordOf,named,marked,told,shown,Bool.false_eq_true,if_neg,not_false_iff,Record.fail,
      complaint]

private theorem recordOf_ok_iff (index : Nat) (item : Json) (strict : item.Strict) (record : Record) :
    recordOf index item = .ok record ↔ Describes item record := by
  refine ⟨fun read => ?_,recordOf_describes index item strict record⟩
  have reads := recordOf_reads index item strict
  rwa [read] at reads

private theorem recordsFrom_ok_iff (index : Nat) (items : List Json) (strict : ∀ item ∈ items, item.Strict)
    (records : List Record) :
    recordsFrom index items = .ok records ↔ List.Forall₂ Describes items records := by
  induction items generalizing index records with
  | nil =>
    rw [recordsFrom,List.forall₂_nil_left_iff,Except.ok.injEq,eq_comm]
  | cons item items ih =>
    obtain ⟨first,others⟩ := List.forall_mem_cons.mp strict
    rw [recordsFrom,List.forall₂_cons_left_iff]
    simp only [← recordOf_ok_iff index item first,← ih (index + 1) others]
    cases recordOf index item with
    | error misshape => simp [bind,Except.bind]
    | ok record =>
      cases recordsFrom (index + 1) items with
      | error misshape => simp [bind,Except.bind]
      | ok rest => simp [bind,Except.bind,pure,Except.pure,eq_comm]

private theorem recordsOf_array (items : List Json) :
    recordsOf (.array items) = (recordsFrom 0 items).mapError .misshapen := rfl

private theorem recordsOf_object (members : List (String × Json)) :
    recordsOf (.object members) = .error (match OrderedMap.get? "error" members with
      | some error => .reported (textOf error)
      | none => .misshapen (.notList "an object")) := by
  simp only [recordsOf]
  cases OrderedMap.get? "error" members <;> rfl

theorem recordsOf_ok_iff (value : Json) (strict : value.Strict) (records : List Record) :
    recordsOf value = .ok records ↔
      ∃ items, value = .array items ∧ List.Forall₂ Describes items records := by
  cases strict with
  | array items inside =>
    rw [recordsOf_array]
    simp only [Json.array.injEq,exists_eq_left',← recordsFrom_ok_iff 0 items inside]
    cases recordsFrom 0 items <;> simp [Except.mapError]
  | object members distinct inside =>
    simp [recordsOf_object]
  | _ => simp [recordsOf]

theorem normalize_of_read (raw : String) (value : Json) (read : jsonOfSource raw = .ok value) :
    normalize raw = recordsOf value := by
  rw [normalize,read]

end Proctor.Output
