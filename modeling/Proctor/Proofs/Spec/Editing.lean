import Proctor.Proofs.OrderedMap
import Proctor.Spec.Basic

/-! The cases of a specification that is edited. They list a register, which holds a value for each key
beside the order in which the keys came; the last edit of some parameters decides what is expected of
them. -/
namespace Proctor
open OrderedMap (keys get? put erase Last)

/-! ### Registers -/

/-- A value for each key that is present, and the order in which these keys came. -/
structure Register (κ ν : Type) where
  order : List κ
  value : κ → Option ν

namespace Register
variable {κ ν : Type}

def empty : Register κ ν := ⟨[], fun _ => none⟩

def entries (register : Register κ ν) : List (κ × ν) :=
  register.order.filterMap fun key => (register.value key).map (key, ·)

variable [DecidableEq κ]

def store (register : Register κ ν) (key : κ) (value : ν) : Register κ ν where
  order := if (register.value key).isSome then register.order else register.order ++ [key]
  value := Function.update register.value key (some value)

def drop (register : Register κ ν) (key : κ) : Register κ ν where
  order := register.order.filter (· ≠ key)
  value := Function.update register.value key none

/-- The entries are those of the register: each key once, in its order and with its value. -/
structure Lists (entries : List (κ × ν)) (register : Register κ ν) : Prop where
  distinct : (keys entries).Nodup
  order : keys entries = register.order
  value : ∀ key, get? key entries = register.value key

private theorem lists_empty : Lists ([] : List (κ × ν)) empty := ⟨List.nodup_nil,rfl,fun _ => rfl⟩

section Lists
variable {entries : List (κ × ν)} {register : Register κ ν}

theorem Lists.present (lists : Lists entries register) (key : κ) :
    (register.value key).isSome = true ↔ key ∈ keys entries := by
  rw [← lists.value,Option.isSome_iff_ne_none,ne_eq,OrderedMap.get?_eq_none,not_not]

private theorem Lists.entries_eq (lists : Lists entries register) : entries = register.entries := by
  have found : ∀ entry ∈ entries,
      (register.value entry.1).map (entry.1, ·) = some entry := by
    intro entry inside
    rw [← lists.value,(OrderedMap.get?_eq_some entry.1 entry.2 entries lists.distinct).mpr inside]
    rfl
  calc entries = entries.filterMap some := List.filterMap_some.symm
    _ = entries.filterMap fun entry => (register.value entry.1).map (entry.1, ·) :=
      (List.filterMap_congr found).symm
    _ = register.entries := by
      rw [Register.entries,← lists.order,keys,List.filterMap_map]
      rfl

theorem Lists.put (lists : Lists entries register) (key : κ) (value : ν) :
    Lists (put key value entries) (register.store key value) where
  distinct := OrderedMap.nodup_put key value entries lists.distinct
  order := by
    rw [OrderedMap.keys_put,store]
    simp only [lists.present,← lists.order]
  value other := by
    simp only [OrderedMap.get?_put,store,Function.update_apply,lists.value,eq_comm]

theorem Lists.erase (lists : Lists entries register) (key : κ) :
    Lists (erase key entries) (register.drop key) where
  distinct := OrderedMap.nodup_erase key entries lists.distinct
  order := by
    rw [OrderedMap.keys_erase,lists.distinct.erase_eq_filter,drop,← lists.order]
    exact List.filter_congr fun other _ => by simp [bne,beq_eq_decide]
  value other := by
    simp only [drop,Function.update_apply]
    split
    · next same => rw [same,OrderedMap.get?_erase key entries lists.distinct]
    · next apart => rw [OrderedMap.get?_erase_other key other entries apart,lists.value]

end Lists
end Register

/-! ### Edits -/

namespace Specification

private theorem takeCase_eq (spec : Specification) (params : Params) :
    spec.takeCase params = (spec.expectedFor? params, spec.removeCase params) := by
  rw [takeCase,OrderedMap.take?_eq,expectedFor?,removeCase]
  cases found : get? params spec.cases with
  | some expected => rfl
  | none =>
    have absent := (OrderedMap.get?_eq_none params spec.cases).mp found
    rw [OrderedMap.erase_absent params spec.cases absent]
    rfl

inductive Edit
  | add (params : Params) (expected : TypedValue)
  | remove (params : Params)

def Edit.params : Edit → Params
  | .add params _ => params
  | .remove params => params

def Edit.left? : Edit → Option TypedValue
  | .add _ expected => some expected
  | .remove _ => none

def edit (spec : Specification) : Edit → Specification
  | .add params expected => spec.addCase params expected
  | .remove params => (spec.takeCase params).2

def edited (function : String) (edits : List Edit) : Specification := edits.foldl edit (new function)

def enter (register : Register Params TypedValue) : Edit → Register Params TypedValue
  | .add params expected => register.store params expected
  | .remove params => register.drop params

def registered (edits : List Edit) : Register Params TypedValue := edits.foldl enter .empty

private theorem edited_snoc (function : String) (edits : List Edit) (last : Edit) :
    edited function (edits ++ [last]) = (edited function edits).edit last := by
  simp [edited]

private theorem registered_snoc (edits : List Edit) (last : Edit) :
    registered (edits ++ [last]) = enter (registered edits) last := by
  simp [registered]

/-- What one edit preserves. -/
theorem lists_edit (spec : Specification) (register : Register Params TypedValue)
    (lists : Register.Lists spec.cases register) (e : Edit) :
    Register.Lists (spec.edit e).cases (enter register e) := by
  cases e with
  | add params expected => exact lists.put params expected
  | remove params =>
    rw [edit,takeCase_eq]
    exact lists.erase params

/-- What all edits preserve. -/
theorem edited_lists (function : String) (edits : List Edit) :
    Register.Lists (edited function edits).cases (registered edits) := by
  induction edits using List.reverseRecOn with
  | nil => exact Register.lists_empty
  | append_singleton edits last ih =>
    rw [edited_snoc,registered_snoc]
    exact lists_edit _ _ ih last

/-! ### What one edit changes -/

section Edit
variable (spec : Specification)

private theorem edit_expects_other (e : Edit) (other : Params) (apart : e.params ≠ other) :
    (spec.edit e).expectedFor? other = spec.expectedFor? other := by
  cases e with
  | add added expected =>
    exact (OrderedMap.get?_put added other expected spec.cases).trans (if_neg apart)
  | remove removed =>
    rw [edit,takeCase_eq]
    exact OrderedMap.get?_erase_other removed other spec.cases (Ne.symm apart)

private theorem edit_expects (distinct : (keys spec.cases).Nodup) (e : Edit) (params : Params) :
    (spec.edit e).expectedFor? params = if e.params = params then e.left? else spec.expectedFor? params := by
  split
  · next same =>
    subst same
    cases e with
    | add added expected => exact (OrderedMap.get?_put added added expected spec.cases).trans (if_pos rfl)
    | remove removed =>
      rw [edit,takeCase_eq]
      exact OrderedMap.get?_erase removed spec.cases distinct
  · next apart => exact spec.edit_expects_other e params apart

private theorem edit_others (e : Edit) :
    (spec.edit e).cases.filter (·.1 ≠ e.params) = spec.cases.filter (·.1 ≠ e.params) := by
  cases e with
  | add params expected => exact OrderedMap.others_put params expected spec.cases
  | remove params =>
    rw [edit,takeCase_eq]
    exact OrderedMap.others_erase params spec.cases

private theorem edit_frame (e : Edit) :
    (spec.edit e).function = spec.function ∧ (spec.edit e).targets = spec.targets := by
  cases e with
  | add params expected => exact ⟨rfl,rfl⟩
  | remove params =>
    rw [edit,takeCase_eq]
    exact ⟨rfl,rfl⟩

/-- Parameters that are there keep their place with a new output, and leave it with the one they had. -/
theorem edit_present (distinct : (keys spec.cases).Nodup) (params : Params) (old : TypedValue)
    (before after : List (Params × TypedValue)) (split : spec.cases = before ++ (params, old) :: after) :
    (∀ expected, (spec.addCase params expected).cases = before ++ (params, expected) :: after) ∧
      spec.takeCase params = (some old, { spec with cases := before ++ after }) := by
  have absent : params ∉ keys before := by
    rw [split,keys,List.map_append,List.nodup_append] at distinct
    exact fun present => distinct.2.2 params present params (by simp) rfl
  have found : spec.expectedFor? params = some old := by
    rw [expectedFor?,OrderedMap.get?_eq_some params old spec.cases distinct,split]
    simp
  refine ⟨fun expected => ?_,?_⟩
  · rw [addCase,split]
    exact OrderedMap.put_split params old expected before after absent
  · rw [takeCase_eq,found,removeCase,split,OrderedMap.erase_split params old before after absent]

private theorem edit_absent (params : Params) (absent : params ∉ keys spec.cases) :
    (∀ expected, (spec.addCase params expected).cases = spec.cases ++ [(params, expected)]) ∧
      spec.takeCase params = (none, spec) := by
  refine ⟨fun expected => OrderedMap.put_absent params expected spec.cases absent,?_⟩
  rw [takeCase_eq,expectedFor?,(OrderedMap.get?_eq_none params spec.cases).mpr absent,removeCase,
    OrderedMap.erase_absent params spec.cases absent]

private theorem edit_again (distinct : (keys spec.cases).Nodup) (params : Params) (expected : TypedValue) :
    ((spec.takeCase params).2.addCase params expected).cases =
      spec.cases.filter (·.1 ≠ params) ++ [(params, expected)] := by
  have gone := (OrderedMap.get?_eq_none _ _).mp (OrderedMap.get?_erase params spec.cases distinct)
  rw [takeCase_eq,← OrderedMap.erase_eq_filter params spec.cases distinct]
  exact OrderedMap.put_absent params expected _ gone

end Edit

/-- The last edit of some parameters decides: they have the output of an addition, and none after a
removal. -/
theorem edited_expects (function : String) (edits : List Edit) (params : Params) (expected : TypedValue) :
    (edited function edits).expectedFor? params = some expected ↔
      Last params (some expected) (edits.map fun e => (e.params, e.left?)) := by
  induction edits using List.reverseRecOn with
  | nil => simp [edited,new,expectedFor?,get?,Last]
  | append_singleton edits last ih =>
    have distinct := (edited_lists function edits).distinct
    rw [edited_snoc,edit_expects _ distinct,List.map_append,List.map_singleton,OrderedMap.last_snoc,← ih]
    split <;> rfl

/-- Edits leave everything but the cases as it was. -/
theorem edits_frame (start : Specification) (edits : List Edit) :
    (edits.foldl edit start).function = start.function ∧ (edits.foldl edit start).targets = start.targets := by
  induction edits generalizing start with
  | nil => exact ⟨rfl,rfl⟩
  | cons first edits ih =>
    have frame := edit_frame start first
    obtain ⟨function,targets⟩ := ih (start.edit first)
    exact ⟨function.trans frame.1,targets.trans frame.2⟩

/-- Whatever edits are done, the cases are the entries of the register after the same edits, and what is
expected of parameters is what the last addition says that no removal follows. One more edit of parameters
that are there puts the new output in the old place, or returns the stored output and closes the gap; of
parameters that are not there, it appends a case or changes nothing. Parameters that are removed and added
again come last. From any specification an edit leaves the cases of other parameters, in their order, and
what is expected of them as they were, and all edits leave the function and the targets. -/
theorem edits_refine_register (function : String) (edits : List Edit) :
    let spec := edited function edits
    spec.cases = (registered edits).entries ∧ spec.targets = [] ∧
    (∀ params, spec.expectedFor? params = (registered edits).value params ∧
      (spec.takeCase params).1 = (registered edits).value params) ∧
    (∀ params expected, spec.expectedFor? params = some expected ↔
      Last params (some expected) (edits.map fun e => (e.params, e.left?))) ∧
    (∀ before params old after, spec.cases = before ++ (params, old) :: after →
      (∀ expected, (spec.addCase params expected).cases = before ++ (params, expected) :: after) ∧
      spec.takeCase params = (some old, { spec with cases := before ++ after })) ∧
    (∀ params, params ∉ keys spec.cases →
      (∀ expected, (spec.addCase params expected).cases = spec.cases ++ [(params, expected)]) ∧
      spec.takeCase params = (none, spec)) ∧
    (∀ params expected, ((spec.takeCase params).2.addCase params expected).cases =
      spec.cases.filter (·.1 ≠ params) ++ [(params, expected)]) ∧
    ∀ start : Specification,
      (∀ e : Edit,
        (start.edit e).cases.filter (·.1 ≠ e.params) = start.cases.filter (·.1 ≠ e.params) ∧
        (∀ other, e.params ≠ other → (start.edit e).expectedFor? other = start.expectedFor? other) ∧
        (start.edit e).targets = start.targets) ∧
      (edits.foldl edit start).function = start.function ∧
      (edits.foldl edit start).targets = start.targets := by
  intro spec
  have lists : Register.Lists spec.cases (registered edits) := edited_lists function edits
  have distinct := lists.distinct
  refine ⟨lists.entries_eq,(edits_frame (new function) edits).2,?_,edited_expects function edits,?_,
    edit_absent spec,edit_again spec distinct,?_⟩
  · intro params
    rw [takeCase_eq]
    exact ⟨lists.value params,lists.value params⟩
  · exact fun before params old after => edit_present spec distinct params old before after
  · intro start
    exact ⟨fun e => ⟨edit_others start e,edit_expects_other start e,(edit_frame start e).2⟩,edits_frame start edits⟩

/-- A case that is added again keeps its place with its new output; one that is removed and added again
comes last. -/
theorem replaced_case_keeps_place :
    let one : Params := [⟨"1", .int⟩]
    let two : Params := [⟨"2", .int⟩]
    let edits : List Edit :=
      [.add one ⟨"a", .str⟩, .add two ⟨"b", .str⟩, .add [] ⟨"c", .str⟩, .remove one, .add two ⟨"d", .str⟩]
    let spec := edited "f" edits
    spec.cases = [(two, ⟨"d", .str⟩), ([], ⟨"c", .str⟩)] ∧
      spec.takeCase two = (some ⟨"d", .str⟩, { spec with cases := [([], ⟨"c", .str⟩)] }) ∧
      spec.takeCase one = (none, spec) ∧
      ((spec.takeCase two).2.addCase two ⟨"e", .str⟩).cases = [([], ⟨"c", .str⟩), (two, ⟨"e", .str⟩)] ∧
      (spec.edit (.remove [])).expectedFor? two = some ⟨"d", .str⟩ := by
  intro one two edits spec
  have cases : spec.cases = [(two, ⟨"d", .str⟩), ([], ⟨"c", .str⟩)] := by decide
  obtain ⟨-,-,-,-,present,absent,again,others⟩ := edits_refine_register "f" edits
  refine ⟨cases,(present [] two _ _ cases).2,(absent one (by decide)).2,(again two _).trans (by decide),?_⟩
  exact (((others spec).1 (.remove [])).2.1 two (by decide)).trans (by decide)

end Specification
end Proctor
