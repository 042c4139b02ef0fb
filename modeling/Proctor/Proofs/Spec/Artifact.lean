import Proctor.Proofs.OrderedMap
import Proctor.Proofs.Spec.Key
import Proctor.Spec.Codec
import Mathlib

/-! A specification is read back from its own text. Three encodings are undone one after another: the
document, the names in it that are keys of parameters, and the typed values in a key. -/
namespace Proctor
open Json Json.Grammar State

/-! ### Targets -/

private theorem Targets.ofMembers_paths (targets : Targets) :
    ofMembers (targets.map fun (name, path) => (name, .string path)) =
      .ok (OrderedMap.ofPairs targets) := by
  unfold ofMembers OrderedMap.ofPairs
  generalize ([] : Targets) = found
  induction targets generalizing found with
  | nil => rfl
  | cons target targets ih => exact ih (insert found target.1 target.2)

private theorem Targets.takes_paths (room : Nat) (text : List Char) (members : List (String × Json))
    (targets : Targets) (derived : Value stepwise (room + 1) text (.object members))
    (denoted : ofMembers (OrderedMap.ofPairs (members.map fun (name, value) => (name, value.settle))) =
      .ok targets) : Takes (Targets.decode (room + 1)) text targets := by
  intro before rest blank delimited
  unfold Targets.decode
  rw [bind_of_ok _ _ _ _ _ (takes_object room text members derived before rest blank delimited),
    denoted]
  rfl

namespace Specification

/-! ### Cases -/

/-- The entry spells the parameters of the case in its name, and has the output of the case. -/
def Denotes (entry : String × TypedValue) (case : Params × TypedValue) : Prop :=
  Params.ofKey entry.1 = .ok case.1 ∧ entry.2 = case.2

private theorem casesOfMembers_entries (entries : List (String × TypedValue))
    (cases : List (Params × TypedValue)) (denote : List.Forall₂ Denotes entries cases) :
    casesOfMembers (entries.map fun (name, expected) => (name, expected.toJson)) = .ok cases := by
  unfold casesOfMembers
  induction denote with
  | nil => rfl
  | @cons entry case entries cases first others ih =>
    obtain ⟨name,expected⟩ := entry
    obtain ⟨params,_⟩ := case
    obtain ⟨spelled,rfl⟩ := first
    dsimp only at spelled
    simp only [List.map_cons,List.mapM_cons,spelled,expected.ofJson_toJson,ih]
    rfl

private theorem takes_cases (room : Nat) (text : List Char) (members : List (String × Json))
    (cases : List (Params × TypedValue)) (derived : Value stepwise (room + 1) text (.object members))
    (denoted : casesOfMembers
      (OrderedMap.ofPairs (members.map fun (name, value) => (name, value.settle))) = .ok cases) :
    Takes (decodeCases (room + 1)) text cases := by
  intro before rest blank delimited
  unfold decodeCases
  rw [bind_of_ok _ _ _ _ _ (takes_object room text members derived before rest blank delimited),
    denoted]
  rfl

/-! ### Documents -/

/-- A text is read whose members fill the fields one after another, in any order and with any blanks. -/
theorem ofText_complete (text : String) (before inner after : List Char)
    (members : List (String × List Char)) (function : String)
    (cases? : Option (List (Params × TypedValue))) (targets? : Option Targets)
    (blankBefore : Blank before) (blankAfter : Blank after)
    (same : text.toList = before ++ ('\x7b' :: inner ++ ['\x7d']) ++ after)
    (inside : Parts (Member Eq) inner members)
    (fills : Fills fields 126 ⟨none, none, none⟩ members ⟨some function, cases?, targets?⟩) :
    ofText text = .ok ⟨function, cases?.getD [], targets?.getD []⟩ := by
  have structure_ := takes_structure fields 126 "struct TestSpecification" _ _ inner members
    inside fills rfl before after blankBefore (delimited_blanks after blankAfter)
  have taken : decode maxOpen text.toList =
      .ok (⟨function, cases?.getD [], targets?.getD []⟩, after) := by
    unfold decode
    rw [same]
    exact bind_of_ok _ _ _ _ _ structure_
  have read : Json.decode decode text = .ok ⟨function, cases?.getD [], targets?.getD []⟩ :=
    readAll_complete _ text _ after taken blankAfter
  rw [ofText,read]

def document (function : String) (entries : List (String × TypedValue)) (targets : Targets) : Json :=
  .object
    [("testfunc", .string function),
      ("tests", .object (entries.map fun (name, expected) => (name, expected.toJson))),
      ("scriptPaths", targets.toJson)]

theorem document_written (spec : Specification) :
    spec.toJson = document spec.function
      (spec.cases.map fun (params, expected) => (params.toKey, expected)) spec.targets := by
  simp [toJson,document]

private theorem fills_document (function : String) (tests paths : List (String × Json))
    (cases : List (Params × TypedValue)) (targets : Targets)
    (testsText : Value stepwise 126 (prettyAt 1 (.object tests)) (.object tests))
    (pathsText : Value stepwise 126 (prettyAt 1 (.object paths)) (.object paths))
    (testsDenote : casesOfMembers
      (OrderedMap.ofPairs (tests.map fun (name, value) => (name, value.settle))) = .ok cases)
    (pathsDenote : Targets.ofMembers
      (OrderedMap.ofPairs (paths.map fun (name, value) => (name, value.settle))) = .ok targets) :
    Fills fields 126 ⟨none, none, none⟩
      [("testfunc", quote function), ("tests", prettyAt 1 (.object tests)),
        ("scriptPaths", prettyAt 1 (.object paths))]
      ⟨some function, some cases, some targets⟩ := by
  refine .more _ ⟨some function, none, none⟩ _ _ _ _ _ rfl rfl (Takes.map _ _ _ _ (takes_string _ _)) ?_
  refine .more _ ⟨some function, some cases, none⟩ _ _ _ _ _ rfl rfl
    (Takes.map _ _ _ _ (takes_cases 125 _ tests cases testsText testsDenote)) ?_
  refine .more _ _ _ _ _ _ _ rfl rfl
    (Takes.map _ _ _ _ (Targets.takes_paths 125 _ paths targets pathsText pathsDenote)) (.none _)

/-- A value that is the same after it is written, read and settled inside a document. -/
structure Lasting (v : Json) : Prop where
  plain : v.Plain
  depth : v.depth ≤ 125
  settled : v.settle = v

private theorem lasting_typed (value : TypedValue) : Lasting value.toJson :=
  ⟨value.toJson_plain,by simp [value.toJson_depth],value.toJson_settle⟩

private theorem lasting_string (text : String) : Lasting (.string text) :=
  ⟨.string text,by simp [Json.depth],rfl⟩

private theorem object_written (level : Nat) (members : List (String × Json))
    (lasting : ∀ member ∈ members, Lasting member.2) :
    Value stepwise 126 (prettyAt level (.object members)) (.object members) := by
  refine layout_pretty.value _ _ (.object _ fun member inside => (lasting member inside).plain) _ _ ?_
  rw [Json.depth,Nat.add_le_add_iff_right,depthMembers_le]
  exact fun member inside => (lasting member inside).depth

/-- A text in the layout is read, whatever spellings of the parameters stand for the cases. -/
theorem ofText_document (function : String) (entries : List (String × TypedValue))
    (cases : List (Params × TypedValue)) (targets : Targets)
    (denote : List.Forall₂ Denotes entries cases) (namesDistinct : (OrderedMap.keys entries).Nodup)
    (targetsDistinct : (OrderedMap.keys targets).Nodup) :
    ofText (document function entries targets).toPrettyText = .ok ⟨function, cases, targets⟩ := by
  let tests := entries.map fun (name, expected) => (name, expected.toJson)
  let paths := targets.map fun (name, path) => (name, Json.string path)
  have testsLasting : ∀ member ∈ tests, Lasting member.2 := by
    simp only [tests,List.mem_map]
    rintro _ ⟨entry,_,rfl⟩
    exact lasting_typed entry.2
  have pathsLasting : ∀ member ∈ paths, Lasting member.2 := by
    simp only [paths,List.mem_map]
    rintro _ ⟨target,_,rfl⟩
    exact lasting_string target.2
  have testsDenote : casesOfMembers
      (OrderedMap.ofPairs (tests.map fun (name, value) => (name, value.settle))) = .ok cases := by
    rw [OrderedMap.ofPairs_map_self settle tests (by rwa [OrderedMap.keys_map])
      fun member inside => (testsLasting member inside).settled]
    exact casesOfMembers_entries entries cases denote
  have pathsDenote : Targets.ofMembers
      (OrderedMap.ofPairs (paths.map fun (name, value) => (name, value.settle))) = .ok targets := by
    rw [OrderedMap.ofPairs_map_self settle paths (by rwa [OrderedMap.keys_map])
      (fun member inside => (pathsLasting member inside).settled),Targets.ofMembers_paths,
      OrderedMap.ofPairs_eq_self _ targetsDistinct]
  obtain ⟨inner,same,parts⟩ := layout_pretty.object Eq (prettyAt 1) 0 [("testfunc", .string function),
    ("tests", .object tests), ("scriptPaths", .object paths)] fun _ _ => rfl
  refine ofText_complete _ [] inner [] _ function (some cases) (some targets) blank_nil blank_nil ?_
    parts (fills_document function tests paths cases targets (object_written 1 tests testsLasting)
      (object_written 1 paths pathsLasting) testsDenote pathsDenote)
  rw [toPrettyText,String.toList_ofList,List.nil_append,List.append_nil]
  exact same

/-- A specification whose cases and targets are told apart by their parameters and names is read back
from its text, everything in its order. -/
theorem reading_undoes_writing (spec : Specification)
    (casesDistinct : (OrderedMap.keys spec.cases).Nodup) (targetsDistinct : (OrderedMap.keys spec.targets).Nodup) : ofText spec.toText = .ok spec := by
  rw [toText,document_written]
  refine ofText_document _ _ spec.cases _ ?_ (Params.toKey_distinct id _ casesDistinct) targetsDistinct
  rw [List.forall₂_map_left_iff]
  exact List.forall₂_same.mpr fun case _ => ⟨Params.ofKey_toKey case.1,rfl⟩

theorem specification_read_back : ∃ spec : Specification,
    spec.cases.length = 2 ∧ spec.targets.length = 2 ∧ (OrderedMap.keys spec.cases).Nodup ∧ (OrderedMap.keys spec.targets).Nodup ∧
    ofText spec.toText = .ok spec := by
  let spec : Specification := ⟨"total", [([], ⟨"0", .int⟩), ([⟨"\"é\"\n", .str⟩], ⟨"\\", .any⟩)],
    [("a.py", "/tmp/a.py"), ("a.py (2)", "C:\\a.py")]⟩
  have cases : (OrderedMap.keys spec.cases).Nodup := by decide
  have targets : (OrderedMap.keys spec.targets).Nodup := by decide
  exact ⟨spec,rfl,rfl,cases,targets,reading_undoes_writing spec cases targets⟩

end Specification
end Proctor
