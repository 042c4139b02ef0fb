import Proctor.Proofs.Json.Decoding
import Proctor.Proofs.Json.Soundness
import Proctor.Proofs.Report.Totals
import Mathlib

/-! Summaries and the records that they count. The summary of an aggregate counts its records; a summary
that is read from a text is the one in the text, so that it counts the records exactly if it does so there.
What a text says of passed tests and of counts is read here without the records. -/
namespace Proctor
open Json Json.Grammar State

/-- The summary of a result counts its records. -/
structure Result.Counts (result : Result) : Prop where
  total : result.summary.total = result.summary.passed + result.summary.failed
  records : result.summary.total = result.records.length
  failed : result.summary.failed = result.records.countP fun record => !record.passed

private theorem Result.counts_iff (result : Result) : result.Counts ↔ result.summary =
    tally result.records := by
  have split := List.length_eq_countP_add_countP Record.passed (l := result.records)
  simp only [Bool.not_eq_true,Bool.decide_eq_false] at split
  -- The passed records are what the other two counts leave.
  constructor
  · rintro ⟨total,records,failed⟩
    obtain ⟨_,⟨_,_,_⟩⟩ := result
    simp only [tally,Summary.mk.injEq] at *
    omega
  · intro summary
    refine ⟨?_,?_,?_⟩ <;> rw [summary]
    · exact split
    · rfl
    · rfl

theorem Result.eq_aggregate_iff (result : Result) :
    result = aggregate result.records ↔ result.Counts := by
  rw [counts_iff,← aggregate_summary]
  constructor
  · intro same
    exact congrArg Result.summary same
  · intro same
    obtain ⟨records,summary⟩ := result
    exact congrArg (Result.mk records) same

/-! ### What is said of a result -/

structure Census where
  marks : List Bool
  summary : Summary

def Census.Agrees (census : Census) : Prop :=
  census.summary = ⟨census.marks.length, census.marks.count true, census.marks.count false⟩

def Result.census (result : Result) : Census := ⟨result.records.map Record.passed, result.summary⟩

theorem Result.counts_iff_agrees (result : Result) : result.Counts ↔ result.census.Agrees := by
  have marked : tally result.records = ⟨result.census.marks.length, result.census.marks.count true,
      result.census.marks.count false⟩ := by
    simp [tally,census,List.count,List.countP_map,Function.comp_def]
  rw [counts_iff,Census.Agrees,← marked]
  rfl

private theorem Record.ofFields_passed (test : String) (passed : Bool) (received? error? : Option String)
    (record : Record) (made : ofFields test passed received? error? = .ok record) :
    record.passed = passed := by
  unfold ofFields at made
  split at made
  · cases made
  · next apart =>
    cases made
    cases error? <;> cases passed <;> simp_all [Record.passed]

/-! ### Results read straight from a text -/

def Record.decodeMark : Decoder Bool := fun room => do
  let draft ← decodeStructure "struct RawRecord" fields ⟨none, none, none, none⟩ room
  return draft.passed?.getD false

namespace Census

structure Draft where
  marks? : Option (List Bool)
  summary? : Option Summary

def fields : List (Json.Field Draft) :=
  [⟨"results", false, (·.marks?.isSome), fun room draft => do
      return { draft with marks? := some (← decodeList Record.decodeMark room) }⟩,
    ⟨"summary", false, (·.summary?.isSome), fun room draft => do
      return { draft with summary? := some (← Summary.decode room) }⟩]

def decode : Decoder Census := fun room => do
  let draft ← decodeStructure "struct AggregatedResult" fields ⟨none, none⟩ room
  return ⟨draft.marks?.getD [], draft.summary?.getD .empty⟩

end Census

private theorem Record.decodeMark_ok (room : Nat) (text : List Char) (record : Record) (rest : List Char)
    (read : Record.decode room text = .ok (record, rest)) :
    decodeMark room text = .ok (record.passed, rest) := by
  unfold Record.decode at read
  rw [bind_ok] at read
  obtain ⟨draft,_,filled,read⟩ := read
  cases made : ofFields (draft.test?.getD "") (draft.passed?.getD false) (draft.received?.getD none)
      (draft.error?.getD none) with
  | error reason =>
    rw [made] at read
    cases read
  | ok record =>
    rw [made] at read
    cases read
    rw [ofFields_passed _ _ _ _ _ made]
    exact (map_ok _ _ _ _ _).mpr ⟨draft,filled,rfl⟩

structure Census.Alike (draft : Result.Draft) (census : Census.Draft) : Prop where
  marks : census.marks? = draft.records?.map (List.map Record.passed)
  summary : census.summary? = draft.summary?

theorem Census.fields_mirrored : List.Forall₂ (Mirrors Alike) Result.fields Census.fields := by
  refine .cons ⟨rfl,rfl,?_,?_⟩ (.cons ⟨rfl,rfl,?_,?_⟩ .nil)
  · intro draft census alike
    simp [alike.marks]
  · intro room draft census text _ rest alike taken
    obtain ⟨records,read,rfl⟩ := (map_ok _ _ _ _ _).mp taken
    have marks := decodeList_map Record.passed _ _ Record.decodeMark_ok room text records rest read
    exact ⟨_,(map_ok _ _ _ _ _).mpr ⟨_,marks,rfl⟩,rfl,alike.summary⟩
  · intro draft census alike
    simp [alike.summary]
  · intro room draft census text _ rest alike taken
    obtain ⟨summary,read,rfl⟩ := (map_ok _ _ _ _ _).mp taken
    exact ⟨_,(map_ok _ _ _ _ _).mpr ⟨summary,read,rfl⟩,alike.marks,rfl⟩

theorem Census.decode_ok (room : Nat) (text : List Char) (result : Result) (rest : List Char)
    (read : Result.decode room text = .ok (result, rest)) :
    Census.decode room text = .ok (result.census, rest) := by
  obtain ⟨draft,filled,rfl⟩ := (map_ok _ _ _ _ _).mp read
  obtain ⟨census,found,alike⟩ := decodeStructure_mirrored Alike Result.fields fields fields_mirrored _ _
    ⟨none, none⟩ ⟨rfl,rfl⟩ room text draft rest filled
  refine (map_ok _ _ _ _ _).mpr ⟨census,found,?_⟩
  rw [alike.marks,alike.summary,Result.census]
  cases draft.records? <;> rfl

/-- In a text that is read as a result, the counts are those of the records. -/
def Result.TextAgrees (text : String) : Prop :=
  ∀ census, Json.decode Census.decode text = .ok census → census.Agrees

theorem Result.read_counts (text : String) (result : Result)
    (read : Json.decode Result.decode text = .ok result) : result.Counts ↔ TextAgrees text := by
  obtain ⟨rest,taken,blank⟩ := readAll_ok _ text result read
  have found : Json.decode Census.decode text = .ok result.census :=
    readAll_complete _ text _ rest (Census.decode_ok _ _ result rest taken) blank
  simp only [TextAgrees,found,Except.ok.injEq,forall_eq',counts_iff_agrees]

/-! ### Results among values that are already read -/

def Record.mark? (json : Json) : Option Bool := do
  match ← fieldValues? ["test", "passed", "received", "error"] 2 json with
  | [_, some passed, _, _] => bool? passed
  | _ => none

def Census.ofJson? (json : Json) : Option Census := do
  match ← fieldValues? ["results", "summary"] 2 json with
  | [some (.array records), some summary] =>
    return ⟨← records.mapM Record.mark?, ← Summary.ofJson? summary⟩
  | _ => none

private theorem Record.mark?_ok (json : Json) (record : Record) (found : Record.ofJson? json = some record) :
    mark? json = some record.passed := by
  unfold Record.ofJson? at found
  unfold mark?
  cases values : fieldValues? ["test", "passed", "received", "error"] 2 json with
  | none => simp [values] at found
  | some values =>
    simp only [values,Option.bind_eq_bind,Option.bind_some] at found ⊢
    split at found
    · next test passed received error =>
      simp only [Option.bind_eq_some_iff] at found
      obtain ⟨name,_,flag,isFlag,received?,_,error?,_,made⟩ := found
      have kept := ofFields_passed name flag received? error? record (by
        cases built : ofFields name flag received? error? with
        | error reason => simp [built,Except.toOption] at made
        | ok other => simpa [built,Except.toOption] using made)
      rw [kept]
      exact isFlag
    · cases found

private theorem mapM_mapped {α β γ : Type} (first : α → Option β) (other : α → Option γ) (f : β → γ)
    (each : ∀ a b, first a = some b → other a = some (f b)) (items : List α) (found : List β)
    (all : items.mapM first = some found) : items.mapM other = some (found.map f) := by
  induction items generalizing found with
  | nil =>
    cases all
    rfl
  | cons a items ih =>
    simp only [List.mapM_cons,Option.bind_eq_bind,Option.bind_eq_some_iff] at all ⊢
    obtain ⟨b,one,others,rest,made⟩ := all
    cases made
    exact ⟨f b,each a b one,_,ih others rest,rfl⟩

theorem Census.ofJson?_ok (json : Json) (result : Result) (found : Result.ofJson? json = some result) :
    ofJson? json = some result.census := by
  unfold Result.ofJson? at found
  unfold ofJson?
  cases values : fieldValues? ["results", "summary"] 2 json with
  | none => simp [values] at found
  | some values =>
    simp only [values,Option.bind_eq_bind,Option.bind_some] at found ⊢
    split at found
    · next items summary =>
      simp only [Option.bind_eq_some_iff] at found
      obtain ⟨records,each,counts,summed,made⟩ := found
      cases made
      have marks := mapM_mapped Record.ofJson? Record.mark? Record.passed Record.mark?_ok items
        records each
      simp [marks,summed,Result.census]
    · cases found

end Proctor
