import Proctor.Proofs.Json.Writing
import Proctor.Report
import Mathlib

/-! Outcomes as values. An outcome whose counts have 64 bits is kept when it is written, and is the outcome
that its value denotes. -/
namespace Proctor
open Json

private theorem Record.ofJson?_toJson (record : Record) : ofJson? record.toJson = some record := by
  obtain ⟨test,received?,error?⟩ := record
  cases received? <;> cases error? <;>
    simp [ofJson?,toJson,fieldValues?,text?,bool?,optionalText?,Json.ofText?,ofFields,passed,
      Except.toOption]

theorem Record.kept (record : Record) : Kept 1 record.toJson := by
  refine .object 0 _ (by simp [OrderedMap.keys]) ?_
  have optional (text? : Option String) : Kept 0 (Json.ofText? text?) := by
    cases text? with
    | none => exact .null 0
    | some text => exact .string 0 text
  simp only [List.forall_mem_cons,List.not_mem_nil,false_imp_iff,implies_true,and_true]
  exact ⟨.string 0 _,.bool 0 _,optional _,optional _⟩

structure Summary.Fits (summary : Summary) : Prop where
  total : summary.total ≤ maxUnsigned
  passed : summary.passed ≤ maxUnsigned
  failed : summary.failed ≤ maxUnsigned

private theorem Summary.ofJson?_toJson (summary : Summary) : ofJson? summary.toJson = some summary := by
  have count (n : Nat) : count? (.int n) = some n := by
    rw [count?,if_neg (Int.not_lt.mpr n.cast_nonneg),Int.toNat_natCast]
  simp [ofJson?,toJson,fieldValues?,count]

theorem Summary.kept (summary : Summary) (fits : summary.Fits) : Kept 1 summary.toJson := by
  refine .object 0 _ (by simp [OrderedMap.keys]) ?_
  simp only [List.forall_mem_cons,List.not_mem_nil,false_imp_iff,implies_true,and_true]
  exact ⟨.count 0 _ fits.total,.count 0 _ fits.passed,.count 0 _ fits.failed⟩

private theorem Result.ofJson?_toJson (result : Result) : ofJson? result.toJson = some result := by
  have records : (result.records.map Record.toJson).mapM Record.ofJson? = some result.records := by
    induction result.records with
    | nil => rfl
    | cons record records ih => simp [record.ofJson?_toJson,ih]
  simp [ofJson?,toJson,fieldValues?,records,Summary.ofJson?_toJson]

theorem Result.kept (result : Result) (fits : result.summary.Fits) : Kept 3 result.toJson := by
  refine .object 2 _ (by simp [OrderedMap.keys]) ?_
  simp only [List.forall_mem_cons,List.not_mem_nil,false_imp_iff,implies_true,and_true]
  refine ⟨.array 1 _ ?_,?_⟩
  · simp only [List.mem_map]
    rintro _ ⟨record,_,rfl⟩
    exact record.kept
  · exact (result.summary.kept fits).mono 1 2 (by decide)

def Outcome.Fits : Outcome → Prop
  | .completed result => result.summary.Fits
  | .failed _ => True

theorem Outcome.ofJson_toJson (outcome : Outcome) : ofJson outcome.toJson = .ok outcome := by
  cases outcome with
  | completed result => rw [ofJson,toJson,result.ofJson?_toJson]
  | failed error => simp [ofJson,toJson,Result.ofJson?,errorOf?,fieldValues?,text?]

theorem Outcome.kept (outcome : Outcome) (fits : outcome.Fits) : Kept 3 outcome.toJson := by
  cases outcome with
  | completed result => exact result.kept fits
  | failed error =>
    refine .object 2 _ (by simp [OrderedMap.keys]) ?_
    simp only [List.forall_mem_cons,List.not_mem_nil,false_imp_iff,implies_true,and_true]
    exact .string 2 error

end Proctor
