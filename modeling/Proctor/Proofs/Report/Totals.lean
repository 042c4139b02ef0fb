import Proctor.Report

/-! The counts of a report: the totals are the counts of all records, and there are failures if a target
failed or a record did, as long as every summary counts its records. -/
namespace Proctor

/-! ### Outcomes -/

namespace Outcome

def records : Outcome → List Record
  | .completed result => result.records
  | .failed _ => []

/-- A target fails as a whole or in one of its records. -/
def Fails : Outcome → Prop
  | .failed _ => True
  | .completed result => ∃ record ∈ result.records, record.passed = false

def Tallied : Outcome → Prop
  | .completed result => result = aggregate result.records
  | .failed _ => True

end Outcome

def tally (records : List Record) : Summary :=
  ⟨records.length, records.countP Record.passed, records.countP (fun record => !record.passed)⟩

theorem aggregate_summary (records : List Record) : (aggregate records).summary = tally records := by
  have split := List.length_eq_countP_add_countP Record.passed (l := records)
  simp only [aggregate,tally,Summary.mk.injEq,true_and]
  simp only [Bool.not_eq_true,Bool.decide_eq_false] at split
  omega

private theorem tally_append (front rest : List Record) :
    tally (front ++ rest) = (tally front).merge (tally rest) := by
  simp [tally,Summary.merge]

namespace Report

private theorem totals_from (report : Report) (tallied : ∀ entry ∈ report, entry.2.Tallied)
    (before : List Record) :
    (report.filterMap fun entry => entry.2.result?).foldl
      (fun total result => total.merge result.summary) (tally before) =
        tally (before ++ report.flatMap fun entry => entry.2.records) := by
  induction report generalizing before with
  | nil => simp
  | cons entry rest ih =>
    obtain ⟨name,outcome⟩ := entry
    have others := ih (fun entry member => tallied entry (List.mem_cons_of_mem _ member))
    cases outcome with
    | failed error => simpa [Outcome.result?,Outcome.records] using others before
    | completed result =>
      have counted : result = aggregate result.records := tallied (name, .completed result) (by simp)
      have summary : result.summary = tally result.records := by
        rw [← aggregate_summary,← counted]
      rw [List.filterMap_cons_some (b := result) (by rfl),List.foldl_cons,summary,← tally_append,
        others,List.flatMap_cons,← List.append_assoc]
      rfl

theorem totals_eq_tally (report : Report) (tallied : ∀ entry ∈ report, entry.2.Tallied) :
    report.totals = tally (report.flatMap fun entry => entry.2.records) := by
  simpa [totals,tally,Summary.empty] using totals_from report tallied []

theorem hasFailures_iff (report : Report) (tallied : ∀ entry ∈ report, entry.2.Tallied) :
    report.hasFailures = true ↔ ∃ entry ∈ report, entry.2.Fails := by
  rw [hasFailures,List.any_eq_true]
  refine exists_congr fun entry => and_congr_right fun member => ?_
  obtain ⟨name,outcome⟩ := entry
  cases outcome with
  | failed error => simp [Outcome.Fails]
  | completed result =>
    have counted : result = aggregate result.records := tallied _ member
    have summary : result.summary = tally result.records := by
      rw [← aggregate_summary,← counted]
    simp [Outcome.Fails,summary,tally,List.countP_pos_iff]

theorem record_absent (report : Report) (name : String) (outcome : Outcome)
    (absent : name ∉ report.map (·.1)) : report.record name outcome = report ++ [(name, outcome)] := by
  induction report with
  | nil => rfl
  | cons entry rest ih =>
    simp only [List.map_cons,List.mem_cons,not_or] at absent
    have others := ih absent.2
    simp only [record] at others
    simp [record,OrderedMap.put,Ne.symm absent.1,others]

end Report

end Proctor
