import Proctor.Proofs.Report.Census
import Proctor.Proofs.Report.Written
import Mathlib

/-! Reports that are read from texts and extended. The summaries of a text are taken as they stand, so a
text whose counts are not those of its records gives a report that disagrees with them; all other
reports count their records. -/
namespace Proctor
open Json Json.Grammar State

/-! ### Outcomes and reports in texts -/

def Json.CountsAgree (json : Json) : Prop :=
  ∀ census, Census.ofJson? json = some census → (Result.ofJson? json).isSome → census.Agrees

def Outcome.Counts : Outcome → Prop
  | .completed result => result.Counts
  | .failed _ => True

private theorem Outcome.counts_iff_tallied (outcome : Outcome) : outcome.Counts ↔ outcome.Tallied := by
  cases outcome with
  | completed result => exact result.eq_aggregate_iff.symm
  | failed error => exact Iff.rfl

private theorem Outcome.ofJson_counts (json : Json) (outcome : Outcome) (found : ofJson json = .ok outcome) :
    outcome.Counts ↔ json.CountsAgree := by
  unfold Outcome.ofJson at found
  cases result? : Result.ofJson? json with
  | some result =>
    rw [result?] at found
    cases found
    have census := Census.ofJson?_ok json result result?
    simp only [Counts,Json.CountsAgree,census,result?,Option.some.injEq,Option.isSome_some,forall_const,
      forall_eq',result.counts_iff_agrees]
  | none =>
    rw [result?] at found
    cases error? : errorOf? json with
    | none =>
      rw [error?] at found
      cases found
    | some error =>
      rw [error?] at found
      cases found
      simp [Counts,Json.CountsAgree,result?]

def Outcome.TextAgrees (text : String) : Prop :=
  ∀ json, Json.decode (value stepwise) text = .ok json → json.CountsAgree

theorem Outcome.read_counts (text : String) (outcome : Outcome)
    (read : Json.decode Outcome.decode text = .ok outcome) : outcome.Counts ↔ TextAgrees text := by
  obtain ⟨rest,taken,blank⟩ := readAll_ok _ text outcome read
  unfold Outcome.decode at taken
  rw [bind_ok] at taken
  obtain ⟨json,_,valued,taken⟩ := taken
  cases denoted : ofJson json with
  | error fault =>
    rw [denoted] at taken
    cases taken
  | ok outcome =>
    rw [denoted] at taken
    cases taken
    have whole : Json.decode (value stepwise) text = .ok json :=
      readAll_complete _ text _ rest valued blank
    simp only [TextAgrees,whole,Except.ok.injEq,forall_eq']
    exact ofJson_counts json outcome denoted

theorem Outcome.decode_laid {text : Nat → Json → List Char} (layout : Layout text) (outcome : Outcome)
    (fits : outcome.Fits) :
    Json.decode decode (String.ofList (text 0 outcome.toJson)) = .ok outcome := by
  have written := ((outcome.kept fits).mono 3 maxOpen (by decide)).laid _ layout stepwise 0
  have valued := value_complete stepwise maxOpen [] _ _ [] blank_nil written Literal.delimited_nil
  rw [List.nil_append,List.append_nil] at valued
  refine readAll_complete _ _ outcome [] ?_ blank_nil
  rw [String.toList_ofList,decode,bind_of_ok _ _ _ _ _ valued,outcome.ofJson_toJson]
  rfl

namespace Report

abbrev Denoted (members : List (String × Json)) (report : Report) : Prop :=
  OrderedMap.Related (fun json outcome => Outcome.ofJson json = .ok outcome) members report

private def addMember (report : Report) (member : String × Json) : Reader Report :=
  match Outcome.ofJson member.2 with
  | .ok outcome => return report.record member.1 outcome
  | .error fault => throw fault

private theorem decode_eq (room : Nat) :
    Report.decode room = (do (← decodeMap room).foldlM addMember []) := rfl

private theorem first_absent (before : Report) (name : String) (json : Json) (members : List (String × Json))
    (distinct : (before.map (·.1) ++ OrderedMap.keys ((name, json) :: members)).Nodup) :
    name ∉ before.map (·.1) := by
  intro inside
  exact (List.nodup_append.mp distinct).2.2 name inside name (by simp [OrderedMap.keys]) rfl

private theorem addMembers_ok (members : List (String × Json)) (before : Report) (text rest : List Char)
    (report : Report) (distinct : (before.map (·.1) ++ OrderedMap.keys members).Nodup)
    (read : members.foldlM addMember before text = .ok (report, rest)) :
    rest = text ∧ ∃ found, report = before ++ found ∧ Denoted members found := by
  induction members generalizing before with
  | nil =>
    cases read
    exact ⟨rfl,[],by simp,.nil⟩
  | cons member members ih =>
    obtain ⟨name,json⟩ := member
    rw [List.foldlM_cons,bind_ok] at read
    obtain ⟨next,_,added,read⟩ := read
    unfold addMember at added
    cases denoted : Outcome.ofJson json with
    | error fault =>
      simp only [denoted] at added
      cases added
    | ok outcome =>
      simp only [denoted] at added
      cases added
      rw [record_absent before name outcome (first_absent before name json members distinct)] at read
      obtain ⟨same,found,rfl,others⟩ := ih _ (by simpa [OrderedMap.keys] using distinct) read
      exact ⟨same,(name, outcome) :: found,by simp,.cons ⟨rfl,denoted⟩ others⟩

private theorem addMembers_complete (members : List (String × Json)) (before found : Report) (text : List Char)
    (distinct : (before.map (·.1) ++ OrderedMap.keys members).Nodup)
    (denoted : Denoted members found) :
    members.foldlM addMember before text = .ok (before ++ found, text) := by
  induction denoted generalizing before with
  | nil => simp
  | @cons member entry members found first others ih =>
    obtain ⟨name,json⟩ := member
    obtain ⟨_,outcome⟩ := entry
    obtain ⟨rfl,valued⟩ := first
    have absent := first_absent before name json members distinct
    have added : addMember before (name, json) text = .ok (before ++ [(name, outcome)], text) := by
      unfold addMember
      simp only [valued,record_absent before name outcome absent]
      rfl
    rw [List.foldlM_cons,bind_of_ok _ _ _ _ _ added,ih _ (by simpa [OrderedMap.keys] using distinct)]
    simp

def TextAgrees (text : String) : Prop :=
  ∀ members, Json.decode decodeMap text = .ok members → ∀ member ∈ members, member.2.CountsAgree

private theorem ofText_members (text : String) (report : Report) (read : ofText text = .ok report) :
    ∃ members, Json.decode decodeMap text = .ok members ∧ Denoted members report := by
  obtain ⟨rest,taken,blank⟩ := readAll_ok _ text report read
  rw [decode_eq,bind_ok] at taken
  obtain ⟨members,after,mapped,taken⟩ := taken
  have distinct := decodeMap_distinct _ _ _ _ mapped
  obtain ⟨rfl,found,rfl,denoted⟩ := addMembers_ok members [] after rest report (by simpa using distinct)
    taken
  exact ⟨members,readAll_complete _ text _ _ mapped blank,denoted⟩

theorem read_counts (text : String) (report : Report) (read : ofText text = .ok report) :
    (∀ entry ∈ report, entry.2.Counts) ↔ TextAgrees text := by
  obtain ⟨members,found,denoted⟩ := ofText_members text report read
  simp only [TextAgrees,found,Except.ok.injEq,forall_eq']
  clear found read
  induction denoted with
  | nil => simp
  | cons first others ih =>
    rw [List.forall_mem_cons,List.forall_mem_cons,ih,Outcome.ofJson_counts _ _ first.2]

/-- A report whose counts have 64 bits is read back from its text in any layout. -/
theorem ofText_laid {text : Nat → Json → List Char} (layout : Layout text) (report : Report)
    (distinct : (OrderedMap.keys report).Nodup) (fits : ∀ entry ∈ report, entry.2.Fits) :
    ofText (String.ofList (text 0 report.toJson)) = .ok report := by
  let members := report.map fun entry => (entry.1, entry.2.toJson)
  have apart : (OrderedMap.keys members).Nodup := by rwa [OrderedMap.keys_map]
  have kept : ∀ member ∈ members, Kept 126 member.2 := by
    simp only [members,List.mem_map]
    rintro _ ⟨entry,inside,rfl⟩
    exact (entry.2.kept (fits entry inside)).mono 3 126 (by decide)
  have denoted : Denoted members report := by
    rw [Denoted,OrderedMap.Related,List.forall₂_map_left_iff]
    exact List.forall₂_same.mpr fun entry _ => ⟨rfl,entry.2.ofJson_toJson⟩
  have mapped := takes_object 126 _ members
    ((Kept.object 126 members apart kept).laid _ layout stepwise 0) [] [] blank_nil Literal.delimited_nil
  rw [OrderedMap.ofPairs_map_self settle members apart fun member inside => (kept member inside).settled,
    List.nil_append,List.append_nil] at mapped
  refine readAll_complete _ _ report [] ?_ blank_nil
  rw [String.toList_ofList,decode_eq]
  have taken : decodeMap maxOpen (text 0 report.toJson) = .ok (members, []) := mapped
  rw [bind_of_ok _ _ _ _ _ taken,addMembers_complete members [] report [] (by simpa using apart) denoted]
  rfl

/-! ### Counts that nothing backs -/

def unbacked : Report := [("a.py", .completed ⟨[], ⟨1, 0, 1⟩⟩)]

/-- The count is taken as it stands: the report has failures, though no target and no record failed. -/
theorem unbacked_count_accepted : ofText unbacked.toJson.toPrettyText = .ok unbacked ∧
    ¬ (∀ entry ∈ unbacked, entry.2.Counts) ∧ ¬ (∃ entry ∈ unbacked, entry.2.Fails) ∧
    unbacked.hasFailures = true ∧ unbacked.totals = ⟨1, 0, 1⟩ := by
  refine ⟨ofText_laid layout_pretty unbacked (List.nodup_singleton _) ?_,?_,?_,rfl,rfl⟩
  · rw [unbacked,List.forall_mem_singleton]
    exact ⟨by decide,by decide,by decide⟩
  · rw [unbacked,List.forall_mem_singleton]
    intro counts
    exact absurd counts.records (by decide)
  · rintro ⟨entry,inside,fails⟩
    obtain rfl := List.mem_singleton.mp inside
    obtain ⟨record,inside,_⟩ := fails
    cases inside

/-! ### Reports that arise -/

end Report

/-- A result that is aggregated, or that is read from a text whose counts are those of its records: alone,
as an outcome or in a report. -/
inductive Result.Obtained : Result → Prop
  | aggregated (records : List Record) : Obtained (aggregate records)
  | alone (text : String) (result : Result) (read : Json.decode decode text = .ok result)
      (agrees : TextAgrees text) : Obtained result
  | ofOutcome (text : String) (result : Result)
      (read : Json.decode Outcome.decode text = .ok (.completed result))
      (agrees : Outcome.TextAgrees text) : Obtained result
  | ofReport (text : String) (report : Report) (name : String) (result : Result)
      (read : Report.ofText text = .ok report) (agrees : Report.TextAgrees text)
      (entry : (name, .completed result) ∈ report) : Obtained result

theorem Result.Obtained.counts {result : Result} (obtained : Obtained result) : result.Counts := by
  cases obtained with
  | aggregated records => exact (eq_aggregate_iff _).mp rfl
  | alone text _ read agrees => exact (read_counts text result read).mpr agrees
  | ofOutcome text _ read agrees => exact (Outcome.read_counts text _ read).mpr agrees
  | ofReport text report name _ read agrees entry =>
    exact (Report.read_counts text report read).mpr agrees _ entry

namespace Report

/-- The reports that arise from the empty one and from texts by recording outcomes. -/
inductive Reachable : Report → Prop
  | empty : Reachable []
  | load (text : String) (report : Report) (read : ofText text = .ok report)
      (agrees : TextAgrees text) : Reachable report
  | fail (report : Report) (name error : String) (before : Reachable report) :
      Reachable (report.record name (.failed error))
  | complete (report : Report) (name : String) (result : Result) (before : Reachable report)
      (obtained : result.Obtained) : Reachable (report.record name (.completed result))

private theorem record_counts (report : Report) (name : String) (outcome : Outcome)
    (before : ∀ entry ∈ report, entry.2.Counts) (counts : outcome.Counts) :
    ∀ entry ∈ report.record name outcome, entry.2.Counts := by
  intro entry member
  rcases OrderedMap.mem_put name outcome report entry member with inside | same
  · exact before entry inside
  · rwa [same]

private theorem reachable_counts (report : Report) (reachable : Reachable report) :
    ∀ entry ∈ report, entry.2.Counts := by
  induction reachable with
  | empty =>
    intro entry inside
    cases inside
  | load text report read agrees => exact (read_counts text report read).mpr agrees
  | fail report name error _ ih => exact record_counts report name _ ih trivial
  | complete report name result _ obtained ih => exact record_counts report name _ ih obtained.counts

/-- Summaries count the records of their results: those that are aggregated always, those that are read
exactly if the text says so. The failures and the totals of a report that arises are then those of its
records. -/
theorem summaries_count_records (records : List Record) (text : String) (report : Report) :
    (aggregate records).Counts ∧
    (∀ result, Json.decode Result.decode text = .ok result →
      (result.Counts ↔ Result.TextAgrees text)) ∧
    (∀ outcome, Json.decode Outcome.decode text = .ok outcome →
      (outcome.Counts ↔ Outcome.TextAgrees text)) ∧
    (ofText text = .ok report → ((∀ entry ∈ report, entry.2.Counts) ↔ TextAgrees text)) ∧
    (Reachable report →
      (∀ entry ∈ report, entry.2.Counts) ∧
      (report.hasFailures = true ↔ ∃ entry ∈ report, entry.2.Fails) ∧
      report.totals = tally (report.flatMap fun entry => entry.2.records)) := by
  refine ⟨(Result.Obtained.aggregated records).counts,Result.read_counts text,
    Outcome.read_counts text,read_counts text report,?_⟩
  intro reachable
  have counts := reachable_counts report reachable
  have tallied : ∀ entry ∈ report, entry.2.Tallied := fun entry inside =>
    entry.2.counts_iff_tallied.mp (counts entry inside)
  exact ⟨counts,hasFailures_iff report tallied,totals_eq_tally report tallied⟩

/-- The failures in a loaded text are counted, and one that is recorded afterwards. -/
theorem loaded_failures_counted : ∃ text loaded, ofText text = .ok loaded ∧ TextAgrees text ∧
    Reachable (loaded.record "b.py" (.failed "no script")) ∧
    (loaded.record "b.py" (.failed "no script")).hasFailures = true ∧
    (loaded.record "b.py" (.failed "no script")).totals = ⟨2, 1, 1⟩ ∧
    Outcome.TextAgrees (Outcome.completed (aggregate [.pass "f()" none])).toJson.toPrettyText ∧
    Result.TextAgrees (.ofList ['[', '[', ']', ',', '[', '0', ',', '0', ',', '0', ']', ']']) := by
  let records : List Record := [.pass "f(1)" (some "1"), .fail "f(2)" none none]
  let loaded : Report := [("a.py", .completed (aggregate records))]
  have fits : ∀ entry ∈ loaded, entry.2.Fits := by
    rw [List.forall_mem_singleton]
    exact ⟨by decide,by decide,by decide⟩
  have read := ofText_laid layout_pretty loaded (List.nodup_singleton _) fits
  obtain ⟨counted,_,_,loads,_⟩ := summaries_count_records records _ loaded
  have agrees := (loads read).mp (List.forall_mem_singleton.mpr counted)
  have reachable := (Reachable.load _ loaded read agrees).fail _ "b.py" "no script"
  have extended : loaded.record "b.py" (.failed "no script") =
      loaded ++ [("b.py", .failed "no script")] := record_absent _ _ _ (by simp [loaded])
  let outcome : Outcome := .completed (aggregate [.pass "f()" none])
  have single := outcome.decode_laid layout_pretty ⟨by decide,by decide,by decide⟩
  have nothing : Json.decode Result.decode
      (.ofList ['[', '[', ']', ',', '[', '0', ',', '0', ',', '0', ']', ']']) = .ok (aggregate []) := by
    refine readAll_complete _ _ _ [] ?_ blank_nil
    rw [String.toList_ofList]
    rfl
  obtain ⟨one,_,ofOutcome,_,arising⟩ := summaries_count_records [.pass "f()" none]
    outcome.toJson.toPrettyText (loaded.record "b.py" (.failed "no script"))
  obtain ⟨none,ofResult,_⟩ := summaries_count_records []
    (.ofList ['[', '[', ']', ',', '[', '0', ',', '0', ',', '0', ']', ']']) []
  obtain ⟨-,failures,totals⟩ := arising reachable
  refine ⟨_,loaded,read,agrees,reachable,failures.mpr ?_,totals.trans ?_,
    (ofOutcome outcome single).mp one,(ofResult _ nothing).mp none⟩
  · exact ⟨("b.py", .failed "no script"),by simp [extended],trivial⟩
  · rw [extended]
    rfl

end Report
end Proctor
