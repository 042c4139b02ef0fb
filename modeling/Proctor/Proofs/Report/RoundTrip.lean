import Proctor.Proofs.Report.Loading
import Mathlib

/-! Reports that are recorded call by call. They hold the last outcome of each name, in the order of the
first calls, and are read back from both of their texts: an outcome is read back as the kind of outcome
that it is, a record with its error exactly if it failed. -/
namespace Proctor
open Json Json.Grammar State

/-- The text is the compact or the pretty one of the value. -/
def Json.Written (value : Json) (text : String) : Prop :=
  text = value.toText ∨ text = value.toPrettyText

private theorem Json.Written.of_laid {value : Json} {holds : String → Prop}
    (laid : ∀ text, Layout text → holds (.ofList (text 0 value))) (text : String)
    (written : value.Written text) : holds text := by
  rcases written with rfl | rfl
  · exact laid _ layout_compact
  · exact laid _ layout_pretty

/-! ### Records -/

private theorem Record.pass_or_fail (record : Record) : record = .pass record.test record.received? ∨
    ∃ error?, record = .fail record.test record.received? error? := by
  obtain ⟨test,received?,error?⟩ := record
  cases error? with
  | none => exact .inl rfl
  | some error => exact .inr ⟨some error,rfl⟩

/-- The fields of a record go together: it has an error exactly if it failed. -/
theorem Record.ofFields_self (record : Record) :
    ofFields record.test record.passed record.received? record.error? = .ok record := by
  obtain ⟨test,received?,error?⟩ := record
  cases error? <;> rfl

private theorem Record.fills_members {text : Nat → Json → List Char} (layout : Layout text) (record : Record)
    (level room : Nat) :
    Fills fields room ⟨none, none, none, none⟩
      [("test", text level (.string record.test)), ("passed", text level (.bool record.passed)),
        ("received", text level (.ofText? record.received?)),
        ("error", text level (.ofText? record.error?))]
      ⟨some record.test, some record.passed, some record.received?, some record.error?⟩ := by
  have optional (text? : Option String) :
      Takes (decodeOptional decodeText room) (text level (.ofText? text?)) text? := by
    rw [layout.flat level _ (by cases text? <;> rfl)]
    exact takes_optional _ _ _ fun text _ => takes_string _ text
  have test : Takes (decodeText room) (text level (.string record.test)) record.test := by
    rw [layout.flat level _ rfl]
    exact takes_string _ _
  have passed : Takes (decodeBool room) (text level (.bool record.passed)) record.passed := by
    rw [layout.flat level _ rfl]
    exact takes_bool _ _
  refine .more _ ⟨some record.test, none, none, none⟩ _ _ _ _ _ rfl rfl (test.map _ _ _ _) ?_
  refine .more _ ⟨some record.test, some record.passed, none, none⟩ _ _ _ _ _ rfl rfl
    (passed.map _ _ _ _) ?_
  refine .more _ ⟨some record.test, some record.passed, some record.received?, none⟩ _ _ _ _ _ rfl rfl
    ((optional record.received?).map _ _ _ _) ?_
  exact .more _ _ _ _ _ _ _ rfl rfl ((optional record.error?).map _ _ _ _) (.none _)

theorem Record.decode_laid {text : Nat → Json → List Char} (layout : Layout text) (record : Record) :
    Json.decode decode (String.ofList (text 0 record.toJson)) = .ok record := by
  obtain ⟨inner,same,parts⟩ := layout.object Eq (text 1) 0 [("test", .string record.test),
    ("passed", .bool record.passed), ("received", .ofText? record.received?),
    ("error", .ofText? record.error?)] fun _ _ => rfl
  have filled := record.fills_members layout 1 126
  have taken := takes_structure fields 126 "struct RawRecord" _ _ inner _ parts filled rfl [] []
    blank_nil Literal.delimited_nil
  rw [List.nil_append,List.append_nil,← same] at taken
  refine readAll_complete _ _ record [] ?_ blank_nil
  rw [String.toList_ofList,decode]
  refine (bind_of_ok _ _ _ _ _ taken).trans ?_
  simp only [Option.getD_some,record.ofFields_self]
  rfl

/-! ### Reports -/

namespace Report

def recorded (calls : List (String × Outcome)) : Report :=
  calls.foldl (fun report (name, outcome) => report.record name outcome) []

private theorem recorded_eq_ofPairs (calls : List (String × Outcome)) :
    recorded calls = OrderedMap.ofPairs calls := rfl

private theorem recorded_fits (calls : List (String × Outcome)) (fits : ∀ call ∈ calls, call.2.Fits) :
    ∀ entry ∈ recorded calls, entry.2.Fits := by
  intro entry inside
  rw [recorded_eq_ofPairs] at inside
  exact fits entry (OrderedMap.mem_ofPairs calls entry inside)

/-- A report that is recorded call by call has every name once, in the order of the first calls, with the
outcome of the last. It is read back from its compact and from its pretty text, whatever counts of 64 bits
its summaries have, and so is every outcome that was recorded, completed or failed, and every record. -/
theorem recording_read_back (calls : List (String × Outcome)) (fits : ∀ call ∈ calls, call.2.Fits) :
    (∀ text, (recorded calls).toJson.Written text → ofText text = .ok (recorded calls)) ∧
    (∀ call ∈ calls, ∀ text, call.2.toJson.Written text → Json.decode Outcome.decode text = .ok call.2) ∧
    (∀ record : Record,
      (record = .pass record.test record.received? ∨
        ∃ error?, record = .fail record.test record.received? error?) ∧
      ∀ text, record.toJson.Written text → Json.decode Record.decode text = .ok record) ∧
    (OrderedMap.keys (recorded calls)).Nodup ∧
    OrderedMap.keys (recorded calls) = (calls.map (·.1)).eraseDups ∧
    ∀ name outcome,
      ((name, outcome) ∈ recorded calls ↔ OrderedMap.Last name outcome calls) ∧
      ((recorded calls).get? name = some outcome ↔ OrderedMap.Last name outcome calls) := by
  have kept := recorded_fits calls fits
  rw [recorded_eq_ofPairs] at kept ⊢
  have distinct := OrderedMap.nodup_ofPairs calls
  refine ⟨Written.of_laid fun text layout => ?_,?_,?_,distinct,OrderedMap.keys_ofPairs calls,?_⟩
  · exact ofText_laid layout _ distinct kept
  · intro call called
    exact Written.of_laid fun text layout => call.2.decode_laid layout (fits call called)
  · intro record
    exact ⟨record.pass_or_fail,Written.of_laid fun text layout => record.decode_laid layout⟩
  · intro name outcome
    have last := OrderedMap.mem_ofPairs_iff name outcome calls
    exact ⟨last,(OrderedMap.get?_eq_some name outcome _ distinct).trans last⟩

/-- A name that failed first keeps its place when it completes, and a count that nothing backs is read
back as it is. -/
theorem replaced_outcome_read_back : ∃ calls : List (String × Outcome), (∀ call ∈ calls, call.2.Fits) ∧
    recorded calls = [("z.py", .completed ⟨[.fail "\"é\"\n" none none, .pass "" (some "1")], ⟨9, 0, 9⟩⟩),
      ("a.py", .failed "")] ∧
    ofText (recorded calls).toJson.toText = .ok (recorded calls) ∧
    ofText (recorded calls).toJson.toPrettyText = .ok (recorded calls) := by
  let calls : List (String × Outcome) := [("z.py", .failed "\\"), ("a.py", .failed ""),
    ("z.py", .completed ⟨[.fail "\"é\"\n" none none, .pass "" (some "1")], ⟨9, 0, 9⟩⟩)]
  have fits : ∀ call ∈ calls, call.2.Fits := by
    simp only [calls,List.forall_mem_cons,List.not_mem_nil,false_imp_iff,implies_true,and_true]
    exact ⟨trivial,trivial,by decide,by decide,by decide⟩
  obtain ⟨readBack,_⟩ := recording_read_back calls fits
  exact ⟨calls,fits,rfl,readBack _ (.inl rfl),readBack _ (.inr rfl)⟩

end Report
end Proctor
