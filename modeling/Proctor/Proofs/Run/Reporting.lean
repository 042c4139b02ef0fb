import Proctor.Cli.Commands
import Proctor.Proofs.Report.Totals
import Proctor.Proofs.Run.Pipeline

/-! The report of a run: one entry for each target that is not skipped, in order, with the counts of
all records and the exit code that follow from it. -/
namespace Proctor

private theorem Cli.runSpec_code (machine : Machine) (verbose : Bool) (path : String) (options : RunOptions)
    (runner : RunnerOptions) (spec : Specification) (report : Report)
    (loaded : loadSpec path (machine.readText path) options = .ok spec)
    (reported : (World.run { runner.config machine with scan := !options.noScan } spec
      ⟨machine, options.prompt machine⟩).1 = some (.ok report)) :
    (runSpec machine verbose path options runner).code = 1 ↔ report.hasFailures = true := by
  simp only [runSpec,loaded]
  rcases ran : World.run { runner.config machine with scan := !options.noScan } spec
    ⟨machine, options.prompt machine⟩ with ⟨result?,world,steps⟩
  rw [ran] at reported
  cases reported
  cases failing : report.hasFailures <;> simp [failureCode,failing]

namespace Surroundings
variable {σ : Type} (around : Surroundings σ)

theorem recordAll_distinct (report found : Report)
    (distinct : (report.map (·.1) ++ found.map (·.1)).Nodup) :
    recordAll report found = report ++ found := by
  induction found generalizing report with
  | nil => simp [recordAll]
  | cons entry rest ih =>
    obtain ⟨name,outcome⟩ := entry
    have absent : name ∉ report.map (·.1) := by
      intro member
      exact (List.nodup_append.mp distinct).2.2 name member name (by simp) rfl
    have next := ih (report ++ [(name, outcome)]) (by simpa using distinct)
    simpa [recordAll,Report.record_absent report name outcome absent] using next

theorem entries_names (targets : Targets) (outcomes : List (Option Outcome)) :
    ((entries targets outcomes).map (·.1)).Sublist (targets.map (·.1)) := by
  induction targets generalizing outcomes with
  | nil => simp [entries]
  | cons target others ih =>
    cases outcomes with
    | nil => simp [entries]
    | cons outcome? outcomes =>
      have rest := ih outcomes
      cases outcome? with
      | none => exact rest.cons _
      | some outcome => exact rest.cons_cons target.1

theorem entries_outcome (targets : Targets) (outcomes : List (Option Outcome))
    (entry : String × Outcome) (member : entry ∈ entries targets outcomes) :
    some entry.2 ∈ outcomes := by
  simp only [entries,List.mem_filterMap,Option.map_eq_some_iff,Prod.exists] at member
  obtain ⟨name,path,outcome?,zipped,outcome,rfl,rfl⟩ := member
  exact (List.of_mem_zip zipped).2

private theorem treats_tallied (request name path : String) (world after : σ) (outcome : Outcome)
    (treats : Treats around request name path world (some outcome) after) : outcome.Tallied := by
  cases treats with
  | cancelled => trivial
  | unexecuted => trivial
  | refused => trivial
  | completed => rfl

theorem pipeline_tallied (request : String) (targets : Targets) (world after : σ)
    (outcomes : List (Option Outcome))
    (pipeline : Pipeline around request targets world outcomes after) :
    outcomes.length = targets.length ∧ ∀ outcome, some outcome ∈ outcomes → outcome.Tallied := by
  induction pipeline with
  | done world => simp
  | next name path others world middle after outcome? outcomes treats rest ih =>
    refine ⟨by simp [ih.1],?_⟩
    intro outcome member
    rcases List.mem_cons.mp member with rfl | inside
    · exact around.treats_tallied request name path _ middle outcome treats
    · exact ih.2 outcome inside

/-! ### Runs that end -/

/-- Every program ends, whoever is asked comes to a decision, and the request is written and removed or that
fails. -/
structure Responsive : Prop where
  writes : ∀ content world, (around.write content world).1.isSome
  scans : ∀ path world, (around.scan path world).1.isSome
  executes : ∀ request path world, (around.execute request path world).1.isSome
  decides : ∀ request world, ∃ passage after, Decides around request world passage after
  removes : ∀ request world, (around.remove request world).1.isSome

private theorem treats_exists (responsive : Responsive around) (request name path : String) (world : σ) :
    ∃ outcome? after, Treats around request name path world outcome? after := by
  rcases scanned : around.scan path world with ⟨answer?,next⟩
  obtain ⟨⟨verdict,notices⟩,rfl⟩ := Option.isSome_iff_exists.mp
    (by simpa [scanned] using responsive.scans path world : answer?.isSome)
  have scans : Scans around name path world verdict
      (around.hear (.scanned name verdict) (around.heard notices next)) := ⟨notices,next,scanned,rfl⟩
  generalize around.hear (.scanned name verdict) (around.heard notices next) = flagged at scans
  obtain ⟨passage,passed,gates⟩ : ∃ passage passed,
      Gates around name path verdict flagged passage passed := by
    cases verdict with
    | clean => exact ⟨_,_,.clean flagged⟩
    | scanFailed reason => exact ⟨_,_,.scanFailed reason flagged⟩
    | suspicious reasons =>
      obtain ⟨passage,passed,decides⟩ := responsive.decides ⟨name,path,reasons⟩ flagged
      exact ⟨passage,passed,.suspicious reasons flagged passed passage decides⟩
  cases passage with
  | skipped => exact ⟨_,_,.skipped world flagged passed verdict scans gates⟩
  | cancelled => exact ⟨_,_,.cancelled world flagged passed verdict scans gates⟩
  | proceed =>
    rcases executed : around.execute request path passed with ⟨answer?,last⟩
    obtain ⟨⟨result,told⟩,rfl⟩ := Option.isSome_iff_exists.mp
      (by simpa [executed] using responsive.executes request path passed : answer?.isSome)
    exact ⟨_,_,around.treats_of_executes request name path world flagged passed _ verdict result
      scans gates ⟨told,last,executed,rfl⟩⟩

private theorem pipeline_exists (responsive : Responsive around) (request : String) (targets : Targets)
    (world : σ) : ∃ outcomes after, Pipeline around request targets world outcomes after := by
  induction targets generalizing world with
  | nil => exact ⟨[],world,.done world⟩
  | cons target others ih =>
    obtain ⟨name,path⟩ := target
    obtain ⟨outcome?,middle,treats⟩ := around.treats_exists responsive request name path
      (around.hear (.targetStart name path) world)
    obtain ⟨outcomes,after,rest⟩ := ih (around.hear (closing name outcome?) middle)
    exact ⟨outcome? :: outcomes,after,.next name path others world middle after outcome? outcomes
      treats rest⟩

section Run
variable (elapsed : σ → Nanoseconds) (spec : Specification) (world written : σ) (request : String)
  (wrote : around.write spec.toText world = (some (.ok request), written))
include wrote

theorem run_ends (responsive : Responsive around) :
    ∃ bound, ∀ patience, bound ≤ patience →
      (around.run patience elapsed spec world).1.isSome := by
  obtain ⟨outcomes,after,pipeline⟩ := around.pipeline_exists responsive request spec.targets
    (around.hear (.runStart spec) written)
  obtain ⟨bound,steps,ran⟩ := around.runTargets_of_pipeline request spec.targets _ after outcomes
    pipeline []
  rcases removed : around.remove request after with ⟨problem??,cleaned⟩
  obtain ⟨problem?,rfl⟩ := Option.isSome_iff_exists.mp
    (by simpa [removed] using responsive.removes request after : problem??.isSome)
  refine ⟨bound,fun patience enough => ?_⟩
  rw [around.run_ended patience elapsed spec world written request wrote after steps _ cleaned
    (ran patience enough) problem? removed]
  rfl

private theorem run_pipeline (patience : Nat) (result : Except WriteError Report)
    (ran : (around.run patience elapsed spec world).1 = some result) :
    ∃ outcomes after, Pipeline around request spec.targets (around.hear (.runStart spec) written)
      outcomes after ∧ result = .ok (recordAll [] (entries spec.targets outcomes)) := by
  rcases run : around.run patience elapsed spec world with ⟨result?,final,steps⟩
  rw [run] at ran
  cases around.course_of_run patience elapsed spec request written world wrote result? final steps run with
  | abandoned | uncleaned => cases ran
  | ended after _ _ report _ during gone _ _ =>
    cases ran
    obtain ⟨outcomes,pipeline,rfl⟩ := around.pipeline_of_runTargets patience request spec.targets []
      report _ after during gone
    exact ⟨outcomes,after,pipeline,rfl⟩

/-- The report has an entry for each target that is not skipped, in order, with the outcome that the
pipeline gives it; its totals, its failures and the exit code are those of the records. -/
theorem run_reports (distinct : (spec.targets.map (·.1)).Nodup) :
    (Responsive around → ∃ bound, ∀ patience, bound ≤ patience →
      (around.run patience elapsed spec world).1.isSome) ∧
    ∀ patience result, (around.run patience elapsed spec world).1 = some result →
      ∃ outcomes after, Pipeline around request spec.targets
          (around.hear (.runStart spec) written) outcomes after ∧
        outcomes.length = spec.targets.length ∧
        let report := entries spec.targets outcomes
        result = .ok report ∧
        (∀ more other, (around.run more elapsed spec world).1 = some other → other = .ok report) ∧
        report.totals = tally (report.flatMap fun entry => entry.2.records) ∧
        (report.hasFailures = true ↔ ∃ entry ∈ report, entry.2.Fails) ∧
        ∀ machine verbose path options runner,
          Cli.loadSpec path (machine.readText path) options = .ok spec →
          (World.run { runner.config machine with scan := !options.noScan } spec
            ⟨machine, options.prompt machine⟩).1 = some (.ok report) →
          ((Cli.runSpec machine verbose path options runner).code = 1 ↔
            ∃ entry ∈ report, entry.2.Fails) := by
  refine ⟨around.run_ends elapsed spec world written request wrote,?_⟩
  intro patience result ran
  obtain ⟨outcomes,after,pipeline,rfl⟩ :=
    around.run_pipeline elapsed spec world written request wrote patience result ran
  have whole : recordAll [] (entries spec.targets outcomes) = entries spec.targets outcomes :=
    recordAll_distinct [] _ (by simpa using (entries_names spec.targets outcomes).nodup distinct)
  obtain ⟨size,tallied⟩ := around.pipeline_tallied request spec.targets _ after outcomes pipeline
  have entry_tallied : ∀ entry ∈ entries spec.targets outcomes, entry.2.Tallied :=
    fun entry member => tallied entry.2 (entries_outcome spec.targets outcomes entry member)
  have failures := Report.hasFailures_iff (entries spec.targets outcomes) entry_tallied
  refine ⟨outcomes,after,pipeline,size,by rw [whole],?_,
    Report.totals_eq_tally _ entry_tallied,failures,?_⟩
  · intro more other again
    obtain ⟨found,last,pipelineAgain,rfl⟩ :=
      around.run_pipeline elapsed spec world written request wrote more other again
    -- The outcomes of a pipeline are determined, whatever the patience.
    obtain ⟨rfl,_⟩ := around.pipeline_unique request spec.targets _ _ _ _ _ pipeline pipelineAgain
    rw [whole]
  · intro machine verbose path options runner loaded reported
    rw [← failures]
    exact Cli.runSpec_code machine verbose path options runner spec _ loaded reported

end Run

/-- Of a clean target without output, a cancelled one and a skipped one, the report has two. -/
theorem cancelled_target_reported :
    let around : Surroundings (List Decision) :=
      { write := fun _ answers => (some (.ok "request.json"), answers)
        scan := fun path answers =>
          (some (if path = "a.py" then .clean else .suspicious "os.system", []), answers)
        ask := fun _ answers => (some ⟨(nextAnswer answers).1, ""⟩, (nextAnswer answers).2)
        edit := fun _ answers => (none, answers)
        execute := fun _ _ answers => (some (.error (.read "gone"), []), answers)
        remove := fun _ answers => (some none, answers) }
    let spec : Specification := ⟨"f", [], [("a", "a.py"), ("b", "b.py"), ("c", "c.py")]⟩
    ∃ outcomes after, Pipeline around "request.json" spec.targets [.openAndReask, .skip] outcomes
        after ∧
      entries spec.targets outcomes =
        [("a", .failed "Failed to read interpreter output: gone"),
          ("c", .failed "execution canceled by user")] := by
  intro around spec
  have distinct : (spec.targets.map (·.1)).Nodup := by decide
  obtain ⟨_,reported⟩ := around.run_reports (fun _ => 0) spec [.openAndReask, .skip]
    [.openAndReask, .skip] "request.json" rfl distinct
  obtain ⟨outcomes,after,pipeline,_,same,_⟩ := reported 2 _ rfl
  exact ⟨outcomes,after,pipeline,(Except.ok.inj same).symm⟩

end Surroundings
end Proctor
