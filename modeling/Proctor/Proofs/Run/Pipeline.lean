import Proctor.Proofs.Run.Course

/-! What becomes of targets, told without bounding the questions: the gate, the five ways in which a
target ends, and one target after another. Runs that end go this way, and runs with enough patience
end. -/
namespace Proctor.Surroundings

variable {σ : Type} (around : Surroundings σ)

/-! ### The gate -/

/-- A prompt comes to a decision on a target, perhaps after answers that open it. -/
inductive Decides (request : Request) : σ → Passage → σ → Prop
  | ends (world after : σ) (answer : Answer) (passage : Passage)
      (asked : around.ask request world = (some answer, after))
      (ended : passage? answer.decision = some passage) : Decides request world passage after
  | again (world next after : σ) (answer : Answer) (passage : Passage)
      (asked : around.ask request world = (some answer, next))
      (opens : answer.decision = .openAndReask)
      (decides : Decides request (around.reopened request next) passage after) :
      Decides request world passage after

/-- How a target passes the gate: only a suspicious one is asked about. -/
inductive Gates (name path : String) : Verdict → σ → Passage → σ → Prop
  | clean (world : σ) : Gates name path .clean world .proceed world
  | scanFailed (reason : String) (world : σ) :
      Gates name path (.scanFailed reason) world .proceed world
  | suspicious (reasons : String) (world after : σ) (passage : Passage)
      (decides : Decides around ⟨name, path, reasons⟩ world passage after) :
      Gates name path (.suspicious reasons) world passage after

private theorem decides_of_decide (request : Request) (patience : Nat) (world after : σ)
    (passage : Passage) (steps : List Step)
    (ran : around.decide request patience world = (some passage, after, steps)) :
    Decides around request world passage after := by
  have course := around.asking_of_decide request patience world after _ steps ran
  clear ran
  generalize found : some passage = found? at course
  induction course with
  | stopped | silent => cases found
  | ended world after answer _ asked ends =>
    cases found
    exact .ends world after answer passage asked ends
  | again world next after answer _ _ asked opens _ ih =>
    exact .again world next after answer passage asked opens (ih found)

private theorem decide_of_decides (request : Request) (world after : σ) (passage : Passage)
    (decides : Decides around request world passage after) :
    ∃ bound steps, ∀ patience, bound ≤ patience →
      around.decide request patience world = (some passage, after, steps) := by
  induction decides with
  | ends world after answer passage asked ended =>
    refine ⟨1,[.asked request answer],?_⟩
    intro patience enough
    obtain ⟨patience,rfl⟩ := Nat.exists_eq_succ_of_ne_zero (by omega : patience ≠ 0)
    exact around.decide_ends request patience world after answer passage asked ended
  | again world next after answer passage asked opens decides ih =>
    obtain ⟨bound,steps,ran⟩ := ih
    refine ⟨bound + 1,.asked request answer :: around.reopening request next ++ steps,?_⟩
    intro patience enough
    obtain ⟨patience,rfl⟩ := Nat.exists_eq_succ_of_ne_zero (by omega : patience ≠ 0)
    exact around.decide_again request patience world next after answer asked opens _ steps
      (ran patience (by omega))

private theorem gates_of_resolve (name path : String) (verdict : Verdict) (patience : Nat)
    (world after : σ) (passage : Passage) (steps : List Step)
    (ran : around.resolve patience verdict name path world = (some passage, after, steps)) :
    Gates around name path verdict world passage after := by
  cases verdict with
  | clean =>
    cases ran
    exact .clean world
  | scanFailed reason =>
    cases ran
    exact .scanFailed reason world
  | suspicious reasons =>
    exact .suspicious reasons world after passage
      (around.decides_of_decide _ patience world after passage steps ran)

private theorem resolve_of_gates (name path : String) (verdict : Verdict) (world after : σ)
    (passage : Passage) (gates : Gates around name path verdict world passage after) :
    ∃ bound steps, ∀ patience, bound ≤ patience →
      around.resolve patience verdict name path world = (some passage, after, steps) := by
  cases gates with
  | clean => exact ⟨0,[],fun _ _ => rfl⟩
  | scanFailed reason => exact ⟨0,[],fun _ _ => rfl⟩
  | suspicious reasons _ _ _ decides => exact around.decide_of_decides _ world after passage decides

/-! ### One target -/

def Scans (name path : String) (world : σ) (verdict : Verdict) (after : σ) : Prop :=
  ∃ notices next, around.scan path world = (some (verdict, notices), next) ∧
    after = around.hear (.scanned name verdict) (around.heard notices next)

def Executes (request path : String) (world : σ) (result : Except ExecError Finished) (after : σ) :
    Prop :=
  ∃ notices next, around.execute request path world = (some (result, notices), next) ∧
    after = around.heard notices next

/-- The ways in which a target ends, each with the outcome if there is one. -/
inductive Treats (request name path : String) : σ → Option Outcome → σ → Prop
  | skipped (world scanned after : σ) (verdict : Verdict)
      (scans : Scans around name path world verdict scanned)
      (gates : Gates around name path verdict scanned .skipped after) :
      Treats request name path world none after
  | cancelled (world scanned after : σ) (verdict : Verdict)
      (scans : Scans around name path world verdict scanned)
      (gates : Gates around name path verdict scanned .cancelled after) :
      Treats request name path world (some (.failed "execution canceled by user")) after
  | unexecuted (world scanned passed after : σ) (verdict : Verdict) (error : ExecError)
      (scans : Scans around name path world verdict scanned)
      (gates : Gates around name path verdict scanned .proceed passed)
      (executes : Executes around request path passed (.error error) after) :
      Treats request name path world (some (.failed error.message)) after
  | refused (world scanned passed after : σ) (verdict : Verdict) (finished : Finished)
      (refusal : Output.Refusal) (scans : Scans around name path world verdict scanned)
      (gates : Gates around name path verdict scanned .proceed passed)
      (executes : Executes around request path passed (.ok finished) after)
      (normalized : Output.normalize finished.text = .error refusal) :
      Treats request name path world (some (.failed refusal.message)) after
  | completed (world scanned passed after : σ) (verdict : Verdict) (finished : Finished)
      (records : List Record) (scans : Scans around name path world verdict scanned)
      (gates : Gates around name path verdict scanned .proceed passed)
      (executes : Executes around request path passed (.ok finished) after)
      (normalized : Output.normalize finished.text = .ok records) :
      Treats request name path world (some (.completed (aggregate records))) after

theorem treats_of_executes (request name path : String) (world scanned passed after : σ)
    (verdict : Verdict) (result : Except ExecError Finished)
    (scans : Scans around name path world verdict scanned)
    (gates : Gates around name path verdict scanned .proceed passed)
    (executes : Executes around request path passed result after) :
    Treats around request name path world (some (outcomeOf result)) after := by
  cases result with
  | error error => exact .unexecuted world scanned passed after verdict error scans gates executes
  | ok finished =>
    cases normalized : Output.normalize finished.text with
    | error refusal =>
      have ended : Treats around request name path world _ after :=
        .refused world scanned passed after verdict finished refusal scans gates executes normalized
      simpa only [outcomeOf,normalized] using ended
    | ok records =>
      have ended : Treats around request name path world _ after :=
        .completed world scanned passed after verdict finished records scans gates executes normalized
      simpa only [outcomeOf,normalized] using ended

theorem treats_of_runTarget (patience : Nat) (request name path : String) (world after : σ)
    (outcome? : Option Outcome) (steps : List Step)
    (ran : around.runTarget patience request name path world = (some outcome?, after, steps)) :
    Treats around request name path world outcome? after := by
  have course := around.course_of_runTarget patience request name path world after _ steps ran
  generalize found : some outcome? = result? at course
  cases course with
  | unscanned | undecided | unexecuted => cases found
  | skipped next _ verdict notices asking scanned resolved =>
    cases found
    exact .skipped world _ after verdict ⟨notices,next,scanned,rfl⟩
      (around.gates_of_resolve name path verdict patience _ after _ asking resolved)
  | cancelled next _ verdict notices asking scanned resolved =>
    cases found
    exact .cancelled world _ after verdict ⟨notices,next,scanned,rfl⟩
      (around.gates_of_resolve name path verdict patience _ after _ asking resolved)
  | executed next passed last verdict notices told asking result scanned resolved executed =>
    cases found
    exact around.treats_of_executes request name path world _ passed _ verdict result
      ⟨notices,next,scanned,rfl⟩
      (around.gates_of_resolve name path verdict patience _ passed _ asking resolved)
      ⟨told,last,executed,rfl⟩

def Enough {α : Type} (ran : Nat → Session σ α) (world : σ) (a : α) (after : σ) : Prop :=
  ∃ bound steps, ∀ patience, bound ≤ patience → ran patience world = (some a, after, steps)

private theorem runTarget_of_treats (request name path : String) (world after : σ)
    (outcome? : Option Outcome) (treats : Treats around request name path world outcome? after) :
    Enough (fun patience => around.runTarget patience request name path) world outcome? after := by
  have stops (scanned : σ) (verdict : Verdict) (passage : Passage)
      (scans : Scans around name path world verdict scanned)
      (gates : Gates around name path verdict scanned passage after) :
      ∃ notices next bound asking, around.scan path world = (some (verdict, notices), next) ∧
        ∀ patience, bound ≤ patience → around.resolve patience verdict name path
          (around.hear (.scanned name verdict) (around.heard notices next)) =
            (some passage, after, asking) := by
    obtain ⟨notices,next,scan_eq,rfl⟩ := scans
    obtain ⟨bound,asking,resolved⟩ := around.resolve_of_gates name path verdict _ after passage gates
    exact ⟨notices,next,bound,asking,scan_eq,resolved⟩
  have goes (scanned passed : σ) (verdict : Verdict) (result : Except ExecError Finished)
      (scans : Scans around name path world verdict scanned)
      (gates : Gates around name path verdict scanned .proceed passed)
      (executes : Executes around request path passed result after) :
      Enough (fun patience => around.runTarget patience request name path) world
        (some (outcomeOf result)) after := by
    obtain ⟨notices,next,scan_eq,rfl⟩ := scans
    obtain ⟨told,last,execute_eq,rfl⟩ := executes
    obtain ⟨bound,asking,resolved⟩ := around.resolve_of_gates name path verdict _ passed .proceed gates
    exact ⟨bound,_,fun patience enough => around.runTarget_executed patience request name path world
      next passed last verdict notices asking scan_eq (resolved patience enough) result told
      execute_eq⟩
  cases treats with
  | skipped scanned _ verdict scans gates =>
    obtain ⟨notices,next,bound,asking,scan_eq,resolved⟩ := stops scanned verdict .skipped scans gates
    exact ⟨bound,_,fun patience enough => around.runTarget_skipped patience request name path world
      next after verdict notices asking scan_eq (resolved patience enough)⟩
  | cancelled scanned _ verdict scans gates =>
    obtain ⟨notices,next,bound,asking,scan_eq,resolved⟩ := stops scanned verdict .cancelled scans gates
    exact ⟨bound,_,fun patience enough => around.runTarget_cancelled patience request name path world
      next after verdict notices asking scan_eq (resolved patience enough)⟩
  | unexecuted scanned passed _ verdict error scans gates executes =>
    exact goes scanned passed verdict (.error error) scans gates executes
  | refused scanned passed _ verdict finished refusal scans gates executes normalized =>
    have ran := goes scanned passed verdict (.ok finished) scans gates executes
    simpa only [outcomeOf,normalized] using ran
  | completed scanned passed _ verdict finished records scans gates executes normalized =>
    have ran := goes scanned passed verdict (.ok finished) scans gates executes
    simpa only [outcomeOf,normalized] using ran

/-! ### All targets -/

/-- Targets one after another, each with its outcome if it has one. -/
inductive Pipeline (request : String) : Targets → σ → List (Option Outcome) → σ → Prop
  | done (world : σ) : Pipeline request [] world [] world
  | next (name path : String) (others : Targets) (world middle after : σ)
      (outcome? : Option Outcome) (outcomes : List (Option Outcome))
      (treats : Treats around request name path (around.hear (.targetStart name path) world)
        outcome? middle)
      (rest : Pipeline request others (around.hear (closing name outcome?) middle) outcomes after) :
      Pipeline request ((name, path) :: others) world (outcome? :: outcomes) after

def entries (targets : Targets) (outcomes : List (Option Outcome)) : Report :=
  (targets.zip outcomes).filterMap fun (target, outcome?) => outcome?.map (target.1, ·)

def recordAll (report : Report) (entries : Report) : Report :=
  entries.foldl (fun report (name, outcome) => report.record name outcome) report

theorem recordAll_entries (report : Report) (name path : String) (others : Targets)
    (outcome? : Option Outcome) (outcomes : List (Option Outcome)) :
    recordAll report (entries ((name, path) :: others) (outcome? :: outcomes)) =
      recordAll (recorded report name outcome?) (entries others outcomes) := by
  cases outcome? <;> rfl

theorem pipeline_of_runTargets (patience : Nat) (request : String) (targets : Targets)
    (report found : Report) (world after : σ) (steps : List Step)
    (ran : around.runTargets patience request targets report world = (some found, after, steps)) :
    ∃ outcomes, Pipeline around request targets world outcomes after ∧
      found = recordAll report (entries targets outcomes) := by
  have course := around.courses_of_runTargets patience request targets report world after _ steps ran
  clear ran
  generalize is : some found = report? at course
  induction course with
  | done report world =>
    cases is
    exact ⟨[],.done world,rfl⟩
  | abandoned => cases is
  | next name path others report world middle after outcome? _ steps _ treated _ ih =>
    obtain ⟨outcomes,pipeline,rfl⟩ := ih is
    have treats := around.treats_of_runTarget patience request name path _ middle outcome? steps treated
    refine ⟨outcome? :: outcomes,?_,(recordAll_entries ..).symm⟩
    exact .next name path others world middle after outcome? outcomes treats pipeline

theorem runTargets_of_pipeline (request : String) (targets : Targets) (world after : σ)
    (outcomes : List (Option Outcome))
    (pipeline : Pipeline around request targets world outcomes after) (report : Report) :
    Enough (fun patience => around.runTargets patience request targets report) world
      (recordAll report (entries targets outcomes)) after := by
  induction pipeline generalizing report with
  | done world => exact ⟨0,[],fun _ _ => rfl⟩
  | next name path others world middle after outcome? outcomes treats rest ih =>
    obtain ⟨bound,steps,ran⟩ := around.runTarget_of_treats request name path _ middle outcome? treats
    obtain ⟨more,back,others_ran⟩ := ih (recorded report name outcome?)
    refine ⟨max bound more,.told (.targetStart name path) :: steps ++
      .told (closing name outcome?) :: back,fun patience enough => ?_⟩
    rw [recordAll_entries]
    exact around.runTargets_next patience request name path others report world middle after outcome?
      _ steps back (ran patience (by omega)) (others_ran patience (by omega))

/-! ### Determinism -/

private theorem decides_unique (request : Request) (world after other : σ) (passage found : Passage)
    (first : Decides around request world passage after)
    (second : Decides around request world found other) : passage = found ∧ after = other := by
  induction first with
  | ends world after answer passage asked ended =>
    cases second with
    | ends _ _ _ _ askedAgain endedAgain =>
      cases asked.symm.trans askedAgain
      cases ended.symm.trans endedAgain
      exact ⟨rfl,rfl⟩
    | again _ _ _ _ _ askedAgain opens =>
      cases asked.symm.trans askedAgain
      simp [passage?,opens] at ended
  | again world next after answer passage asked opens decides ih =>
    cases second with
    | ends _ _ _ _ askedAgain ended =>
      cases asked.symm.trans askedAgain
      simp [passage?,opens] at ended
    | again _ _ _ _ _ askedAgain _ rest =>
      cases asked.symm.trans askedAgain
      exact ih rest

private theorem gates_unique (name path : String) (verdict : Verdict) (world after other : σ)
    (passage found : Passage) (first : Gates around name path verdict world passage after)
    (second : Gates around name path verdict world found other) :
    passage = found ∧ after = other := by
  cases first with
  | clean =>
    cases second
    exact ⟨rfl,rfl⟩
  | scanFailed reason =>
    cases second
    exact ⟨rfl,rfl⟩
  | suspicious reasons _ _ _ decides =>
    cases second with
    | suspicious _ _ _ _ again => exact around.decides_unique _ world after other passage found decides again

private theorem scans_unique (name path : String) (world after other : σ) (verdict found : Verdict)
    (first : Scans around name path world verdict after)
    (second : Scans around name path world found other) : verdict = found ∧ after = other := by
  obtain ⟨notices,next,scanned,rfl⟩ := first
  obtain ⟨_,_,scannedAgain,rfl⟩ := second
  cases scanned.symm.trans scannedAgain
  exact ⟨rfl,rfl⟩

private theorem executes_unique (request path : String) (world after other : σ)
    (result found : Except ExecError Finished) (first : Executes around request path world result after)
    (second : Executes around request path world found other) : result = found ∧ after = other := by
  obtain ⟨notices,next,executed,rfl⟩ := first
  obtain ⟨_,_,executedAgain,rfl⟩ := second
  cases executed.symm.trans executedAgain
  exact ⟨rfl,rfl⟩

/-- A target that is treated is scanned, passes the gate or not, and is executed if it passes. -/
theorem treats_cases (request name path : String) (world after : σ) (outcome? : Option Outcome)
    (treats : Treats around request name path world outcome? after) :
    ∃ verdict scanned passage passed, Scans around name path world verdict scanned ∧
      Gates around name path verdict scanned passage passed ∧
      match passage with
      | .skipped => outcome? = none ∧ after = passed
      | .cancelled => outcome? = some (.failed "execution canceled by user") ∧ after = passed
      | .proceed => ∃ result, Executes around request path passed result after ∧
          outcome? = some (outcomeOf result) := by
  cases treats with
  | skipped scanned _ verdict scans gates => exact ⟨verdict,scanned,_,_,scans,gates,rfl,rfl⟩
  | cancelled scanned _ verdict scans gates => exact ⟨verdict,scanned,_,_,scans,gates,rfl,rfl⟩
  | unexecuted scanned passed _ verdict error scans gates executes =>
    exact ⟨verdict,scanned,_,_,scans,gates,_,executes,rfl⟩
  | refused scanned passed _ verdict finished refusal scans gates executes normalized =>
    exact ⟨verdict,scanned,_,_,scans,gates,_,executes,by simp only [outcomeOf,normalized]⟩
  | completed scanned passed _ verdict finished records scans gates executes normalized =>
    exact ⟨verdict,scanned,_,_,scans,gates,_,executes,by simp only [outcomeOf,normalized]⟩

private theorem treats_unique (request name path : String) (world after other : σ)
    (outcome? found? : Option Outcome) (first : Treats around request name path world outcome? after)
    (second : Treats around request name path world found? other) :
    outcome? = found? ∧ after = other := by
  obtain ⟨verdict,scanned,passage,passed,scans,gates,ending⟩ :=
    around.treats_cases request name path world after outcome? first
  obtain ⟨_,_,_,_,scansAgain,gatesAgain,endingAgain⟩ :=
    around.treats_cases request name path world other found? second
  obtain ⟨rfl,rfl⟩ := around.scans_unique name path world _ _ _ _ scans scansAgain
  obtain ⟨rfl,rfl⟩ := around.gates_unique name path verdict scanned _ _ _ _ gates gatesAgain
  cases passage with
  | skipped => exact ⟨ending.1.trans endingAgain.1.symm,ending.2.trans endingAgain.2.symm⟩
  | cancelled => exact ⟨ending.1.trans endingAgain.1.symm,ending.2.trans endingAgain.2.symm⟩
  | proceed =>
    obtain ⟨result,executes,rfl⟩ := ending
    obtain ⟨_,executesAgain,rfl⟩ := endingAgain
    obtain ⟨rfl,rfl⟩ := around.executes_unique request path passed _ _ _ _ executes executesAgain
    exact ⟨rfl,rfl⟩

theorem pipeline_unique (request : String) (targets : Targets) (world after other : σ)
    (outcomes found : List (Option Outcome))
    (first : Pipeline around request targets world outcomes after)
    (second : Pipeline around request targets world found other) :
    outcomes = found ∧ after = other := by
  induction first generalizing found with
  | done world =>
    cases second
    exact ⟨rfl,rfl⟩
  | next name path others world middle after outcome? outcomes treats rest ih =>
    cases second with
    | next _ _ _ _ _ _ _ _ treatsAgain restAgain =>
      obtain ⟨rfl,rfl⟩ := around.treats_unique request name path _ _ _ _ _ treats treatsAgain
      obtain ⟨rfl,rfl⟩ := ih _ restAgain
      exact ⟨rfl,rfl⟩

end Proctor.Surroundings
