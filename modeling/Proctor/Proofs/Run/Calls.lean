import Proctor.Proofs.Run.Pipeline

/-! The calls of the scanner, the prompt and the executor in a run, whether it ends or is abandoned:
each target that a run comes to is scanned once, and executed only if it may be. -/
namespace Proctor

def Step.isCall : Step → Bool
  | .scanned _ => true
  | .asked _ _ => true
  | .executed _ _ => true
  | _ => false

def Step.asked? : Step → Option (Request × Answer)
  | .asked request answer => some (request, answer)
  | _ => none

namespace Surroundings

def answers (steps : List Step) : List Answer := (steps.filterMap Step.asked?).map (·.2)

def firstDecision? (answers : List Answer) : Option Decision :=
  (answers.map (·.decision)).find? (· ≠ .openAndReask)

/-- Whether a target with a verdict may be executed after the answers. -/
def allows : Option Verdict → List Answer → Bool
  | some .clean, _ => true
  | some (.scanFailed _), _ => true
  | some (.suspicious _), answers => firstDecision? answers = some .runAnyway
  | none, _ => false

def questions (name path : String) : Option Verdict → List Answer → List Step
  | some (.suspicious reasons), answers => answers.map (.asked ⟨name, path, reasons⟩)
  | _, _ => []

/-- The calls for one target: its scan, the questions, and an execution if it may be executed. -/
def calls (request name path : String) (verdict? : Option Verdict) (answers : List Answer) :
    List Step :=
  .scanned path :: questions name path verdict? answers ++
    if allows verdict? answers then [.executed request path] else []

private theorem answers_append (front back : List Step) :
    answers (front ++ back) = answers front ++ answers back := by
  simp [answers]

private theorem noticed_calls (notices : List Notice) : (noticed notices).filter Step.isCall = [] := by
  simp [noticed,Step.isCall]

theorem noticed_answers (notices : List Notice) : answers (noticed notices) = [] := by
  induction notices with
  | nil => rfl
  | cons notice notices ih => exact ih

private theorem scanning_calls (name path : String) (verdict : Verdict) (notices : List Notice) :
    (scanning name path verdict notices).filter Step.isCall = [.scanned path] := by
  simp [scanning,noticed_calls,List.filter_cons,Step.isCall]

private theorem scanning_answers (name path : String) (verdict : Verdict) (notices : List Notice) :
    answers (scanning name path verdict notices) = [] := by
  rw [scanning,answers_append]
  exact List.append_eq_nil_iff.mpr ⟨noticed_answers notices,rfl⟩

variable {σ : Type} (around : Surroundings σ)

private theorem reopening_calls (request : Request) (world : σ) :
    (around.reopening request world).filter Step.isCall = [] := by
  simp [reopening,noticed_calls,Step.isCall]

private theorem reopening_answers (request : Request) (world : σ) :
    answers (around.reopening request world) = [] :=
  noticed_answers (unopened request (around.edit request.path world).1)

/-- The calls while deciding are the questions; the decision is the first that ends them. -/
theorem decide_calls (request : Request) (patience : Nat) (world after : σ)
    (passage? : Option Passage) (steps : List Step)
    (ran : around.decide request patience world = (passage?, after, steps)) :
    steps.filter Step.isCall = (answers steps).map (.asked request) ∧
      passage? = (firstDecision? (answers steps)).bind Surroundings.passage? := by
  have course := around.asking_of_decide request patience world after passage? steps ran
  clear ran
  induction course with
  | stopped | silent => exact ⟨rfl,rfl⟩
  | ended world after answer passage _ ends =>
    have opens : answer.decision ≠ .openAndReask := by
      intro same
      simp [Surroundings.passage?,same] at ends
    exact ⟨rfl,by simp [answers,Step.asked?,firstDecision?,opens,ends]⟩
  | again world next after answer found? others _ opens _ ih =>
    obtain ⟨same,found⟩ := ih
    have given : answers (.asked request answer :: around.reopening request next ++ others) =
        answer :: answers others := by
      rw [answers_append,← List.singleton_append,answers_append,around.reopening_answers]
      rfl
    rw [given]
    constructor
    · simp [List.filter_cons,Step.isCall,around.reopening_calls,same]
    · simpa [firstDecision?,opens] using found

private theorem resolve_calls (patience : Nat) (verdict : Verdict) (name path : String) (world after : σ)
    (passage? : Option Passage) (steps : List Step)
    (ran : around.resolve patience verdict name path world = (passage?, after, steps)) :
    steps.filter Step.isCall = questions name path (some verdict) (answers steps) ∧
      (passage? = some .proceed ↔ allows (some verdict) (answers steps) = true) := by
  cases verdict with
  | clean =>
    cases ran
    simp [questions,allows]
  | scanFailed reason =>
    cases ran
    simp [questions,allows]
  | suspicious reasons =>
    obtain ⟨same,found⟩ := around.decide_calls _ patience world after passage? steps ran
    refine ⟨same,?_⟩
    rw [found]
    cases decided : firstDecision? (answers steps) with
    | none => simp [allows,decided]
    | some decision => cases decision <;> simp [allows,decided,Surroundings.passage?]

def verdict? (path : String) (world : σ) : Option Verdict := (around.scan path world).1.map (·.1)

private theorem runTarget_calls (patience : Nat) (request name path : String) (world : σ) :
    let steps := (around.runTarget patience request name path world).2.2
    steps.filter Step.isCall =
      calls request name path (around.verdict? path world) (answers steps) := by
  intro steps
  rcases ran : around.runTarget patience request name path world with ⟨result?,after,found⟩
  have same : steps = found := by simp only [steps,ran]
  rw [same]
  -- Only what follows the gate differs between the cases.
  have whole {next passed : σ} {verdict : Verdict} {notices : List Notice} {passage? : Option Passage}
      {asking : List Step} (back : List Step)
      (scanned : around.scan path world = (some (verdict, notices), next))
      (resolved : around.resolve patience verdict name path
        (around.hear (.scanned name verdict) (around.heard notices next)) = (passage?, passed, asking))
      (silent : answers back = [])
      (executes : back.filter Step.isCall =
        if passage? = some .proceed then [.executed request path] else []) :
      let gone := scanning name path verdict notices ++ asking ++ back
      gone.filter Step.isCall =
        calls request name path (around.verdict? path world) (answers gone) := by
    obtain ⟨asked,allowed⟩ := around.resolve_calls patience verdict name path _ passed passage? asking
      resolved
    have given : around.verdict? path world = some verdict := by simp [verdict?,scanned]
    rw [given]
    simp only [List.filter_append,scanning_calls,asked,executes,answers_append,scanning_answers,silent,
      calls,allowed,List.nil_append,List.append_nil]
    rfl
  cases around.course_of_runTarget patience request name path world after result? found ran with
  | unscanned _ scanned => simp [verdict?,scanned,calls,questions,allows,Step.isCall]
  | undecided _ _ _ _ _ scanned resolved => simpa using whole [] scanned resolved rfl (by simp)
  | skipped _ _ _ _ _ scanned resolved => simpa using whole [] scanned resolved rfl (by simp)
  | cancelled _ _ _ _ _ scanned resolved => simpa using whole [] scanned resolved rfl (by simp)
  | unexecuted _ _ _ _ _ _ scanned resolved _ =>
    exact whole [.executed request path] scanned resolved rfl (by simp [Step.isCall])
  | executed _ _ _ _ _ told _ _ scanned resolved _ =>
    exact whole (.executed request path :: noticed told) scanned resolved (noticed_answers told)
      (by simp [List.filter_cons,Step.isCall,noticed_calls])

/-! ### All targets -/

structure Visit (σ : Type) where
  name : String
  path : String
  world : σ

/-- The targets that a run comes to: those after a target at which it is abandoned are not reached. -/
def visits (patience : Nat) (request : String) : Targets → σ → List (Visit σ)
  | [], _ => []
  | (name, path) :: others, world =>
    let started := around.hear (.targetStart name path) world
    ⟨name, path, started⟩ ::
      match around.runTarget patience request name path started with
      | (none, _, _) => []
      | (some outcome?, middle, _) =>
        visits patience request others (around.hear (closing name outcome?) middle)

def Visit.verdict? (visit : Visit σ) : Option Verdict := around.verdict? visit.path visit.world

def Visit.answers (patience : Nat) (request : String) (visit : Visit σ) : List Answer :=
  Surroundings.answers (around.runTarget patience request visit.name visit.path visit.world).2.2

theorem visits_targets (patience : Nat) (request : String) (targets : Targets) (report : Report)
    (world after : σ) (report? : Option Report) (steps : List Step)
    (ran : around.runTargets patience request targets report world = (report?, after, steps)) :
    let visited := (around.visits patience request targets world).map
      fun visit => (visit.name, visit.path)
    visited <+: targets ∧ (report?.isSome → visited = targets) := by
  have course := around.courses_of_runTargets patience request targets report world after report? steps
    ran
  clear ran
  induction course with
  | done => exact ⟨List.prefix_refl _,fun _ => rfl⟩
  | abandoned name path others report world after steps treated => simp [visits,treated]
  | next name path others report world middle after outcome? report? steps rest treated _ ih =>
    obtain ⟨front,all⟩ := ih
    simp only [visits,treated,List.map_cons,List.cons_prefix_cons,true_and,List.cons.injEq]
    exact ⟨front,all⟩

private theorem runTargets_calls (patience : Nat) (request : String) (targets : Targets) (report : Report)
    (world after : σ) (report? : Option Report) (steps : List Step)
    (ran : around.runTargets patience request targets report world = (report?, after, steps)) :
    steps.filter Step.isCall = (around.visits patience request targets world).flatMap
      fun visit => calls request visit.name visit.path (visit.verdict? around)
        (visit.answers around patience request) := by
  have course := around.courses_of_runTargets patience request targets report world after report? steps
    ran
  clear ran
  induction course with
  | done => rfl
  | abandoned name path others report world after steps treated =>
    have first := around.runTarget_calls patience request name path
      (around.hear (.targetStart name path) world)
    rw [treated] at first
    simpa [visits,treated,Visit.verdict?,Visit.answers,List.filter_cons,Step.isCall] using first
  | next name path others report world middle after outcome? report? steps rest treated _ ih =>
    have first := around.runTarget_calls patience request name path
      (around.hear (.targetStart name path) world)
    rw [treated] at first
    simp only [visits,treated,List.flatMap_cons,Visit.verdict?,Visit.answers,List.filter_append,
      List.filter_cons,Step.isCall,Bool.false_eq_true,if_false,List.cons_append] at first ⊢
    rw [first,ih]
    rfl

section Run
variable (patience : Nat) (elapsed : σ → Nanoseconds) (spec : Specification) (world written : σ)
  (request : String) (wrote : around.write spec.toText world = (some (.ok request), written))
include wrote

theorem run_visits :
    let visited := (around.visits patience request spec.targets
      (around.hear (.runStart spec) written)).map fun visit => (visit.name, visit.path)
    visited <+: spec.targets ∧
      ((around.run patience elapsed spec world).1.isSome → visited = spec.targets) := by
  rcases ran : around.run patience elapsed spec world with ⟨result?,final,steps⟩
  have visited := fun report? after during =>
    around.visits_targets patience request spec.targets [] (around.hear (.runStart spec) written) after
      report? during
  cases around.course_of_run patience elapsed spec request written world wrote result? final steps ran with
  | abandoned after during gone => exact ⟨(visited none after during gone).1,fun ended => nomatch ended⟩
  | uncleaned after _ report during gone _ =>
    exact ⟨(visited (some report) after during gone).1,fun ended => nomatch ended⟩
  | ended after _ _ report _ during gone _ _ =>
    obtain ⟨front,all⟩ := visited (some report) after during gone
    exact ⟨front,fun _ => all rfl⟩

theorem run_calls :
    (around.run patience elapsed spec world).2.2.filter Step.isCall =
      (around.visits patience request spec.targets (around.hear (.runStart spec) written)).flatMap
        fun visit => calls request visit.name visit.path (visit.verdict? around)
          (visit.answers around patience request) := by
  rcases ran : around.run patience elapsed spec world with ⟨result?,final,steps⟩
  have called := fun report? after during =>
    around.runTargets_calls patience request spec.targets [] (around.hear (.runStart spec) written) after
      report? during
  -- What is done outside of the targets is no call.
  cases around.course_of_run patience elapsed spec request written world wrote result? final steps ran with
  | abandoned after during gone =>
    rw [← called none after during gone]
    simp [Step.isCall]
  | uncleaned after _ report during gone _ =>
    rw [← called (some report) after during gone]
    simp [Step.isCall]
  | ended after _ _ report _ during gone _ _ =>
    rw [← called (some report) after during gone]
    simp [Step.isCall,noticed_calls]

end Run

end Surroundings
end Proctor
