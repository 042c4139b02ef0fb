import Proctor.Proofs.Run.Keeping

/-! Diagnostics change no outcome. Two surroundings may differ in what programs write on their error streams,
in exit codes, in editors that do not open, in requests that stay behind and in whoever listens; as long as
they give the same verdicts, decisions and outputs, a run does the same in both and comes to the same report. -/
namespace Proctor

inductive Deed where
  | scanned (target : String)
  | asked (request : Request) (decision : Decision)
  | opened (target : String)
  | executed (target : String)
deriving DecidableEq, Repr

def Step.deed? : Step → Option Deed
  | .scanned target => some (.scanned target)
  | .asked request answer => some (.asked request answer.decision)
  | .opened target _ => some (.opened target)
  | .executed _ target => some (.executed target)
  | _ => none

def deeds (steps : List Step) : List Deed := steps.filterMap Step.deed?

private theorem deeds_cons (step : Step) (steps : List Step) :
    deeds (step :: steps) = step.deed?.toList ++ deeds steps := by
  cases done : step.deed? <;> simp [deeds,done]

private theorem deeds_append (front back : List Step) : deeds (front ++ back) = deeds front ++ deeds back :=
  List.filterMap_append

namespace Surroundings

private theorem noticed_deeds (notices : List Notice) : deeds (noticed notices) = [] := by
  simp [deeds,noticed,Step.deed?]

private theorem deed_noticed (step : Step) (notices : List Notice) :
    deeds (step :: noticed notices) = step.deed?.toList := by
  rw [deeds_cons,noticed_deeds,List.append_nil]

private theorem outcomeOf_text (result found : Except ExecError Finished)
    (same : result.map Finished.text = found.map Finished.text) : outcomeOf result = outcomeOf found := by
  cases result with
  | error error =>
    cases found with
    | error => cases same; rfl
    | ok => cases same
  | ok finished =>
    cases found with
    | error => cases same
    | ok other =>
      have text : finished.text = other.text := Except.ok.inj same
      simp only [outcomeOf,text]

variable {σ τ : Type}

/-! ### Surroundings that agree -/

/-- Two calls stay without an answer, or have answers that are the same in what counts and leave related
worlds behind. -/
inductive Alike {α β : Type} (related : σ → τ → Prop) (same : α → β → Prop) :
    Option α × σ → Option β × τ → Prop
  | silent (world : σ) (other : τ) : Alike related same (none, world) (none, other)
  | answered (a : α) (b : β) (world : σ) (other : τ) (equal : same a b) (kept : related world other) :
      Alike related same (some a, world) (some b, other)

/-- Both write the request, perhaps to different places, or both fail for the same reason, or neither write
comes to an end. -/
inductive Placed (related : σ → τ → Prop) (paired : String → String → Prop) :
    Option (Except (String × String) String) × σ → Option (Except (String × String) String) × τ → Prop
  | silent (world : σ) (other : τ) : Placed related paired (none, world) (none, other)
  | failed (problem : String × String) (world : σ) (other : τ) :
      Placed related paired (some (.error problem), world) (some (.error problem), other)
  | written (request twin : String) (world : σ) (other : τ) (pair : paired request twin)
      (kept : related world other) :
      Placed related paired (some (.ok request), world) (some (.ok twin), other)

/-- Two surroundings differ in diagnostics at most. In related worlds all verdicts, decisions and outputs to
come are the same, whatever is noticed, whether or not an editor opens, and whatever either side hears.
Paired requests are those that the two have written. Of their removal nothing is asked but that it comes to an
end on both sides or on neither. -/
structure Agree (left : Surroundings σ) (right : Surroundings τ) (related : σ → τ → Prop)
    (paired : String → String → Prop) : Prop where
  write (content : String) (world : σ) (other : τ) (start : related world other) :
    Placed related paired (left.write content world) (right.write content other)
  scan (target : String) (world : σ) (other : τ) (start : related world other) :
    Alike related (fun one two => one.1 = two.1) (left.scan target world) (right.scan target other)
  ask (request : Request) (world : σ) (other : τ) (start : related world other) :
    Alike related (fun one two => one.decision = two.decision) (left.ask request world)
      (right.ask request other)
  edit (target : String) (world : σ) (other : τ) (start : related world other) :
    related (left.edit target world).2 (right.edit target other).2
  execute (request twin target : String) (world : σ) (other : τ) (pair : paired request twin)
    (start : related world other) :
    Alike related (fun one two => one.1.map Finished.text = two.1.map Finished.text)
      (left.execute request target world) (right.execute twin target other)
  remove (request twin : String) (world : σ) (other : τ) (pair : paired request twin)
    (start : related world other) :
    (left.remove request world).1.isSome = (right.remove twin other).1.isSome
  hearLeft (event : Event) (world : σ) (other : τ) (start : related world other) :
    related (left.hear event world) other
  hearRight (event : Event) (world : σ) (other : τ) (start : related world other) :
    related world (right.hear event other)

/-! ### Computations that match -/

/-- From related worlds the two come to the same result, or to none, by the same deeds; if there is a result,
the worlds are related again. -/
def Matches {α : Type} (related : σ → τ → Prop) (one : Session σ α) (two : Session τ α) : Prop :=
  ∀ world other, related world other →
    (one world).1 = (two other).1 ∧ deeds (one world).2.2 = deeds (two other).2.2 ∧
      ((one world).1.isSome → related (one world).2.1 (two other).2.1)

section Matches
variable {related : σ → τ → Prop} {α β : Type}

private theorem matches_pure (a : α) : Matches related (pure a) (pure a) :=
  fun _ _ start => ⟨rfl,rfl,fun _ => start⟩

private theorem matches_bind {one : Session σ α} {two : Session τ α} {next : α → Session σ β}
    {other : α → Session τ β} (first : Matches related one two)
    (rest : ∀ a, Matches related (next a) (other a)) : Matches related (one >>= next) (two >>= other) := by
  intro world twin start
  obtain ⟨same,front,kept⟩ := first world twin start
  rcases ran : one world with ⟨a?,middle,steps⟩
  rcases ranOther : two twin with ⟨b?,between,others⟩
  rw [ran,ranOther] at same front kept
  cases same
  cases a? with
  | none =>
    rw [Session.bind_of_none ran,Session.bind_of_none ranOther]
    exact ⟨rfl,front,kept⟩
  | some a =>
    obtain ⟨result,back,last⟩ := rest a middle between (kept rfl)
    rw [Session.bind_of_some ran rfl,Session.bind_of_some ranOther rfl]
    refine ⟨result,?_,last⟩
    rw [deeds_append,deeds_append,front,back]

end Matches

namespace Agree
variable {left : Surroundings σ} {right : Surroundings τ} {related : σ → τ → Prop}
  {paired : String → String → Prop} (agree : Agree left right related paired)
include agree

theorem heard (notices others : List Notice) (world : σ) (other : τ) (start : related world other) :
    related (left.heard notices world) (right.heard others other) := by
  induction notices generalizing world with
  | cons notice notices ih => exact ih _ (agree.hearLeft _ world other start)
  | nil =>
    induction others generalizing other with
    | nil => exact start
    | cons notice others ih => exact ih _ (agree.hearRight _ world other start)

theorem tell (event twin : Event) : Matches related (left.tell event) (right.tell twin) := by
  intro world other start
  exact ⟨rfl,rfl,fun _ => agree.hearRight twin _ other (agree.hearLeft event world other start)⟩

theorem scanTarget (path : String) : Matches related (left.scanTarget path) (right.scanTarget path) := by
  intro world other start
  have calls := agree.scan path world other start
  rcases scanned : left.scan path world with ⟨answer?,next⟩
  rcases scannedOther : right.scan path other with ⟨twin?,last⟩
  rw [scanned,scannedOther] at calls
  cases calls with
  | silent =>
    rw [left.scanTarget_silent path world next scanned,right.scanTarget_silent path other last scannedOther]
    exact ⟨rfl,rfl,fun ended => nomatch ended⟩
  | answered one two _ _ equal kept =>
    obtain ⟨verdict,notices⟩ := one
    obtain ⟨_,others⟩ := two
    cases equal
    rw [left.scanTarget_answered path world next verdict notices scanned,
      right.scanTarget_answered path other last verdict others scannedOther]
    exact ⟨rfl,by rw [deed_noticed,deed_noticed],fun _ => agree.heard notices others next last kept⟩

theorem openTarget (request : Request) :
    Matches related (left.openTarget request) (right.openTarget request) := by
  intro world other start
  rw [openTarget_run,openTarget_run]
  refine ⟨rfl,?_,fun _ => agree.heard _ _ _ _ (agree.edit request.path world other start)⟩
  rw [reopening,reopening,deed_noticed,deed_noticed]
  rfl

theorem decide (request : Request) (patience : Nat) :
    Matches related (left.decide request patience) (right.decide request patience) := by
  induction patience with
  | zero => exact fun world other _ => ⟨rfl,rfl,fun ended => nomatch ended⟩
  | succ patience ih =>
    intro world other start
    have calls := agree.ask request world other start
    rcases asked : left.ask request world with ⟨answer?,next⟩
    rcases askedOther : right.ask request other with ⟨twin?,last⟩
    rw [asked,askedOther] at calls
    cases calls with
    | silent =>
      rw [left.decide_silent request patience world next asked,
        right.decide_silent request patience other last askedOther]
      exact ⟨rfl,rfl,fun ended => nomatch ended⟩
    | answered answer twin _ _ equal kept =>
      by_cases opens : answer.decision = .openAndReask
      · -- Whether or not the editor opens, both ask again.
        obtain ⟨_,opened,reopened⟩ := agree.openTarget request next last kept
        rw [openTarget_run,openTarget_run] at opened reopened
        obtain ⟨result,more,ended⟩ := ih _ _ (reopened rfl)
        rw [left.decide_again request patience world next _ answer asked opens _ _ rfl,
          right.decide_again request patience other last _ twin askedOther (equal ▸ opens) _ _ rfl]
        refine ⟨result,?_,ended⟩
        simp only [List.cons_append,deeds_cons,deeds_append,opened,more,Step.deed?,equal]
      · obtain ⟨passage,ends⟩ := passage?_exists answer.decision opens
        rw [left.decide_ends request patience world next answer passage asked ends,
          right.decide_ends request patience other last twin passage askedOther (equal ▸ ends)]
        exact ⟨rfl,by simp only [deeds_cons,Step.deed?,equal],fun _ => kept⟩

theorem resolve (patience : Nat) (verdict : Verdict) (name path : String) :
    Matches related (left.resolve patience verdict name path)
      (right.resolve patience verdict name path) := by
  cases verdict with
  | clean => exact matches_pure Passage.proceed
  | scanFailed reason => exact matches_pure Passage.proceed
  | suspicious reasons => exact agree.decide _ patience

section Targets
variable (request twin : String) (pair : paired request twin)
include pair

theorem executeTarget (path : String) :
    Matches related (left.executeTarget request path) (right.executeTarget twin path) := by
  intro world other start
  have calls := agree.execute request twin path world other pair start
  rcases executed : left.execute request path world with ⟨answer?,next⟩
  rcases executedOther : right.execute twin path other with ⟨twin?,last⟩
  rw [executed,executedOther] at calls
  cases calls with
  | silent =>
    rw [left.executeTarget_silent request path world next executed,
      right.executeTarget_silent twin path other last executedOther]
    exact ⟨rfl,rfl,fun ended => nomatch ended⟩
  | answered one two _ _ equal kept =>
    obtain ⟨result,notices⟩ := one
    obtain ⟨found,others⟩ := two
    rw [left.executeTarget_answered request path world next result notices executed,
      right.executeTarget_answered twin path other last found others executedOther]
    refine ⟨?_,by rw [deed_noticed,deed_noticed]; rfl,fun _ => agree.heard notices others next last kept⟩
    rw [outcomeOf_text result found equal]

theorem runTarget (patience : Nat) (name path : String) :
    Matches related (left.runTarget patience request name path)
      (right.runTarget patience twin name path) := by
  apply matches_bind (agree.scanTarget path)
  intro verdict
  apply matches_bind (agree.tell _ _)
  intro _
  apply matches_bind (agree.resolve patience verdict name path)
  rintro (_ | _ | _)
  · exact matches_bind (agree.executeTarget request twin pair path) fun _ => matches_pure _
  · exact matches_pure _
  · exact matches_pure _

theorem runTargets (patience : Nat) (targets : Targets) (report : Report) :
    Matches related (left.runTargets patience request targets report)
      (right.runTargets patience twin targets report) := by
  induction targets generalizing report with
  | nil => exact matches_pure report
  | cons target others ih =>
    obtain ⟨name,path⟩ := target
    apply matches_bind (agree.tell _ _)
    intro _
    apply matches_bind (agree.runTarget request twin pair patience name path)
    rintro (_ | outcome)
    · exact matches_bind (agree.tell _ _) fun _ => ih report
    · exact matches_bind (agree.tell _ _) fun _ => ih _

end Targets
end Agree

/-! ### Runs -/

/-- The deeds of a run are those for its targets, and so is the result if the removal comes to an end. -/
theorem run_deeds (around : Surroundings σ) (patience : Nat) (elapsed : σ → Nanoseconds)
    (spec : Specification) (world written : σ) (request : String)
    (wrote : around.write spec.toText world = (some (.ok request), written)) :
    let ran := around.run patience elapsed spec world
    let gone := around.runTargets patience request spec.targets [] (around.hear (.runStart spec) written)
    ran.1 = (if (around.remove request gone.2.1).1.isSome then gone.1.map .ok else none) ∧
      deeds ran.2.2 = deeds gone.2.2 := by
  intro ran gone
  rcases run : around.run patience elapsed spec world with ⟨result?,final,steps⟩
  simp only [ran,gone,run]
  cases around.course_of_run patience elapsed spec request written world wrote result? final steps run with
  | abandoned after during gone =>
    rw [gone]
    exact ⟨by simp,by simp [deeds,List.filterMap_cons,Step.deed?]⟩
  | uncleaned after _ report during gone removed =>
    rw [gone,removed]
    exact ⟨by simp,by simp [deeds,List.filterMap_cons,Step.deed?]⟩
  | ended after cleaned last report problem? during gone removed _ =>
    rw [gone,removed]
    have silent := noticed_deeds (leftover request problem?)
    simp only [deeds] at silent
    exact ⟨rfl,by simp [deeds,List.filterMap_cons,Step.deed?,silent]⟩

/-- Two runs in surroundings that differ in diagnostics at most scan the same targets, ask the same questions
with the same decisions, open the editor on the same targets and execute the same ones, all in the same
order, and come to the same report. These are the calls that a trace of either world has. -/
theorem diagnostics_change_nothing (left : Surroundings σ) (right : Surroundings τ)
    (related : σ → τ → Prop) (paired : String → String → Prop) (agree : Agree left right related paired)
    (patience : Nat) (elapsed : σ → Nanoseconds) (otherElapsed : τ → Nanoseconds) (spec : Specification)
    (world : σ) (other : τ) (start : related world other) :
    let one := left.run patience elapsed spec world
    let two := right.run patience otherElapsed spec other
    one.1 = two.1 ∧ deeds one.2.2 = deeds two.2.2 ∧
    (∀ trace, Traced left trace → trace one.2.1 = trace world ++ one.2.2) ∧
    ∀ trace, Traced right trace → trace two.2.1 = trace other ++ two.2.2 := by
  intro one two
  have alike : one.1 = two.1 ∧ deeds one.2.2 = deeds two.2.2 := by
    have places := agree.write spec.toText world other start
    rcases wrote : left.write spec.toText world with ⟨place,written⟩
    rcases wroteOther : right.write spec.toText other with ⟨twinPlace,writtenOther⟩
    rw [wrote,wroteOther] at places
    cases places with
    | silent =>
      simp only [one,two]
      rw [left.run_unplaced patience elapsed spec world written wrote,
        right.run_unplaced patience otherElapsed spec other writtenOther wroteOther]
      exact ⟨rfl,rfl⟩
    | failed problem =>
      simp only [one,two]
      rw [left.run_unwritten patience elapsed spec world written problem.1 problem.2 wrote,
        right.run_unwritten patience otherElapsed spec other writtenOther problem.1 problem.2 wroteOther]
      exact ⟨rfl,rfl⟩
    | written request twin _ _ pair kept =>
      have starts := agree.hearRight (.runStart spec) _ _ (agree.hearLeft (.runStart spec) _ _ kept)
      obtain ⟨same,done,ended⟩ := agree.runTargets request twin pair patience spec.targets [] _ _ starts
      obtain ⟨result,own⟩ := left.run_deeds patience elapsed spec world written request wrote
      obtain ⟨otherResult,others⟩ := right.run_deeds patience otherElapsed spec other writtenOther twin
        wroteOther
      refine ⟨result.trans (Eq.trans ?_ otherResult.symm),own.trans (done.trans others.symm)⟩
      rw [← same]
      -- The removal matters only where there is a report, and there the worlds are still related.
      cases report : (left.runTargets patience request spec.targets []
        (left.hear (.runStart spec) written)).1 with
      | none => simp
      | some found => rw [agree.remove request twin _ _ pair (ended (by rw [report]; rfl))]
  exact ⟨alike.1,alike.2,fun trace traced => traced.run patience elapsed spec world,
    fun trace traced => traced.run patience otherElapsed spec other⟩

/-- One side is quiet. On the other the detector and the script complain, the script exits with 1, no editor
opens, the request is at another place and stays there, and all that is done and told is written down. Both ask
about the two scripts, open the first, run it, and skip the second. -/
theorem complaints_change_nothing :
    let quiet : Surroundings (List Decision) :=
      { write := fun _ answers => (some (.ok "request.json"), answers)
        scan := fun _ answers => (some (.suspicious "eval", []), answers)
        ask := fun _ answers => (some ⟨(nextAnswer answers).1, ""⟩, (nextAnswer answers).2)
        edit := fun _ answers => (none, answers)
        execute := fun _ _ answers => (some (.ok ⟨"[]", some 0⟩, []), answers)
        remove := fun _ answers => (some none, answers) }
    let loud := tracing
      { quiet with
        write := fun _ answers => (some (.ok "twin.json"), answers)
        scan := fun path answers => (some (.suspicious "eval", [⟨.detectorStderr, path, "slow"⟩]), answers)
        ask := fun _ answers => (some ⟨(nextAnswer answers).1, "> "⟩, (nextAnswer answers).2)
        edit := fun _ answers => (some "no editor", answers)
        execute := fun _ path answers =>
          (some (.ok ⟨"[]", some 1⟩, [⟨.scriptStderr, path, "deprecated"⟩]), answers)
        remove := fun _ answers => (some (some "busy"), answers) }
    let spec : Specification := ⟨"f", [], [("a", "a.py"), ("b", "b.py")]⟩
    let answers : List Decision := [.openAndReask, .runAnyway, .skip]
    let one := quiet.run 2 (fun _ => 0) spec answers
    let two := loud.run 2 (fun world => world.2.length) spec (answers, [])
    one.1 = two.1 ∧ one.2.2 ≠ two.2.2 ∧
      deeds two.2.2 = [.scanned "a.py", .asked ⟨"a", "a.py", "eval"⟩ .openAndReask, .opened "a.py",
        .asked ⟨"a", "a.py", "eval"⟩ .runAnyway, .executed "a.py", .scanned "b.py",
        .asked ⟨"b", "b.py", "eval"⟩ .skip] ∧
      two.2.1.2 = two.2.2 := by
  intro quiet loud spec answers one two
  have agree : Agree quiet loud (fun answers world => answers = world.1) (fun _ _ => True) := by
    constructor
    case write =>
      rintro content world other rfl
      exact .written _ _ _ _ trivial rfl
    case ask =>
      rintro request world other rfl
      exact .answered _ _ _ _ rfl rfl
    case scan =>
      rintro target world other rfl
      exact .answered _ _ _ _ rfl rfl
    case execute =>
      rintro request twin target world other _ rfl
      exact .answered _ _ _ _ rfl rfl
    case remove => exact fun _ _ _ _ _ _ => rfl
    all_goals exact fun _ _ _ start => start
  obtain ⟨same,done,-,traced⟩ := diagnostics_change_nothing quiet loud _ _ agree 2 (fun _ => 0)
    (fun world => world.2.length) spec answers (answers, []) rfl
  refine ⟨same,?_,done.symm.trans rfl,traced Prod.snd (traced_tracing _)⟩
  intro equal
  have first : Step.wrote "request.json" spec.toText = .wrote "twin.json" spec.toText :=
    Option.some.inj (congrArg List.head? equal)
  exact absurd (Step.wrote.inj first).1 (by decide)

end Surroundings
end Proctor
