import Proctor.Proofs.Run.Session

/-! The courses that a run can take, with the steps that each leaves: how the questions about a target go,
how a target goes, how targets go one after another, and how a whole run goes, also where it is abandoned. -/
namespace Proctor.Surroundings

variable {σ : Type} (around : Surroundings σ)

/-- Questions about a target, until no more are put, one is not answered, or an answer ends them. -/
inductive Asking (request : Request) : σ → Option Passage → σ → List Step → Prop
  | stopped (world : σ) : Asking request world none world []
  | silent (world after : σ) (asked : around.ask request world = (none, after)) :
      Asking request world none after []
  | ended (world after : σ) (answer : Answer) (passage : Passage)
      (asked : around.ask request world = (some answer, after))
      (ends : passage? answer.decision = some passage) :
      Asking request world (some passage) after [.asked request answer]
  | again (world next after : σ) (answer : Answer) (found? : Option Passage) (steps : List Step)
      (asked : around.ask request world = (some answer, next))
      (opens : answer.decision = .openAndReask)
      (rest : Asking request (around.reopened request next) found? after steps) :
      Asking request world found? after (.asked request answer :: around.reopening request next ++ steps)

theorem asking_of_decide (request : Request) (patience : Nat) (world after : σ)
    (found? : Option Passage) (steps : List Step)
    (ran : around.decide request patience world = (found?, after, steps)) :
    Asking around request world found? after steps := by
  induction patience generalizing world steps with
  | zero =>
    cases ran
    exact .stopped _
  | succ patience ih =>
    rcases asked : around.ask request world with ⟨answer?,next⟩
    cases answer? with
    | none =>
      rw [around.decide_silent request patience world next asked] at ran
      cases ran
      exact .silent world after asked
    | some answer =>
      by_cases opens : answer.decision = .openAndReask
      · rcases again : around.decide request patience (around.reopened request next) with
          ⟨found?,last,others⟩
        rw [around.decide_again request patience world next last answer asked opens found? others
          again] at ran
        cases ran
        exact .again world next after answer _ others asked opens (ih _ _ again)
      · obtain ⟨passage,ends⟩ := passage?_exists answer.decision opens
        rw [around.decide_ends request patience world next answer passage asked ends] at ran
        cases ran
        exact .ended world after answer passage asked ends

section Target
variable (patience : Nat) (request name path : String)

/-- One target: its scan and what becomes of it after the questions. -/
inductive Course : σ → Option (Option Outcome) → σ → List Step → Prop
  | unscanned (world after : σ) (scanned : around.scan path world = (none, after)) :
      Course world none after [.scanned path]
  | undecided (world next after : σ) (verdict : Verdict) (notices : List Notice) (asking : List Step)
      (scanned : around.scan path world = (some (verdict, notices), next))
      (resolved : around.resolve patience verdict name path
        (around.hear (.scanned name verdict) (around.heard notices next)) = (none, after, asking)) :
      Course world none after (scanning name path verdict notices ++ asking)
  | skipped (world next after : σ) (verdict : Verdict) (notices : List Notice) (asking : List Step)
      (scanned : around.scan path world = (some (verdict, notices), next))
      (resolved : around.resolve patience verdict name path
        (around.hear (.scanned name verdict) (around.heard notices next)) =
          (some .skipped, after, asking)) :
      Course world (some none) after (scanning name path verdict notices ++ asking)
  | cancelled (world next after : σ) (verdict : Verdict) (notices : List Notice) (asking : List Step)
      (scanned : around.scan path world = (some (verdict, notices), next))
      (resolved : around.resolve patience verdict name path
        (around.hear (.scanned name verdict) (around.heard notices next)) =
          (some .cancelled, after, asking)) :
      Course world (some (some (.failed cancelledByUser))) after
        (scanning name path verdict notices ++ asking)
  | unexecuted (world next passed after : σ) (verdict : Verdict) (notices : List Notice)
      (asking : List Step) (scanned : around.scan path world = (some (verdict, notices), next))
      (resolved : around.resolve patience verdict name path
        (around.hear (.scanned name verdict) (around.heard notices next)) =
          (some .proceed, passed, asking))
      (executed : around.execute request path passed = (none, after)) :
      Course world none after
        (scanning name path verdict notices ++ asking ++ [.executed request path])
  | executed (world next passed last : σ) (verdict : Verdict) (notices told : List Notice)
      (asking : List Step) (result : Except ExecError Finished)
      (scanned : around.scan path world = (some (verdict, notices), next))
      (resolved : around.resolve patience verdict name path
        (around.hear (.scanned name verdict) (around.heard notices next)) =
          (some .proceed, passed, asking))
      (executed : around.execute request path passed = (some (result, told), last)) :
      Course world (some (some (outcomeOf result))) (around.heard told last)
        (scanning name path verdict notices ++ asking ++ .executed request path :: noticed told)

theorem course_of_runTarget (world after : σ) (result? : Option (Option Outcome)) (steps : List Step)
    (ran : around.runTarget patience request name path world = (result?, after, steps)) :
    Course around patience request name path world result? after steps := by
  rcases scanned : around.scan path world with ⟨answer?,next⟩
  rcases answer? with _ | ⟨verdict,notices⟩
  · rw [around.runTarget_unscanned patience request name path world next scanned] at ran
    cases ran
    exact .unscanned world after scanned
  rcases resolved : around.resolve patience verdict name path
    (around.hear (.scanned name verdict) (around.heard notices next)) with ⟨passage?,passed,asking⟩
  -- Nobody answers, the target proceeds, it is cancelled, or it is skipped.
  rcases passage? with _ | _ | _ | _
  · rw [around.runTarget_undecided patience request name path world next passed verdict notices
      asking scanned resolved] at ran
    cases ran
    exact .undecided world next after verdict notices asking scanned resolved
  · rcases executed : around.execute request path passed with ⟨answer?,last⟩
    rcases answer? with _ | ⟨result,told⟩
    · rw [around.runTarget_unexecuted patience request name path world next passed last verdict
        notices asking scanned resolved executed] at ran
      cases ran
      exact .unexecuted world next passed after verdict notices asking scanned resolved executed
    · rw [around.runTarget_executed patience request name path world next passed last verdict
        notices asking scanned resolved result told executed] at ran
      cases ran
      exact .executed world next passed last verdict notices told asking result scanned resolved executed
  · rw [around.runTarget_cancelled patience request name path world next passed verdict notices
      asking scanned resolved] at ran
    cases ran
    exact .cancelled world next after verdict notices asking scanned resolved
  · rw [around.runTarget_skipped patience request name path world next passed verdict notices
      asking scanned resolved] at ran
    cases ran
    exact .skipped world next after verdict notices asking scanned resolved

end Target

section Targets
variable (patience : Nat) (request : String)

/-- Targets one after another; none is started after one at which the run is abandoned. -/
inductive Courses : Targets → Report → σ → Option Report → σ → List Step → Prop
  | done (report : Report) (world : σ) : Courses [] report world (some report) world []
  | abandoned (name path : String) (others : Targets) (report : Report) (world after : σ)
      (steps : List Step)
      (treated : around.runTarget patience request name path
        (around.hear (.targetStart name path) world) = (none, after, steps)) :
      Courses ((name, path) :: others) report world none after
        (.told (.targetStart name path) :: steps)
  | next (name path : String) (others : Targets) (report : Report) (world middle after : σ)
      (outcome? : Option Outcome) (report? : Option Report) (steps rest : List Step)
      (treated : around.runTarget patience request name path
        (around.hear (.targetStart name path) world) = (some outcome?, middle, steps))
      (others_go : Courses others (recorded report name outcome?)
        (around.hear (closing name outcome?) middle) report? after rest) :
      Courses ((name, path) :: others) report world report? after
        (.told (.targetStart name path) :: steps ++ .told (closing name outcome?) :: rest)

theorem courses_of_runTargets (targets : Targets) (report : Report) (world after : σ)
    (report? : Option Report) (steps : List Step)
    (ran : around.runTargets patience request targets report world = (report?, after, steps)) :
    Courses around patience request targets report world report? after steps := by
  induction targets generalizing report world steps with
  | nil =>
    cases ran
    exact .done report _
  | cons target others ih =>
    obtain ⟨name,path⟩ := target
    rcases treated : around.runTarget patience request name path
      (around.hear (.targetStart name path) world) with ⟨outcome??,middle,front⟩
    cases outcome?? with
    | none =>
      rw [around.runTargets_abandoned patience request name path others report world middle front
        treated] at ran
      cases ran
      exact .abandoned name path others report world after front treated
    | some outcome? =>
      rcases rest : around.runTargets patience request others (recorded report name outcome?)
        (around.hear (closing name outcome?) middle) with ⟨found?,last,back⟩
      rw [around.runTargets_next patience request name path others report world middle last outcome?
        found? front back treated rest] at ran
      cases ran
      exact .next name path others report world middle after outcome? _ front back treated
        (ih _ _ _ rest)

end Targets

section Run
variable (patience : Nat) (elapsed : σ → Nanoseconds) (spec : Specification) (request : String) (written : σ)

/-- A run whose request is written. It is abandoned at a target, or while it waits for the removal of the
request, or it ends; in each case the removal is begun once. -/
inductive RunCourse : Option (Except WriteError Report) → σ → List Step → Prop
  | abandoned (after : σ) (steps : List Step)
      (gone : around.runTargets patience request spec.targets [] (around.hear (.runStart spec) written) =
        (none, after, steps)) :
      RunCourse none (around.remove request after).2
        (.wrote request spec.toText :: .told (.runStart spec) :: steps ++ [.removed request])
  | uncleaned (after cleaned : σ) (report : Report) (steps : List Step)
      (gone : around.runTargets patience request spec.targets [] (around.hear (.runStart spec) written) =
        (some report, after, steps))
      (removed : around.remove request after = (none, cleaned)) :
      RunCourse none cleaned
        (.wrote request spec.toText :: .told (.runStart spec) :: steps ++ [.removed request])
  | ended (after cleaned last : σ) (report : Report) (problem? : Option String) (steps : List Step)
      (gone : around.runTargets patience request spec.targets [] (around.hear (.runStart spec) written) =
        (some report, after, steps))
      (removed : around.remove request after = (some problem?, cleaned))
      (told : around.heard (leftover request problem?) cleaned = last) :
      RunCourse (some (.ok report)) (around.hear (.runComplete report (elapsed last)) last)
        (.wrote request spec.toText :: .told (.runStart spec) :: (steps ++ [.removed request] ++
          (noticed (leftover request problem?) ++ [.told (.runComplete report (elapsed last))])))

theorem course_of_run (world : σ) (wrote : around.write spec.toText world = (some (.ok request), written))
    (result? : Option (Except WriteError Report)) (final : σ) (steps : List Step)
    (ran : around.run patience elapsed spec world = (result?, final, steps)) :
    RunCourse around patience elapsed spec request written result? final steps := by
  rcases gone : around.runTargets patience request spec.targets []
    (around.hear (.runStart spec) written) with ⟨report?,after,during⟩
  cases report? with
  | none =>
    rw [around.run_abandoned patience elapsed spec world written request wrote after during gone] at ran
    cases ran
    exact .abandoned after during gone
  | some report =>
    rcases removed : around.remove request after with ⟨problem??,cleaned⟩
    cases problem?? with
    | none =>
      rw [around.run_uncleaned patience elapsed spec world written request wrote after during report cleaned
        gone removed] at ran
      cases ran
      exact .uncleaned after _ report during gone removed
    | some problem? =>
      rw [around.run_ended patience elapsed spec world written request wrote after during report cleaned
        gone problem? removed] at ran
      cases ran
      exact .ended after cleaned _ report problem? during gone removed rfl

end Run
end Proctor.Surroundings
