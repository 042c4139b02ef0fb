import Proctor.Run.Session

/-! What each part of a run does in a world: its answer, the world after it and its steps. -/
namespace Proctor

namespace Session
variable {σ α β : Type}

@[simp] theorem pure_run (a : α) (world : σ) : (pure a : Session σ α) world = (some a, world, []) :=
  rfl

@[simp] theorem step_run (step : Step) (world : σ) :
    Session.step step world = (some (), world, [step]) := rfl

@[simp] theorem use_run (call : σ → α × σ) (world : σ) :
    use call world = (some (call world).1, (call world).2, []) := rfl

@[simp] theorem await_run (call : σ → Option α × σ) (world : σ) :
    await call world = ((call world).1, (call world).2, []) := rfl

private theorem beside_run {τ : Type} {session : Session σ α} {world after : σ} {a? : Option α}
    {steps : List Step}
    (ran : session world = (a?, after, steps)) (part : τ) :
    session.beside (world, part) = (a?, (after, part), steps) := by
  simp only [beside,ran]

theorem bind_of_some {first : Session σ α} {next : α → Session σ β} {world middle after : σ} {a : α}
    {b? : Option β} {front back : List Step} (ran : first world = (some a, middle, front))
    (then_ran : next a middle = (b?, after, back)) :
    (first >>= next) world = (b?, after, front ++ back) := by
  change andThen first next world = _
  simp only [andThen,ran,then_ran]

theorem bind_of_none {first : Session σ α} {next : α → Session σ β} {world after : σ}
    {steps : List Step} (ran : first world = (none, after, steps)) :
    (first >>= next) world = (none, after, steps) := by
  change andThen first next world = _
  simp only [andThen,ran]

end Session

namespace Surroundings
variable {σ : Type} (around : Surroundings σ)

private theorem tell_run (event : Event) (world : σ) :
    around.tell event world = (some (), around.hear event world, [.told event]) := rfl

def heard (notices : List Notice) (world : σ) : σ :=
  notices.foldl (fun world notice => around.hear (.noticed notice) world) world

def noticed (notices : List Notice) : List Step := notices.map fun notice => .told (.noticed notice)

private theorem notices_run (notices : List Notice) (world : σ) :
    (notices.forM fun notice => around.tell (.noticed notice)) world =
      (some (), around.heard notices world, noticed notices) := by
  induction notices generalizing world with
  | nil => rfl
  | cons notice notices ih =>
    rw [List.forM_eq_forM,List.forM_cons]
    exact Session.bind_of_some (around.tell_run (.noticed notice) world) (ih _)

/-! ### Scanning and executing -/

theorem scanTarget_silent (path : String) (world after : σ)
    (silent : around.scan path world = (none, after)) :
    around.scanTarget path world = (none, after, [.scanned path]) := by
  have waits : Session.await (around.scan path) world = (none, after, []) := by simp [silent]
  exact Session.bind_of_some (Session.step_run (.scanned path) world) (Session.bind_of_none waits)

theorem scanTarget_answered (path : String) (world next : σ) (verdict : Verdict)
    (notices : List Notice) (scanned : around.scan path world = (some (verdict, notices), next)) :
    around.scanTarget path world =
      (some verdict, around.heard notices next, .scanned path :: noticed notices) := by
  have waits : Session.await (around.scan path) world = (some (verdict, notices), next, []) := by
    simp [scanned]
  unfold scanTarget
  refine Eq.trans (Session.bind_of_some (Session.step_run (.scanned path) world)
    (Session.bind_of_some waits (Session.bind_of_some (around.notices_run notices next)
      (Session.pure_run verdict _)))) ?_
  simp

theorem executeTarget_silent (request path : String) (world after : σ)
    (silent : around.execute request path world = (none, after)) :
    around.executeTarget request path world = (none, after, [.executed request path]) := by
  have waits : Session.await (around.execute request path) world = (none, after, []) := by
    simp [silent]
  exact Session.bind_of_some (Session.step_run (.executed request path) world)
    (Session.bind_of_none waits)

theorem executeTarget_answered (request path : String) (world next : σ)
    (result : Except ExecError Finished) (notices : List Notice)
    (executed : around.execute request path world = (some (result, notices), next)) :
    around.executeTarget request path world = (some (outcomeOf result), around.heard notices next,
      .executed request path :: noticed notices) := by
  have waits : Session.await (around.execute request path) world =
      (some (result, notices), next, []) := by
    simp [executed]
  unfold executeTarget
  refine Eq.trans (Session.bind_of_some (Session.step_run (.executed request path) world)
    (Session.bind_of_some waits (Session.bind_of_some (around.notices_run notices next)
      (Session.pure_run (outcomeOf result) _)))) ?_
  simp

/-! ### Asking -/

def unopened (request : Request) : Option String → List Notice
  | none => []
  | some problem =>
    [⟨.editorFailed, request.name, s!"could not open {request.path}: {problem}"⟩]

def reopened (request : Request) (world : σ) : σ :=
  around.heard (unopened request (around.edit request.path world).1)
    (around.edit request.path world).2

def reopening (request : Request) (world : σ) : List Step :=
  .opened request.path (around.edit request.path world).1 ::
    noticed (unopened request (around.edit request.path world).1)

theorem openTarget_run (request : Request) (world : σ) :
    around.openTarget request world =
      (some (), around.reopened request world, around.reopening request world) := by
  have tells (problem? : Option String) (next : σ) :
      (match problem? with
        | none => pure ()
        | some problem =>
          around.tell (.noticed
            ⟨.editorFailed, request.name, s!"could not open {request.path}: {problem}"⟩) :
        Session σ Unit) next =
        (some (), around.heard (unopened request problem?) next,
          noticed (unopened request problem?)) := by
    cases problem? <;> rfl
  exact Session.bind_of_some (Session.use_run (around.edit request.path) world)
    (Session.bind_of_some (Session.step_run _ _) (tells _ _))

def passage? : Decision → Option Passage
  | .runAnyway => some .proceed
  | .skip => some .skipped
  | .cancel => some .cancelled
  | .openAndReask => none

theorem passage?_exists (decision : Decision) (ends : decision ≠ .openAndReask) :
    ∃ passage, passage? decision = some passage := by
  cases decision with
  | openAndReask => exact absurd rfl ends
  | _ => exact ⟨_,rfl⟩

theorem decide_silent (request : Request) (patience : Nat) (world after : σ)
    (silent : around.ask request world = (none, after)) :
    around.decide request (patience + 1) world = (none, after, []) := by
  have waits : Session.await (around.ask request) world = (none, after, []) := by simp [silent]
  exact Session.bind_of_none waits

theorem decide_ends (request : Request) (patience : Nat) (world next : σ) (answer : Answer)
    (passage : Passage) (asked : around.ask request world = (some answer, next))
    (ends : passage? answer.decision = some passage) :
    around.decide request (patience + 1) world =
      (some passage, next, [.asked request answer]) := by
  have waits : Session.await (around.ask request) world = (some answer, next, []) := by
    simp [asked]
  apply Session.bind_of_some waits
  apply Session.bind_of_some (Session.step_run (.asked request answer) next)
  cases decision : answer.decision <;> simp_all [passage?]

theorem decide_again (request : Request) (patience : Nat) (world next after : σ) (answer : Answer)
    (asked : around.ask request world = (some answer, next))
    (opens : answer.decision = .openAndReask) (found? : Option Passage) (steps : List Step)
    (again : around.decide request patience (around.reopened request next) =
      (found?, after, steps)) :
    around.decide request (patience + 1) world =
      (found?, after, .asked request answer :: around.reopening request next ++ steps) := by
  have waits : Session.await (around.ask request) world = (some answer, next, []) := by
    simp [asked]
  apply Session.bind_of_some waits
  apply Session.bind_of_some (Session.step_run (.asked request answer) next)
  simp only [opens]
  exact Session.bind_of_some (around.openTarget_run request next) again

/-! ### One target -/

def scanning (name path : String) (verdict : Verdict) (notices : List Notice) : List Step :=
  .scanned path :: noticed notices ++ [.told (.scanned name verdict)]

section Target
variable (patience : Nat) (request name path : String) (world next passed last : σ)
  (verdict : Verdict) (notices : List Notice) (asking : List Step)

theorem runTarget_unscanned (silent : around.scan path world = (none, next)) :
    around.runTarget patience request name path world = (none, next, [.scanned path]) :=
  Session.bind_of_none (around.scanTarget_silent path world next silent)

variable (scanned : around.scan path world = (some (verdict, notices), next))
include scanned

private theorem runTarget_scanned {passage? : Option Passage} {outcome?? : Option (Option Outcome)}
    {steps : List Step}
    (resolved : around.resolve patience verdict name path
      (around.hear (.scanned name verdict) (around.heard notices next)) =
        (passage?, passed, asking))
    (gated : ∀ passage, passage? = some passage →
      (match passage with
        | .proceed => do return some (← around.executeTarget request path)
        | .cancelled => return some (.failed cancelledByUser)
        | .skipped => return none : Session σ (Option Outcome)) passed = (outcome??, last, steps))
    (undecided : passage? = none → outcome?? = none ∧ last = passed ∧ steps = []) :
    around.runTarget patience request name path world =
      (outcome??, last, scanning name path verdict notices ++ asking ++ steps) := by
  unfold runTarget
  have scans := around.scanTarget_answered path world next verdict notices scanned
  have tells := around.tell_run (.scanned name verdict) (around.heard notices next)
  cases passage? with
  | none =>
    obtain ⟨rfl,rfl,rfl⟩ := undecided rfl
    refine Eq.trans (Session.bind_of_some scans (Session.bind_of_some tells
      (Session.bind_of_none resolved))) ?_
    simp [scanning]
  | some passage =>
    refine Eq.trans (Session.bind_of_some scans (Session.bind_of_some tells
      (Session.bind_of_some resolved (gated passage rfl)))) ?_
    simp [scanning]

theorem runTarget_undecided
    (resolved : around.resolve patience verdict name path
      (around.hear (.scanned name verdict) (around.heard notices next)) = (none, passed, asking)) :
    around.runTarget patience request name path world =
      (none, passed, scanning name path verdict notices ++ asking) := by
  have whole := around.runTarget_scanned patience request name path world next passed passed verdict
    notices asking scanned resolved (by simp) (fun _ => ⟨rfl,rfl,rfl⟩)
  simpa using whole

theorem runTarget_skipped
    (resolved : around.resolve patience verdict name path
      (around.hear (.scanned name verdict) (around.heard notices next)) =
        (some .skipped, passed, asking)) :
    around.runTarget patience request name path world =
      (some none, passed, scanning name path verdict notices ++ asking) := by
  have whole := around.runTarget_scanned patience request name path world next passed passed verdict
    notices asking scanned resolved (by rintro _ ⟨⟩; rfl) (by simp)
  simpa using whole

theorem runTarget_cancelled
    (resolved : around.resolve patience verdict name path
      (around.hear (.scanned name verdict) (around.heard notices next)) =
        (some .cancelled, passed, asking)) :
    around.runTarget patience request name path world =
      (some (some (.failed cancelledByUser)), passed,
        scanning name path verdict notices ++ asking) := by
  have whole := around.runTarget_scanned patience request name path world next passed passed verdict
    notices asking scanned resolved (by rintro _ ⟨⟩; rfl) (by simp)
  simpa using whole

theorem runTarget_unexecuted
    (resolved : around.resolve patience verdict name path
      (around.hear (.scanned name verdict) (around.heard notices next)) =
        (some .proceed, passed, asking))
    (silent : around.execute request path passed = (none, last)) :
    around.runTarget patience request name path world =
      (none, last, scanning name path verdict notices ++ asking ++ [.executed request path]) :=
  around.runTarget_scanned patience request name path world next passed last verdict notices asking
    scanned resolved
    (by
      rintro _ ⟨⟩
      exact Session.bind_of_none (around.executeTarget_silent request path passed last silent))
    (by simp)

theorem runTarget_executed
    (resolved : around.resolve patience verdict name path
      (around.hear (.scanned name verdict) (around.heard notices next)) =
        (some .proceed, passed, asking))
    (result : Except ExecError Finished) (told : List Notice)
    (executed : around.execute request path passed = (some (result, told), last)) :
    around.runTarget patience request name path world =
      (some (some (outcomeOf result)), around.heard told last,
        scanning name path verdict notices ++ asking ++ .executed request path :: noticed told) :=
  around.runTarget_scanned patience request name path world next passed _ verdict notices asking
    scanned resolved
    (by
      rintro _ ⟨⟩
      have executes :=
        around.executeTarget_answered request path passed last result told executed
      refine Eq.trans (Session.bind_of_some executes (Session.pure_run _ _)) ?_
      simp)
    (by simp)

end Target

/-! ### Targets -/

def closing (name : String) : Option Outcome → Event
  | some outcome => .completed name outcome
  | none => .skipped name

def recorded (report : Report) (name : String) : Option Outcome → Report
  | some outcome => report.record name outcome
  | none => report

theorem runTargets_abandoned (patience : Nat) (request name path : String) (others : Targets)
    (report : Report) (world after : σ) (steps : List Step)
    (ran : around.runTarget patience request name path
      (around.hear (.targetStart name path) world) = (none, after, steps)) :
    around.runTargets patience request ((name, path) :: others) report world =
      (none, after, .told (.targetStart name path) :: steps) :=
  Session.bind_of_some (around.tell_run (.targetStart name path) world) (Session.bind_of_none ran)

theorem runTargets_next (patience : Nat) (request name path : String) (others : Targets)
    (report : Report) (world middle after : σ) (outcome? : Option Outcome) (report? : Option Report)
    (steps rest : List Step)
    (ran : around.runTarget patience request name path
      (around.hear (.targetStart name path) world) = (some outcome?, middle, steps))
    (others_ran : around.runTargets patience request others (recorded report name outcome?)
      (around.hear (closing name outcome?) middle) = (report?, after, rest)) :
    around.runTargets patience request ((name, path) :: others) report world =
      (report?, after,
        .told (.targetStart name path) :: steps ++ .told (closing name outcome?) :: rest) := by
  apply Session.bind_of_some (around.tell_run (.targetStart name path) world)
  apply Session.bind_of_some ran
  cases outcome? with
  | none => exact Session.bind_of_some (around.tell_run (.skipped name) middle) others_ran
  | some outcome =>
    exact Session.bind_of_some (around.tell_run (.completed name outcome) middle) others_ran

/-! ### The request -/

private theorem removeHeld_run (held : HeldRequest) (world : σ) :
    around.removeHeld (world, held) = ((around.remove held.path world).1,
      ((around.remove held.path world).2, { held with begun := true }), [.removed held.path]) := by
  have waits := Session.beside_run (Session.await_run (around.remove held.path) world) { held with begun := true }
  exact Session.bind_of_some (Session.use_run _ _) (Session.bind_of_some (Session.step_run _ _) waits)

private theorem letGo_begun (held : HeldRequest) (begun : held.begun = true) (world : σ) :
    around.letGo held world = (some (), world, []) := by
  simp [letGo,begun]

private theorem letGo_unbegun (held : HeldRequest) (unbegun : held.begun = false) (world : σ) :
    around.letGo held world = (some (), (around.remove held.path world).2, [.removed held.path]) := by
  simp only [letGo,unbegun,Bool.not_false,if_true]
  rfl

/-- A body that leaves the request alone lets it be removed where it ends. -/
theorem holding_unbegun {α : Type} (request : String) (body : Session (σ × HeldRequest) α) (world after : σ)
    (a? : Option α) (steps : List Step)
    (ran : body (world, ⟨request, false⟩) = (a?, (after, ⟨request, false⟩), steps)) :
    around.holding request body world =
      (a?, (around.remove request after).2, steps ++ [.removed request]) := by
  simp only [holding,ran,around.letGo_unbegun ⟨request, false⟩ rfl]

/-- What a body has begun to remove is not removed again. -/
theorem holding_begun {α : Type} (request : String) (body : Session (σ × HeldRequest) α) (world after : σ)
    (a? : Option α) (steps : List Step)
    (ran : body (world, ⟨request, false⟩) = (a?, (after, ⟨request, true⟩), steps)) :
    around.holding request body world = (a?, after, steps) := by
  simp only [holding,ran,around.letGo_begun ⟨request, true⟩ rfl,List.append_nil]

def leftover (request : String) : Option String → List Notice
  | none => []
  | some problem => [⟨.cleanupFailed, "", s!"could not remove {request}: {problem}"⟩]

private theorem reportLeftover_run (request : String) (problem? : Option String) (world : σ) :
    around.reportLeftover request problem? world =
      (some (), around.heard (leftover request problem?) world,
        noticed (leftover request problem?)) := by
  cases problem? <;> rfl

section Held
variable (patience : Nat) (request : String) (spec : Specification) (written after : σ) (steps : List Step)

private theorem whileHeld_abandoned (ran : around.runTargets patience request spec.targets []
      (around.hear (.runStart spec) written) = (none, after, steps)) :
    around.whileHeld patience request spec (written, ⟨request, false⟩) =
      (none, (after, ⟨request, false⟩), .told (.runStart spec) :: steps) := by
  have tells := Session.beside_run (around.tell_run (.runStart spec) written)
    (⟨request, false⟩ : HeldRequest)
  exact Session.bind_of_some tells (Session.bind_of_none (Session.beside_run ran _))

private theorem whileHeld_treated (report : Report) (cleaned : σ) (problem?? : Option (Option String))
    (ran : around.runTargets patience request spec.targets []
      (around.hear (.runStart spec) written) = (some report, after, steps))
    (removed : around.remove request after = (problem??, cleaned)) :
    around.whileHeld patience request spec (written, ⟨request, false⟩) =
      (problem??.map (report, ·), (cleaned, ⟨request, true⟩),
        .told (.runStart spec) :: steps ++ [.removed request]) := by
  have tells := Session.beside_run (around.tell_run (.runStart spec) written)
    (⟨request, false⟩ : HeldRequest)
  have removes := around.removeHeld_run ⟨request, false⟩ after
  rw [removed] at removes
  apply Session.bind_of_some tells
  apply Session.bind_of_some (Session.beside_run ran _)
  cases problem?? with
  | none => exact Session.bind_of_none removes
  | some problem? => exact Session.bind_of_some removes (Session.pure_run _ _)

end Held

section Run
variable (patience : Nat) (elapsed : σ → Nanoseconds) (spec : Specification) (world written : σ)
  (request : String)

theorem run_unplaced (silent : around.write spec.toText world = (none, written)) :
    around.run patience elapsed spec world = (none, written, []) := by
  have waits : Session.await (around.write spec.toText) world = (none, written, []) := by simp [silent]
  exact Session.bind_of_none waits

theorem run_unwritten (path reason : String)
    (failed : around.write spec.toText world = (some (.error (path, reason)), written)) :
    around.run patience elapsed spec world = (some (.error ⟨path, reason⟩), written, []) := by
  have wrote : Session.await (around.write spec.toText) world =
      (some (.error (path, reason)), written, []) := by
    simp [failed]
  exact Session.bind_of_some wrote (Session.pure_run _ written)

variable (wrote : around.write spec.toText world = (some (.ok request), written))
include wrote

private theorem run_held {found? : Option (Report × Option String)} {after : σ} {steps : List Step}
    (held : around.holding request (around.whileHeld patience request spec) written = (found?, after, steps)) :
    (∀ problem? report, found? = some (report, problem?) →
      let last := around.heard (leftover request problem?) after
      around.run patience elapsed spec world = (some (.ok report),
        around.hear (.runComplete report (elapsed last)) last, .wrote request spec.toText :: (steps ++
          (noticed (leftover request problem?) ++ [.told (.runComplete report (elapsed last))])))) ∧
    (found? = none →
      around.run patience elapsed spec world = (none, after, .wrote request spec.toText :: steps)) := by
  have writes : Session.await (around.write spec.toText) world = (some (.ok request), written, []) := by
    simp [wrote]
  constructor
  · rintro problem? report rfl last
    apply Session.bind_of_some writes
    apply Session.bind_of_some (Session.step_run (.wrote request spec.toText) written)
    apply Session.bind_of_some held
    apply Session.bind_of_some (around.reportLeftover_run request problem? _)
    apply Session.bind_of_some (Session.use_run (fun world => (elapsed world, world)) last)
    exact Session.bind_of_some (around.tell_run (.runComplete report (elapsed last)) last)
      (Session.pure_run _ _)
  · rintro rfl
    apply Session.bind_of_some writes
    exact Session.bind_of_some (Session.step_run (.wrote request spec.toText) written)
      (Session.bind_of_none held)

variable (after : σ) (steps : List Step)

theorem run_abandoned (ran : around.runTargets patience request spec.targets []
      (around.hear (.runStart spec) written) = (none, after, steps)) :
    around.run patience elapsed spec world = (none, (around.remove request after).2,
      .wrote request spec.toText :: .told (.runStart spec) :: steps ++ [.removed request]) :=
  (around.run_held patience elapsed spec world written request wrote
    (around.holding_unbegun request _ written after _ _
      (around.whileHeld_abandoned patience request spec written after steps ran))).2 rfl

variable (report : Report) (cleaned : σ) (ran : around.runTargets patience request spec.targets []
  (around.hear (.runStart spec) written) = (some report, after, steps))
include ran

/-- The run may be abandoned while it waits for the removal, which is not begun again then. -/
theorem run_uncleaned (removed : around.remove request after = (none, cleaned)) :
    around.run patience elapsed spec world = (none, cleaned,
      .wrote request spec.toText :: .told (.runStart spec) :: steps ++ [.removed request]) :=
  (around.run_held patience elapsed spec world written request wrote
    (around.holding_begun request _ written cleaned _ _
      (around.whileHeld_treated patience request spec written after steps report cleaned none ran removed))).2
    rfl

theorem run_ended (problem? : Option String)
    (removed : around.remove request after = (some problem?, cleaned)) :
    let last := around.heard (leftover request problem?) cleaned
    around.run patience elapsed spec world = (some (.ok report),
      around.hear (.runComplete report (elapsed last)) last,
      .wrote request spec.toText :: .told (.runStart spec) :: (steps ++ [.removed request] ++
        (noticed (leftover request problem?) ++ [.told (.runComplete report (elapsed last))]))) :=
  (around.run_held patience elapsed spec world written request wrote
    (around.holding_begun request _ written cleaned _ _
      (around.whileHeld_treated patience request spec written after steps report cleaned (some problem?) ran
        removed))).1 problem? report rfl

end Run

end Surroundings
end Proctor
