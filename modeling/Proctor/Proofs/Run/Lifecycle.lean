import Proctor.Proofs.Run.Calls
import Proctor.Proofs.Run.Keeping

/-! The life of the request. It is written once before everything else and removed once after the last
target, or where the run is abandoned; in between nothing but the executions of the run uses it. -/
namespace Proctor

def Step.changesRequest : Step → Bool
  | .wrote _ _ => true
  | .removed _ => true
  | _ => false

/-- A step neither writes nor removes a request, and executes a target with the given one only. -/
def Step.LeavesAlone (request : String) : Step → Prop
  | .wrote _ _ => False
  | .removed _ => False
  | .executed used _ => used = request
  | _ => True

def Step.started? : Step → Option (String × String)
  | .told (.targetStart name path) => some (name, path)
  | _ => none

private theorem Step.leavesAlone_unchanged (request : String) (steps : List Step)
    (alone : ∀ step ∈ steps, step.LeavesAlone request) : steps.filter changesRequest = [] := by
  rw [List.filter_eq_nil_iff]
  intro step member changes
  have left := alone step member
  cases step with
  | wrote | removed => exact left
  | _ => cases changes

namespace Surroundings
open Session
variable {σ : Type} (around : Surroundings σ)

/-! ### What targets do with the request -/

private theorem runTargets_alone (patience : Nat) (request : String) (targets : Targets) (report : Report)
    (world : σ) : ∀ step ∈ (around.runTargets patience request targets report world).2.2,
      step.LeavesAlone request := by
  have handles := around.handles_of_steps request (Step.LeavesAlone request) (fun _ => trivial)
    (fun _ _ => trivial) (fun _ => trivial) (fun _ _ => trivial) (fun _ _ => trivial) (fun _ => rfl)
  refine handles.runTargets ?_ ?_ patience targets report world
  · intro name path _
    exact List.forall_mem_singleton.mpr trivial
  · intro name outcome? _
    cases outcome? <;> exact List.forall_mem_singleton.mpr trivial

private theorem runTarget_starts_none (patience : Nat) (request name path : String) (world : σ) :
    (around.runTarget patience request name path world).2.2.filterMap Step.started? = [] := by
  have handles := around.handles_of_steps request (·.started? = none) (fun _ => rfl) (fun _ _ => rfl)
    (fun _ => rfl) (fun _ _ => rfl) (fun _ _ => rfl) (fun _ => rfl)
  exact List.filterMap_eq_nil_iff.mpr (handles.runTarget patience name path world)

private theorem runTargets_started (patience : Nat) (request : String) (targets : Targets) (report : Report)
    (world : σ) :
    (around.runTargets patience request targets report world).2.2.filterMap Step.started? =
      (around.visits patience request targets world).map fun visit => (visit.name, visit.path) := by
  have starts (name path : String) (world : σ) (result? : Option (Option Outcome)) (middle : σ)
      (front : List Step)
      (treated : around.runTarget patience request name path world = (result?, middle, front)) :
      (.told (.targetStart name path) :: front).filterMap Step.started? = [(name, path)] := by
    have within := around.runTarget_starts_none patience request name path world
    rw [treated] at within
    rw [List.filterMap_cons_some (by rfl),within]
  rcases ran : around.runTargets patience request targets report world with ⟨report?,after,steps⟩
  have course := around.courses_of_runTargets patience request targets report world after report? steps
    ran
  clear ran
  induction course with
  | done => rfl
  | abandoned name path others report world after steps treated =>
    rw [starts name path _ _ _ _ treated]
    simp only [visits,treated,List.map_cons,List.map_nil]
  | next name path others report world middle after outcome? report? steps rest treated _ ih =>
    have closes : Step.started? (.told (closing name outcome?)) = none := by cases outcome? <;> rfl
    simp only [visits,treated,List.map_cons,← ih]
    rw [List.filterMap_append,starts name path _ _ _ _ treated,List.filterMap_cons_none closes]
    rfl

/-! ### Where the request comes from and goes -/

section Elsewhere
variable (write : String → σ → Option (Except (String × String) String) × σ)
  (remove : String → σ → Option (Option String) × σ)

def elsewhere : Surroundings σ := { around with write, remove }

private theorem elsewhere_decide (about : Request) (patience : Nat) :
    (around.elsewhere write remove).decide about patience = around.decide about patience := by
  induction patience with
  | zero => rfl
  | succ patience ih =>
    unfold decide
    rw [ih]
    rfl

private theorem elsewhere_runTarget (patience : Nat) (request name path : String) :
    (around.elsewhere write remove).runTarget patience request name path =
      around.runTarget patience request name path := by
  have resolves (verdict : Verdict) : (around.elsewhere write remove).resolve patience verdict name path =
      around.resolve patience verdict name path := by
    cases verdict with
    | suspicious reasons => exact around.elsewhere_decide write remove _ patience
    | _ => rfl
  unfold runTarget
  simp only [resolves]
  rfl

/-- Targets do not depend on how a request is written and removed. -/
theorem elsewhere_runTargets (patience : Nat) (request : String) (targets : Targets) (report : Report) :
    (around.elsewhere write remove).runTargets patience request targets report =
      around.runTargets patience request targets report := by
  induction targets generalizing report with
  | nil => rfl
  | cons target others ih =>
    unfold runTargets
    simp only [elsewhere_runTarget,ih]
    rfl

end Elsewhere

/-! ### Whole runs -/

/-- A run whose targets leave the request alone writes it once and begins its removal once; what the removal comes to
decides how the run goes on. -/
private theorem run_changes (patience : Nat) (elapsed : σ → Nanoseconds) (spec : Specification)
    (world written : σ)
    (request : String) (wrote : around.write spec.toText world = (some (.ok request), written))
    (report? : Option Report) (after : σ) (during : List Step) (alone : ∀ step ∈ during, step.LeavesAlone request) :
    around.runTargets patience request spec.targets [] (around.hear (.runStart spec) written) =
      (report?, after, during) →
    let ran := around.run patience elapsed spec world
    let (problem??, cleaned) := around.remove request after
    let steps := .wrote request spec.toText :: .told (.runStart spec) :: during ++ [.removed request]
    ran.2.2.filter Step.changesRequest = [.wrote request spec.toText, .removed request] ∧
    match report?, problem?? with
    | some report, some problem? =>
      let last := around.heard (leftover request problem?) cleaned
      let complete : Event := .runComplete report (elapsed last)
      ran = (some (.ok report), around.hear complete last,
        steps ++ (noticed (leftover request problem?) ++ [.told complete]))
    | _, _ => ran = (none, cleaned, steps) := by
  intro gone ran
  have unchanged := Step.leavesAlone_unchanged request during alone
  have told (notices : List Notice) : (noticed notices).filter Step.changesRequest = [] :=
    Step.leavesAlone_unchanged request _ (by simp [noticed,Step.LeavesAlone])
  rcases removed : around.remove request after with ⟨problem??,cleaned⟩
  cases report? with
  | none =>
    have abandoned := around.run_abandoned patience elapsed spec world written request wrote after during gone
    rw [removed] at abandoned
    refine ⟨?_,abandoned⟩
    simp [ran,abandoned,List.filter_cons,Step.changesRequest,unchanged]
  | some report =>
    cases problem?? with
    | none =>
      have uncleaned := around.run_uncleaned patience elapsed spec world written request wrote after during report
        cleaned gone removed
      refine ⟨?_,uncleaned⟩
      simp [ran,uncleaned,List.filter_cons,Step.changesRequest,unchanged]
    | some problem? =>
      have ended := around.run_ended patience elapsed spec world written request wrote after during report cleaned
        gone problem? removed
      refine ⟨?_,ended⟩
      simp [ran,ended,List.filter_cons,Step.changesRequest,unchanged,told]

/-- If the request cannot be written, or the run is abandoned there, nothing else happens. Else it is written
before everything and its removal is begun once, after the last target or where the run is abandoned, also
where that is while it waits for the removal; in between the request is left alone. How it is written and
removed changes nothing in between and not the report: a request that is left over is noticed, that is all.
The steps are the calls that a trace of the world has. -/
theorem request_lifecycle (patience : Nat) (elapsed : σ → Nanoseconds) (spec : Specification)
    (world : σ) :
    (∀ trace, Traced around trace →
      let ran := around.run patience elapsed spec world
      trace ran.2.1 = trace world ++ ran.2.2) ∧
    (∀ path reason written, around.write spec.toText world = (some (.error (path, reason)), written) →
      around.run patience elapsed spec world = (some (.error ⟨path, reason⟩), written, [])) ∧
    (∀ written, around.write spec.toText world = (none, written) →
      around.run patience elapsed spec world = (none, written, [])) ∧
    ∀ request written, around.write spec.toText world = (some (.ok request), written) →
      ∃ (report? : Option Report) (after : σ) (during : List Step),
        (∀ step ∈ during, step.LeavesAlone request) ∧
        during.filterMap Step.started? <+: spec.targets ∧
        (report?.isSome → during.filterMap Step.started? = spec.targets) ∧
        ∀ write remove, write spec.toText world = (some (.ok request), written) →
          let ran := (around.elsewhere write remove).run patience elapsed spec world
          let (problem??, cleaned) := remove request after
          let steps := .wrote request spec.toText :: .told (.runStart spec) :: during ++ [.removed request]
          ran.2.2.filter Step.changesRequest = [.wrote request spec.toText, .removed request] ∧
          match report?, problem?? with
          | some report, some problem? =>
            let last := around.heard (leftover request problem?) cleaned
            let complete : Event := .runComplete report (elapsed last)
            ran = (some (.ok report), around.hear complete last,
              steps ++ (noticed (leftover request problem?) ++ [.told complete]))
          | _, _ => ran = (none, cleaned, steps) := by
  refine ⟨fun trace traced => traced.run patience elapsed spec world,?_,?_,?_⟩
  · intro path reason written failed
    exact around.run_unwritten patience elapsed spec world written path reason failed
  · intro written silent
    exact around.run_unplaced patience elapsed spec world written silent
  intro request written wrote
  have alone := around.runTargets_alone patience request spec.targets []
    (around.hear (.runStart spec) written)
  have started := around.runTargets_started patience request spec.targets []
    (around.hear (.runStart spec) written)
  rcases gone : around.runTargets patience request spec.targets []
    (around.hear (.runStart spec) written) with ⟨report?,after,during⟩
  rw [gone] at alone started
  obtain ⟨front,all⟩ := around.visits_targets patience request spec.targets [] _ after report? during
    gone
  refine ⟨report?,after,during,alone,started ▸ front,fun ended => started.trans (all ended),?_⟩
  intro write remove writes
  -- The targets run as before wherever the request is, so only its removal is left to be told apart.
  have gone_again : (around.elsewhere write remove).runTargets patience request spec.targets []
      ((around.elsewhere write remove).hear (.runStart spec) written) = (report?, after, during) := by
    rw [elsewhere_runTargets]
    exact gone
  exact (around.elsewhere write remove).run_changes patience elapsed spec world written request writes report?
    after during alone gone_again

/-- A run that is abandoned at an execution begins the removal once, though that fails, and so does one that
is abandoned at the removal; and there is no run without a request. -/
theorem abandoned_run_cleans_up :
    let plain : Surroundings Unit :=
      { write := fun _ world => (some (.ok "request.json"), world)
        scan := fun _ world => (some (.clean, []), world)
        ask := fun _ world => (none, world)
        edit := fun _ world => (none, world)
        execute := fun _ _ world => (none, world)
        remove := fun _ world => (some (some "busy"), world) }
    let around := plain.tracing
    let stuck := (plain.elsewhere plain.write fun _ world => (none, world)).tracing
    let full := (plain.elsewhere (fun _ world => (some (.error ("request.json", "disk full")), world))
      plain.remove).tracing
    let spec : Specification := ⟨"f", [], [("a", "a.py"), ("b", "b.py")]⟩
    let nothing : Specification := ⟨"f", [], []⟩
    let ran := around.run 1 (fun _ => 0) spec ((), [])
    let waited := stuck.run 1 (fun _ => 0) nothing ((), [])
    ran.1 = none ∧ ran.2.1.2 = ran.2.2 ∧
      ran.2.2.filter Step.changesRequest = [.wrote "request.json" spec.toText, .removed "request.json"] ∧
      waited.1 = none ∧ waited.2.1.2 = waited.2.2 ∧
      waited.2.2.filter Step.changesRequest =
        [.wrote "request.json" nothing.toText, .removed "request.json"] ∧
      full.run 1 (fun _ => 0) spec ((), []) = (some (.error ⟨"request.json", "disk full"⟩), ((), []), []) := by
  intro plain around stuck full spec nothing ran waited
  obtain ⟨traced,_,_,lives⟩ := around.request_lifecycle 1 (fun _ => 0) spec ((), [])
  obtain ⟨_,_,_,_,_,_,same⟩ := lives "request.json" ((), [.wrote "request.json" spec.toText]) rfl
  obtain ⟨cleaned,_⟩ := same around.write around.remove rfl
  obtain ⟨kept,_,_,waits⟩ := stuck.request_lifecycle 1 (fun _ => 0) nothing ((), [])
  obtain ⟨_,_,_,_,_,_,again⟩ := waits "request.json" ((), [.wrote "request.json" nothing.toText]) rfl
  obtain ⟨begun,_⟩ := again stuck.write stuck.remove rfl
  obtain ⟨_,refused,_⟩ := full.request_lifecycle 1 (fun _ => 0) spec ((), [])
  exact ⟨rfl,traced Prod.snd (traced_tracing _),cleaned,rfl,kept Prod.snd (traced_tracing _),begun,
    refused "request.json" "disk full" ((), []) rfl⟩

end Surroundings
end Proctor
