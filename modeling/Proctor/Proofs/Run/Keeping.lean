import Proctor.Proofs.Run.Course

/-! What holds from one step of a run to the next. A relation between a world, the world after it and the
steps in between that holds of each call, of what is told and of one thing after another holds of every
target, also if the run is abandoned there. -/
namespace Proctor

/-- A relation that holds of doing nothing, of stopping and of one thing after another. It may depend on
whether there is a result. -/
structure Chained {σ : Type} (R : Bool → σ → σ → List Step → Prop) : Prop where
  nothing (world : σ) : R true world world []
  stop (world : σ) : R false world world []
  append (ended : Bool) (first middle last : σ) (front back : List Step) (one : R true first middle front)
    (other : R ended middle last back) : R ended first last (front ++ back)

namespace Session
variable {σ α β : Type} {R : Bool → σ → σ → List Step → Prop}

def Keeps (session : Session σ α) (R : Bool → σ → σ → List Step → Prop) : Prop :=
  ∀ world, R (session world).1.isSome world (session world).2.1 (session world).2.2

private theorem keeps_pure (chained : Chained R) (a : α) : Keeps (pure a) R := chained.nothing

private theorem keeps_bind (chained : Chained R) (first : Session σ α) (next : α → Session σ β)
    (one : first.Keeps R) (other : ∀ a, (next a).Keeps R) : Keeps (first >>= next) R := by
  intro world
  have front := one world
  rcases ran : first world with ⟨a?,middle,steps⟩
  rw [ran] at front
  cases a? with
  | none =>
    rw [bind_of_none ran]
    exact front
  | some a =>
    rw [bind_of_some ran rfl]
    exact chained.append _ _ _ _ _ _ front (other a middle)

end Session

namespace Surroundings
open Session
variable {σ : Type} (around : Surroundings σ)

/-- The relation holds of the calls for a target, of notices and of a verdict. -/
structure Handles (request : String) (R : Bool → σ → σ → List Step → Prop) : Prop
    extends Chained R where
  noticed (notice : Notice) : (around.tell (.noticed notice)).Keeps R
  judged (name : String) (verdict : Verdict) : (around.tell (.scanned name verdict)).Keeps R
  scan (path : String) (world : σ) :
    R (around.scan path world).1.isSome world (around.scan path world).2 [.scanned path]
  unanswered (about : Request) (world next : σ) (silent : around.ask about world = (none, next)) :
    R false world next []
  answered (about : Request) (world next : σ) (answer : Answer)
    (asked : around.ask about world = (some answer, next)) : R true world next [.asked about answer]
  edit (path : String) (world : σ) :
    R true world (around.edit path world).2 [.opened path (around.edit path world).1]
  execute (path : String) (world : σ) :
    R (around.execute request path world).1.isSome world (around.execute request path world).2
      [.executed request path]

theorem handles_of_steps (request : String) (P : Step → Prop)
    (noticed : ∀ notice, P (.told (.noticed notice)))
    (judged : ∀ name verdict, P (.told (.scanned name verdict)))
    (scan : ∀ path, P (.scanned path)) (answered : ∀ about answer, P (.asked about answer))
    (edit : ∀ path problem?, P (.opened path problem?)) (execute : ∀ path, P (.executed request path)) :
    Handles around request fun _ _ _ steps => ∀ step ∈ steps, P step where
  nothing _ := List.forall_mem_nil _
  stop _ := List.forall_mem_nil _
  append _ _ _ _ _ _ one other := List.forall_mem_append.mpr ⟨one,other⟩
  noticed notice _ := List.forall_mem_singleton.mpr (noticed notice)
  judged name verdict _ := List.forall_mem_singleton.mpr (judged name verdict)
  scan path _ := List.forall_mem_singleton.mpr (scan path)
  unanswered _ _ _ _ := List.forall_mem_nil _
  answered about _ _ answer _ := List.forall_mem_singleton.mpr (answered about answer)
  edit path _ := List.forall_mem_singleton.mpr (edit path _)
  execute path _ := List.forall_mem_singleton.mpr (execute path)

namespace Handles
variable {around} {request : String} {R : Bool → σ → σ → List Step → Prop}
  (handles : Handles around request R)
include handles

theorem heard (notices : List Notice) (world : σ) :
    R true world (around.heard notices world) (Surroundings.noticed notices) := by
  induction notices generalizing world with
  | nil => exact handles.nothing world
  | cons notice notices ih =>
    exact handles.append _ _ _ _ [_] _ (handles.noticed notice world) (ih _)

theorem scanTarget (path : String) : (around.scanTarget path).Keeps R := by
  intro world
  have calls := handles.scan path world
  rcases scanned : around.scan path world with ⟨answer?,next⟩
  rw [scanned] at calls
  rcases answer? with _ | ⟨verdict,notices⟩
  · rw [around.scanTarget_silent path world next scanned]
    exact calls
  · rw [around.scanTarget_answered path world next verdict notices scanned]
    exact handles.append _ _ _ _ [_] _ calls (handles.heard notices next)

theorem openTarget (about : Request) (world : σ) :
    R true world (around.reopened about world) (around.reopening about world) :=
  handles.append _ _ _ _ [_] _ (handles.edit about.path world) (handles.heard _ _)

theorem decide (about : Request) (patience : Nat) : (around.decide about patience).Keeps R := by
  intro world
  rcases ran : around.decide about patience world with ⟨found?,after,steps⟩
  have course := around.asking_of_decide about patience world after found? steps ran
  clear ran
  induction course with
  | stopped world => exact handles.stop world
  | silent world after asked => exact handles.unanswered about world after asked
  | ended world after answer passage asked _ => exact handles.answered about world after answer asked
  | again world next after answer found? steps asked _ _ ih =>
    have calls := handles.answered about world next answer asked
    have opened := handles.append _ _ _ _ [_] _ calls (handles.openTarget about next)
    exact handles.append _ _ _ _ _ _ opened ih

theorem resolve (patience : Nat) (verdict : Verdict) (name path : String) :
    (around.resolve patience verdict name path).Keeps R := by
  cases verdict with
  | clean => exact handles.nothing
  | scanFailed reason => exact handles.nothing
  | suspicious reasons => exact handles.decide _ patience

theorem executeTarget (path : String) : (around.executeTarget request path).Keeps R := by
  intro world
  have calls := handles.execute path world
  rcases executed : around.execute request path world with ⟨answer?,next⟩
  rw [executed] at calls
  rcases answer? with _ | ⟨result,notices⟩
  · rw [around.executeTarget_silent request path world next executed]
    exact calls
  · rw [around.executeTarget_answered request path world next result notices executed]
    exact handles.append _ _ _ _ [_] _ calls (handles.heard notices next)

theorem runTarget (patience : Nat) (name path : String) :
    (around.runTarget patience request name path).Keeps R := by
  have chained := handles.toChained
  apply keeps_bind chained _ _ (handles.scanTarget path)
  intro verdict
  apply keeps_bind chained _ _ (handles.judged name verdict)
  intro _
  apply keeps_bind chained _ _ (handles.resolve patience verdict name path)
  rintro (_ | _ | _)
  · exact keeps_bind chained _ _ (handles.executeTarget path) fun _ => keeps_pure chained _
  · exact keeps_pure chained _
  · exact keeps_pure chained _

/-- If it also holds of the start and the end of a target, it holds of all targets. -/
theorem runTargets (starts : ∀ name path, (around.tell (.targetStart name path)).Keeps R)
    (closes : ∀ name outcome?, (around.tell (closing name outcome?)).Keeps R) (patience : Nat)
    (targets : Targets) (report : Report) :
    (around.runTargets patience request targets report).Keeps R := by
  have chained := handles.toChained
  induction targets generalizing report with
  | nil => exact keeps_pure chained report
  | cons target others ih =>
    obtain ⟨name,path⟩ := target
    apply keeps_bind chained _ _ (starts name path)
    intro _
    apply keeps_bind chained _ _ (handles.runTarget patience name path)
    rintro (_ | outcome)
    · exact keeps_bind chained _ _ (closes name none) fun _ => ih report
    · exact keeps_bind chained _ _ (closes name (some outcome)) fun _ => ih _

end Handles

/-! ### Whole runs -/

/-- The relation holds of each call, between the worlds before and after it and with the step that it leaves,
and of each event that is told. -/
structure EachAct (Q : σ → σ → List Step → Prop) : Prop where
  hear (event : Event) (world : σ) : Q world (around.hear event world) [.told event]
  unplaced (content : String) (world after : σ) (silent : around.write content world = (none, after)) :
    Q world after []
  unwritten (content : String) (problem : String × String) (world after : σ)
    (failed : around.write content world = (some (.error problem), after)) : Q world after []
  written (content request : String) (world after : σ)
    (wrote : around.write content world = (some (.ok request), after)) : Q world after [.wrote request content]
  scan (path : String) (world : σ) : Q world (around.scan path world).2 [.scanned path]
  unanswered (about : Request) (world next : σ) (silent : around.ask about world = (none, next)) :
    Q world next []
  answered (about : Request) (world next : σ) (answer : Answer)
    (asked : around.ask about world = (some answer, next)) : Q world next [.asked about answer]
  edit (path : String) (world : σ) :
    Q world (around.edit path world).2 [.opened path (around.edit path world).1]
  execute (request path : String) (world : σ) :
    Q world (around.execute request path world).2 [.executed request path]
  remove (request : String) (world : σ) : Q world (around.remove request world).2 [.removed request]

namespace EachAct
variable {around} {Q : σ → σ → List Step → Prop} (acts : EachAct around Q) (chained : Chained fun _ => Q)
include acts chained

theorem handles (request : String) : Handles around request fun _ => Q where
  toChained := chained
  noticed notice := acts.hear (.noticed notice)
  judged name verdict := acts.hear (.scanned name verdict)
  scan := acts.scan
  unanswered := acts.unanswered
  answered := acts.answered
  edit := acts.edit
  execute := acts.execute request

/-- It holds of a run, also of one that is abandoned. -/
theorem run (patience : Nat) (elapsed : σ → Nanoseconds) (spec : Specification) (world : σ) :
    Q world (around.run patience elapsed spec world).2.1 (around.run patience elapsed spec world).2.2 := by
  have append {first middle last : σ} {front back : List Step} (one : Q first middle front)
      (other : Q middle last back) : Q first last (front ++ back) :=
    chained.append true first middle last front back one other
  rcases wrote : around.write spec.toText world with ⟨_ | ⟨path,reason⟩ | request,written⟩
  · rw [around.run_unplaced patience elapsed spec world written wrote]
    exact acts.unplaced _ _ _ wrote
  · rw [around.run_unwritten patience elapsed spec world written path reason wrote]
    exact acts.unwritten _ _ _ _ wrote
  have starts := append (acts.written _ _ _ _ wrote) (acts.hear (.runStart spec) written)
  have handles := acts.handles chained request
  have treats := handles.runTargets (fun name path => acts.hear (.targetStart name path))
    (fun name outcome? => acts.hear (closing name outcome?)) patience spec.targets []
    (around.hear (.runStart spec) written)
  rcases ran : around.run patience elapsed spec world with ⟨result?,final,steps⟩
  cases around.course_of_run patience elapsed spec request written world wrote result? final steps ran with
  | abandoned after during gone =>
    rw [gone] at treats
    exact append (append starts treats) (acts.remove request after)
  | uncleaned after _ report during gone removed =>
    have removes := acts.remove request after
    rw [gone] at treats
    rw [removed] at removes
    exact append (append starts treats) removes
  | ended after cleaned last report problem? during gone removed told =>
    have removes := acts.remove request after
    have notices := handles.heard (leftover request problem?) cleaned
    rw [gone] at treats
    rw [removed] at removes
    rw [told] at notices
    have ends := append notices (acts.hear (.runComplete report (elapsed last)) last)
    exact append starts (append (append treats removes) ends)

end EachAct

/-- The world keeps a trace: each call and each event that is told adds the step that it leaves. -/
def Traced (trace : σ → List Step) : Prop :=
  EachAct around fun world after steps => trace after = trace world ++ steps

def tracing : Surroundings (σ × List Step) where
  write content := fun (world, trace) =>
    let (answer?, world) := around.write content world
    (answer?, world, trace ++ match answer? with
      | some (.ok request) => [.wrote request content]
      | _ => [])
  scan path := fun (world, trace) =>
    let (answer?, world) := around.scan path world
    (answer?, world, trace ++ [.scanned path])
  ask request := fun (world, trace) =>
    let (answer?, world) := around.ask request world
    (answer?, world, trace ++ (answer?.map (.asked request)).toList)
  edit path := fun (world, trace) =>
    let (problem?, world) := around.edit path world
    (problem?, world, trace ++ [.opened path problem?])
  execute request path := fun (world, trace) =>
    let (answer?, world) := around.execute request path world
    (answer?, world, trace ++ [.executed request path])
  remove request := fun (world, trace) =>
    let (answer?, world) := around.remove request world
    (answer?, world, trace ++ [.removed request])
  hear event := fun (world, trace) => (around.hear event world, trace ++ [.told event])

theorem traced_tracing : Traced around.tracing Prod.snd where
  hear _ _ := rfl
  unplaced content := by
    rintro ⟨world,trace⟩ after silent
    obtain ⟨answer,rfl⟩ := Prod.mk.inj silent
    simp only [answer]
  unwritten content problem := by
    rintro ⟨world,trace⟩ after failed
    obtain ⟨answer,rfl⟩ := Prod.mk.inj failed
    simp only [answer]
  written content request := by
    rintro ⟨world,trace⟩ after wrote
    obtain ⟨answer,rfl⟩ := Prod.mk.inj wrote
    simp only [answer]
  scan _ _ := rfl
  unanswered about := by
    rintro ⟨world,trace⟩ next silent
    obtain ⟨answer,rfl⟩ := Prod.mk.inj silent
    simp only [answer,Option.map_none,Option.toList_none]
  answered about := by
    rintro ⟨world,trace⟩ next answer asked
    obtain ⟨given,rfl⟩ := Prod.mk.inj asked
    simp only [given,Option.map_some,Option.toList_some]
  edit _ _ := rfl
  execute _ _ _ := rfl
  remove _ _ := rfl

/-- The steps of a run are the calls that it made and the events that it told, in their order. -/
theorem Traced.run {around : Surroundings σ} {trace : σ → List Step} (traced : Traced around trace)
    (patience : Nat) (elapsed : σ → Nanoseconds) (spec : Specification) (world : σ) :
    let ran := around.run patience elapsed spec world
    trace ran.2.1 = trace world ++ ran.2.2 := by
  refine EachAct.run traced ⟨fun _ => (List.append_nil _).symm,fun _ => (List.append_nil _).symm,?_⟩ patience
    elapsed spec world
  intro _ first middle last front back one other
  rw [other,one,List.append_assoc]

end Surroundings
end Proctor
