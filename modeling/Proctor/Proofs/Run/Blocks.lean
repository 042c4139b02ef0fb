import Proctor.Proofs.Run.Calls

/-! What is told about targets. Each one gives a block: its start, notices, its verdict, more notices and
its end. The notices about editors are those of the launches that failed. -/
namespace Proctor

def Notice.Expected (notice : Notice) : Prop :=
  notice.kind = .scriptStderr ∨ notice.kind = .detectorStderr ∨ notice.kind = .scanFailed

def Step.notice? : Step → Option Notice
  | .told (.noticed notice) => some notice
  | _ => none

def Step.failure? (name : String) : Step → Option Notice
  | .opened path (some problem) =>
    some ⟨.editorFailed, name, s!"could not open {path}: {problem}"⟩
  | _ => none

/-- Detectors and interpreters give the notices that are expected of them. -/
structure Surroundings.Unobtrusive {σ : Type} (around : Surroundings σ) : Prop where
  scan : ∀ path world verdict notices next, around.scan path world = (some (verdict, notices), next) →
    ∀ notice ∈ notices, notice.Expected
  execute : ∀ request path world result notices next,
    around.execute request path world = (some (result, notices), next) →
      ∀ notice ∈ notices, notice.Expected

/-! ### Steps that tell notices only -/

/-- Only notices are told, of editors exactly those of the launches that fail. -/
structure Regular (name : String) (steps : List Step) : Prop where
  told : steps.filterMap Step.event? = (steps.filterMap Step.notice?).map .noticed
  notices : ∀ notice ∈ steps.filterMap Step.notice?, notice.Expected ∨ notice.kind = .editorFailed
  editors : (steps.filterMap Step.notice?).filter (·.kind = .editorFailed) =
    steps.filterMap (Step.failure? name)

namespace Regular

theorem nil (name : String) : Regular name [] := ⟨rfl,by simp,rfl⟩

theorem append {name : String} {front back : List Step} (one : Regular name front)
    (other : Regular name back) : Regular name (front ++ back) where
  told := by simp only [List.filterMap_append,List.map_append,one.told,other.told]
  notices := by
    rw [List.filterMap_append,List.forall_mem_append]
    exact ⟨one.notices,other.notices⟩
  editors := by simp only [List.filterMap_append,List.filter_append,one.editors,other.editors]

theorem asked (name : String) (request : Request) (answer : Answer) :
    Regular name [.asked request answer] := ⟨rfl,by simp [Step.notice?],rfl⟩

theorem executed (name request path : String) : Regular name [.executed request path] :=
  ⟨rfl,by simp [Step.notice?],rfl⟩

end Regular

namespace Surroundings

theorem noticed_events (notices : List Notice) :
    (noticed notices).filterMap Step.event? = notices.map .noticed := by
  simp [noticed,List.filterMap_map,Function.comp_def,Step.event?]

private theorem noticed_notices (notices : List Notice) : (noticed notices).filterMap Step.notice? =
    notices := by
  simp [noticed,List.filterMap_map,Function.comp_def,Step.notice?]

private theorem noticed_failures (name : String) (notices : List Notice) :
    (noticed notices).filterMap (Step.failure? name) = [] := by
  simp [noticed,Step.failure?]

private theorem regular_noticed (name : String) (notices : List Notice)
    (expected : ∀ notice ∈ notices, notice.Expected) : Regular name (noticed notices) where
  told := by rw [noticed_events,noticed_notices]
  notices := by
    rw [noticed_notices]
    exact fun notice member => .inl (expected notice member)
  editors := by
    rw [noticed_notices,noticed_failures,List.filter_eq_nil_iff]
    intro notice member editor
    rcases expected notice member with kind | kind | kind <;> simp [kind] at editor

variable {σ : Type} (around : Surroundings σ)

private theorem regular_reopening (request : Request) (world : σ) :
    Regular request.name (around.reopening request world) := by
  unfold reopening
  cases (around.edit request.path world).1 with
  | none => exact ⟨rfl,by simp [unopened,noticed,Step.notice?],rfl⟩
  | some problem =>
    refine ⟨rfl,?_,rfl⟩
    simp [unopened,noticed,Step.notice?]

private theorem regular_decide (request : Request) (patience : Nat) (world after : σ)
    (passage? : Option Passage) (steps : List Step)
    (ran : around.decide request patience world = (passage?, after, steps)) :
    Regular request.name steps := by
  have course := around.asking_of_decide request patience world after passage? steps ran
  clear ran
  induction course with
  | stopped | silent => exact .nil _
  | ended world after answer => exact .asked _ request answer
  | again world next after answer found? steps _ _ _ ih =>
    exact ((Regular.asked _ request answer).append (around.regular_reopening request next)).append ih

end Surroundings

/-! ### Blocks -/

/-- What is done for a target until its verdict, and after it until its end. -/
structure Block where
  name : String
  path : String
  before : List Step
  verdict : Verdict
  after : List Step
  outcome? : Option Outcome

namespace Block
open Surroundings

def target (block : Block) : String × String := (block.name, block.path)

def work (block : Block) : List Step :=
  block.before ++ .told (.scanned block.name block.verdict) :: block.after

def steps (block : Block) : List Step :=
  .told (.targetStart block.name block.path) :: block.work ++
    [.told (closing block.name block.outcome?)]

def opening (block : Block) : List Event :=
  .targetStart block.name block.path :: (block.before.filterMap Step.notice?).map .noticed ++
    .scanned block.name block.verdict :: (block.after.filterMap Step.notice?).map .noticed

def events (block : Block) : List Event :=
  block.opening ++ [closing block.name block.outcome?]

/-- A scan comes before the verdict; after it only notices are told. A target is skipped after an answer
about it that says so. -/
structure Proper (block : Block) : Prop where
  scanning : ∃ notices, block.before = .scanned block.path :: noticed notices ∧
    ∀ notice ∈ notices, notice.Expected
  regular : Regular block.name block.after
  skipped : block.outcome? = none → ∃ reasons answer, block.verdict = .suspicious reasons ∧
    .asked ⟨block.name, block.path, reasons⟩ answer ∈ block.after ∧ answer.decision = .skip

private theorem Proper.before_events {block : Block} (proper : block.Proper) :
    block.before.filterMap Step.event? = (block.before.filterMap Step.notice?).map .noticed := by
  obtain ⟨notices,same,_⟩ := proper.scanning
  rw [same,List.filterMap_cons_none rfl,List.filterMap_cons_none rfl,noticed_events,noticed_notices]

theorem Proper.opening_events {block : Block} (proper : block.Proper) :
    (.told (.targetStart block.name block.path) :: block.work).filterMap Step.event? =
      block.opening := by
  have told (event : Event) : Step.event? (.told event) = some event := rfl
  rw [work,opening,List.filterMap_cons_some (told _),List.filterMap_append,proper.before_events,
    List.filterMap_cons_some (told _),proper.regular.told]
  rfl

theorem Proper.steps_events {block : Block} (proper : block.Proper) :
    block.steps.filterMap Step.event? = block.events := by
  rw [steps,List.filterMap_append,proper.opening_events]
  rfl

theorem completed_told (block : Block) (name : String) (outcome : Outcome) :
    .completed name outcome ∈ block.events ↔ (name, some outcome) = (block.name, block.outcome?) := by
  cases ended : block.outcome? <;> simp [events,opening,closing,ended]

end Block

namespace Surroundings
variable {σ : Type} (around : Surroundings σ)

private theorem skipped_asked (patience : Nat) (verdict : Verdict) (name path : String) (world after : σ)
    (steps : List Step)
    (ran : around.resolve patience verdict name path world = (some .skipped, after, steps)) :
    ∃ reasons answer, verdict = .suspicious reasons ∧ .asked ⟨name, path, reasons⟩ answer ∈ steps ∧
      answer.decision = .skip := by
  cases verdict with
  | clean => cases ran
  | scanFailed reason => cases ran
  | suspicious reasons =>
    obtain ⟨same,found⟩ := around.decide_calls _ patience world after _ steps ran
    obtain ⟨decision,first,ends⟩ := Option.bind_eq_some_iff.mp found.symm
    obtain ⟨answer,given,rfl⟩ := List.mem_map.mp (List.mem_of_find?_eq_some first)
    have call : .asked ⟨name, path, reasons⟩ answer ∈ steps.filter Step.isCall := by
      rw [same]
      exact List.mem_map_of_mem given
    refine ⟨reasons,answer,rfl,(List.mem_filter.mp call).1,?_⟩
    generalize answer.decision = decision at ends
    cases decision with
    | skip => rfl
    | _ => cases ends

private theorem regular_resolve (patience : Nat) (verdict : Verdict) (name path : String) (world after : σ)
    (passage? : Option Passage) (steps : List Step)
    (ran : around.resolve patience verdict name path world = (passage?, after, steps)) :
    Regular name steps := by
  cases verdict with
  | suspicious reasons => exact around.regular_decide _ patience world after passage? steps ran
  | _ =>
    cases ran
    exact .nil name

/-- The work for a target is that of a block, or the front of one if the run is abandoned there. -/
theorem runTarget_block (unobtrusive : around.Unobtrusive) (patience : Nat) (request name path : String)
    (world after : σ) (result? : Option (Option Outcome)) (steps : List Step)
    (ran : around.runTarget patience request name path world = (result?, after, steps)) :
    ∃ block : Block, block.target = (name, path) ∧ block.Proper ∧ steps <+: block.work ∧
      ∀ outcome?, result? = some outcome? → block.outcome? = outcome? ∧ block.work = steps := by
  -- The verdict is told in every case but one; what differs is what comes after it.
  have judged {next passed : σ} {verdict : Verdict} {notices : List Notice} {passage? : Option Passage}
      {asking : List Step} (back : List Step) (outcome? : Option Outcome)
      (scanned : around.scan path world = (some (verdict, notices), next))
      (resolved : around.resolve patience verdict name path
        (around.hear (.scanned name verdict) (around.heard notices next)) = (passage?, passed, asking))
      (regular : Regular name back) (skips : outcome? = none → passage? = some .skipped)
      (found : ∀ ended, result? = some ended → outcome? = ended) :
      ∃ block : Block, block.target = (name, path) ∧ block.Proper ∧
        scanning name path verdict notices ++ asking ++ back <+: block.work ∧
        ∀ outcome?, result? = some outcome? → block.outcome? = outcome? ∧
          block.work = scanning name path verdict notices ++ asking ++ back := by
    let block : Block :=
      ⟨name,path,.scanned path :: noticed notices,verdict,asking ++ back,outcome?⟩
    have whole : block.work = scanning name path verdict notices ++ asking ++ back := by
      simp [block,Block.work,scanning]
    have asked := around.regular_resolve patience verdict name path _ passed passage? asking resolved
    have proper : block.Proper := by
      refine ⟨⟨notices,rfl,unobtrusive.scan path world verdict notices next scanned⟩,
        asked.append regular,fun skipped => ?_⟩
      rw [skips skipped] at resolved
      obtain ⟨reasons,answer,same,given,decided⟩ :=
        around.skipped_asked patience verdict name path _ _ asking resolved
      exact ⟨reasons,answer,same,List.mem_append_left _ given,decided⟩
    exact ⟨block,rfl,proper,whole ▸ List.prefix_refl _,fun ended is => ⟨found ended is,whole⟩⟩
  cases around.course_of_runTarget patience request name path world after result? steps ran with
  | unscanned =>
    refine ⟨⟨name,path,[.scanned path],.clean,[],some (.failed cancelledByUser)⟩,rfl,
      ⟨⟨[],rfl,by simp⟩,.nil name,by simp⟩,List.prefix_append _ _,by simp⟩
  | undecided _ _ _ _ _ scanned resolved =>
    simpa using judged [] (some (.failed cancelledByUser)) scanned resolved (.nil name) (by simp) (by simp)
  | skipped _ _ _ _ _ scanned resolved =>
    simpa using judged [] none scanned resolved (.nil name) (fun _ => rfl) (by simp)
  | cancelled _ _ _ _ _ scanned resolved =>
    simpa using judged [] (some (.failed cancelledByUser)) scanned resolved (.nil name) (by simp) (by simp)
  | unexecuted _ _ _ _ _ _ scanned resolved _ =>
    exact judged [.executed request path] (some (.failed cancelledByUser)) scanned resolved
      (.executed name request path) (by simp) (by simp)
  | executed next passed last _ _ told _ result scanned resolved executed =>
    have telling := regular_noticed name told
      (unobtrusive.execute request path passed result told last executed)
    exact judged (.executed request path :: noticed told) (some (outcomeOf result)) scanned resolved
      ((Regular.executed name request path).append telling) (by simp) (by simp)

end Surroundings
end Proctor
