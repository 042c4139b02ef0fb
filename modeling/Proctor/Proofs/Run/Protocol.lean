import Proctor.Proofs.OrderedMap
import Proctor.Proofs.Run.Blocks
import Proctor.Proofs.Run.Keeping
import Proctor.Proofs.Run.Reporting

/-! What whoever watches a run is told: its start, a block for each target in order, a request that is
left over, and its end with the report. -/
namespace Proctor

/-! ### The programs of a configuration -/

theorem World.unobtrusive (config : Config) : (World.surroundings config).Unobtrusive where
  scan path world verdict notices next scanned := by
    simp only [surroundings,withMachine,Machine.scanTarget] at scanned
    split at scanned
    · simp only [Prod.mk.injEq,Option.map_eq_some_iff] at scanned
      obtain ⟨⟨⟨lines,found⟩,_,same⟩,_⟩ := scanned
      have lines_expected : ∀ notice ∈ errorLines .detectorStderr path lines, notice.Expected := by
        simp [errorLines,Notice.Expected]
      cases found with
      | ok _ =>
        cases same
        exact lines_expected
      | error error =>
        cases same
        rw [List.forall_mem_append,List.forall_mem_singleton]
        exact ⟨lines_expected,.inr (.inr rfl)⟩
    · cases scanned
      exact List.forall_mem_nil _
  execute request path world result notices next executed := by
    simp only [surroundings,withMachine,Machine.execute,Prod.mk.injEq,Option.map_eq_some_iff] at executed
    obtain ⟨⟨⟨lines,found⟩,_,_,rfl⟩,_⟩ := executed
    simp [errorLines,Notice.Expected]

namespace Surroundings
variable {σ : Type} (around : Surroundings σ)

/-! ### Blocks of all targets -/

private theorem runTargets_blocks (unobtrusive : around.Unobtrusive) (patience : Nat) (request : String)
    (targets : Targets) (report : Report) (world after : σ) (report? : Option Report)
    (steps : List Step)
    (ran : around.runTargets patience request targets report world = (report?, after, steps)) :
    ∃ blocks : List Block, (∀ block ∈ blocks, block.Proper) ∧
      (∀ found, report? = some found → blocks.map Block.target = targets ∧
        steps = blocks.flatMap Block.steps ∧
        found = recordAll report (entries targets (blocks.map Block.outcome?))) ∧
      (report? = none → ∃ (last : Block) (front : List Step), last.Proper ∧
        blocks.map Block.target ++ [last.target] <+: targets ∧ front <+: last.work ∧
        steps = blocks.flatMap Block.steps ++ .told (.targetStart last.name last.path) :: front) := by
  have course := around.courses_of_runTargets patience request targets report world after report? steps
    ran
  clear ran
  -- Each target adds its block; the one at which the run is abandoned has only begun.
  induction course with
  | done => exact ⟨[],by simp,by simp [recordAll,entries],by simp⟩
  | abandoned name path others report world after front treated =>
    obtain ⟨block,isTarget,proper,within,_⟩ := around.runTarget_block unobtrusive patience request
      name path _ after none front treated
    obtain ⟨rfl,rfl⟩ := Prod.mk.inj isTarget
    refine ⟨[],by simp,by simp,fun _ => ⟨block,front,proper,?_,within,rfl⟩⟩
    exact List.prefix_append [block.target] others
  | next name path others report world middle after outcome? report? front rest treated _ ih =>
    obtain ⟨block,isTarget,proper,_,whole⟩ := around.runTarget_block unobtrusive patience request
      name path _ middle (some outcome?) front treated
    obtain ⟨rfl,rfl⟩ := Prod.mk.inj isTarget
    obtain ⟨rfl,rfl⟩ := whole outcome? rfl
    obtain ⟨blocks,propers,ended,abandoned⟩ := ih
    refine ⟨block :: blocks,List.forall_mem_cons.mpr ⟨proper,propers⟩,?_,?_⟩
    · intro found is
      obtain ⟨rfl,rfl,rfl⟩ := ended found is
      refine ⟨rfl,?_,(recordAll_entries ..).symm⟩
      simp [Block.steps]
    · intro is
      obtain ⟨last,front,lastProper,reached,part,rfl⟩ := abandoned is
      refine ⟨last,front,lastProper,?_,part,?_⟩
      · exact List.cons_prefix_cons.mpr ⟨rfl,reached⟩
      · simp [Block.steps]

/-! ### Whoever watches -/

/-- Whoever watches keeps the events, and nothing else changes what is kept. -/
structure Watched (view : σ → List Event) : Prop where
  hear : ∀ event world, view (around.hear event world) = view world ++ [event]
  write : ∀ content world, view (around.write content world).2 = view world
  scan : ∀ path world, view (around.scan path world).2 = view world
  ask : ∀ request world, view (around.ask request world).2 = view world
  edit : ∀ path world, view (around.edit path world).2 = view world
  execute : ∀ request path world, view (around.execute request path world).2 = view world
  remove : ∀ request world, view (around.remove request world).2 = view world

section Watched

def Shows (view : σ → List Event) (world after : σ) (steps : List Step) : Prop :=
  view after = view world ++ steps.filterMap Step.event?

private theorem shows_chained (view : σ → List Event) : Chained fun _ => Shows view where
  nothing _ := (List.append_nil _).symm
  stop _ := (List.append_nil _).symm
  append _ first middle last front back one other := by
    unfold Shows at *
    rw [other,one,List.filterMap_append,List.append_assoc]

private theorem shows_of_kept {view : σ → List Event} {world after : σ} {steps : List Step}
    (kept : view after = view world) (silent : steps.filterMap Step.event? = []) :
    Shows view world after steps := by
  rw [Shows,kept,silent,List.append_nil]

variable {around} {view : σ → List Event} (watched : Watched around view)
include watched

theorem Watched.acts : EachAct around (Shows view) where
  hear := watched.hear
  unplaced content world after silent := shows_of_kept (by rw [← watched.write content world,silent]) rfl
  unwritten content problem world after failed :=
    shows_of_kept (by rw [← watched.write content world,failed]) rfl
  written content request world after wrote :=
    shows_of_kept (by rw [← watched.write content world,wrote]) rfl
  scan path world := shows_of_kept (watched.scan path world) rfl
  unanswered about world next silent := shows_of_kept (by rw [← watched.ask about world,silent]) rfl
  answered about world next answer asked := shows_of_kept (by rw [← watched.ask about world,asked]) rfl
  edit path world := shows_of_kept (watched.edit path world) rfl
  execute request path world := shows_of_kept (watched.execute request path world) rfl
  remove request world := shows_of_kept (watched.remove request world) rfl

/-- Whoever watches is told the events of a run, in their order. -/
theorem Watched.run (patience : Nat) (elapsed : σ → Nanoseconds) (spec : Specification) (world : σ) :
    let ran := around.run patience elapsed spec world
    view ran.2.1 = view world ++ ran.2.2.filterMap Step.event? :=
  watched.acts.run (shows_chained view) patience elapsed spec world

end Watched

/-! ### Whole runs -/

private theorem completed_mem_blocks (blocks : List Block) (name : String) (outcome : Outcome) :
    .completed name outcome ∈ blocks.flatMap Block.events ↔
      (name, outcome) ∈ entries (blocks.map Block.target) (blocks.map Block.outcome?) := by
  induction blocks with
  | nil => simp [entries]
  | cons block blocks ih =>
    rw [List.flatMap_cons,List.mem_append,ih,block.completed_told]
    cases ended : block.outcome? <;> simp [entries,ended,Block.target]

private theorem blocks_told (blocks : List Block) (proper : ∀ block ∈ blocks, block.Proper) :
    (blocks.flatMap Block.steps).filterMap Step.event? = blocks.flatMap Block.events := by
  induction blocks with
  | nil => rfl
  | cons block blocks ih =>
    obtain ⟨first,others⟩ := List.forall_mem_cons.mp proper
    rw [List.flatMap_cons,List.filterMap_append,first.steps_events,ih others,List.flatMap_cons]

section Run
variable (elapsed : σ → Nanoseconds) (spec : Specification) (world written : σ) (request : String)
  (wrote : around.write spec.toText world = (some (.ok request), written))
  (unobtrusive : around.Unobtrusive) (distinct : (spec.targets.map (·.1)).Nodup)
include wrote unobtrusive

/-- A run that is abandoned tells its start, blocks for the first targets, and the front of one more; or blocks for
all targets if nothing comes of the removal. -/
theorem run_abandoned_told (patience : Nat)
    (abandoned : (around.run patience elapsed spec world).1 = none) :
    let events := (around.run patience elapsed spec world).2.2.filterMap Step.event?
    (∃ (blocks : List Block) (last : Block) (front : List Event),
      (∀ block ∈ blocks ++ [last], block.Proper) ∧
      (blocks ++ [last]).map Block.target <+: spec.targets ∧ front <+: last.opening ∧
      events = .runStart spec :: blocks.flatMap Block.events ++ front) ∨
    ∃ (blocks : List Block) (after cleaned : σ), (∀ block ∈ blocks, block.Proper) ∧
      blocks.map Block.target = spec.targets ∧ around.remove request after = (none, cleaned) ∧
      events = .runStart spec :: blocks.flatMap Block.events := by
  rcases run : around.run patience elapsed spec world with ⟨result?,final,steps⟩
  rw [run] at abandoned
  have told := fun report? after during =>
    around.runTargets_blocks unobtrusive patience request spec.targets []
      (around.hear (.runStart spec) written) after report? during
  cases around.course_of_run patience elapsed spec request written world wrote result? final steps run with
  | ended => cases abandoned
  | abandoned after during gone =>
    obtain ⟨blocks,proper,_,stopped⟩ := told none after during gone
    obtain ⟨last,front,lastProper,reached,part,rfl⟩ := stopped rfl
    have opened : (.told (.targetStart last.name last.path) :: front).filterMap Step.event? <+:
        last.opening := by
      rw [← lastProper.opening_events]
      exact (List.cons_prefix_cons.mpr ⟨rfl,part⟩).filterMap _
    refine .inl ⟨blocks,last,_,?_,?_,opened,?_⟩
    · rw [List.forall_mem_append,List.forall_mem_singleton]
      exact ⟨proper,lastProper⟩
    · rw [List.map_append]
      exact reached
    · have whole := blocks_told blocks proper
      simp [List.filterMap_cons,Step.event?,whole]
  | uncleaned after _ report during gone removed =>
    obtain ⟨blocks,proper,passed,_⟩ := told (some report) after during gone
    obtain ⟨isTargets,rfl,_⟩ := passed report rfl
    refine .inr ⟨blocks,after,_,proper,isTargets,removed,?_⟩
    have whole := blocks_told blocks proper
    simp [List.filterMap_cons,Step.event?,whole]

include distinct

/-- A run that ends tells its start, a block for each target in order, a request that is left over, and
its end with the report. -/
theorem run_ended_told (patience : Nat) (result : Except WriteError Report)
    (ended : (around.run patience elapsed spec world).1 = some result) :
    ∃ (blocks : List Block) (problem? : Option String) (duration : Nanoseconds) (after cleaned : σ),
      let ran := around.run patience elapsed spec world
      let report := entries spec.targets (blocks.map Block.outcome?)
      result = .ok report ∧ (∀ block ∈ blocks, block.Proper) ∧
      blocks.map Block.target = spec.targets ∧
      around.remove request after = (some problem?, cleaned) ∧
      ran.2.2 = .wrote request spec.toText :: .told (.runStart spec) :: blocks.flatMap Block.steps ++
        .removed request :: noticed (leftover request problem?) ++ [.told (.runComplete report duration)] ∧
      ran.2.2.filterMap Step.event? = .runStart spec :: blocks.flatMap Block.events ++
        (leftover request problem?).map .noticed ++ [.runComplete report duration] := by
  rcases run : around.run patience elapsed spec world with ⟨result?,final,steps⟩
  rw [run] at ended
  cases around.course_of_run patience elapsed spec request written world wrote result? final steps run with
  | abandoned | uncleaned => cases ended
  | ended after cleaned last report problem? during gone removed _ =>
    cases ended
    obtain ⟨blocks,proper,passed,_⟩ := around.runTargets_blocks unobtrusive patience request spec.targets []
      _ after _ during gone
    obtain ⟨isTargets,rfl,rfl⟩ := passed report rfl
    have whole : recordAll [] (entries spec.targets (blocks.map Block.outcome?)) =
        entries spec.targets (blocks.map Block.outcome?) :=
      recordAll_distinct [] _ (by simpa using (entries_names _ _).nodup distinct)
    rw [whole]
    refine ⟨blocks,problem?,elapsed last,after,cleaned,rfl,proper,isTargets,removed,by simp,?_⟩
    have told := blocks_told blocks proper
    simp [List.filterMap_cons,Step.event?,told,noticed_events]

/-- Whoever watches is told the events of a run in their order: its start; for each target in order its
start, notices, its verdict, more notices and its end, which has the outcome in the report or says that
the target was skipped; a request that is left over; and the end with the report. A target is skipped
after an answer that says so, and notices about editors come after the verdict, one for each launch that
failed. Responsive surroundings let a run end; one that is abandoned tells a front part of this. Each question,
each launch and the removal is a call that a trace of the world has. -/
theorem reporter_protocol :
    (∀ config, (World.surroundings config).Unobtrusive) ∧
    (Responsive around → ∃ bound, ∀ patience, bound ≤ patience →
      (around.run patience elapsed spec world).1.isSome) ∧
    ∀ patience,
      let ran := around.run patience elapsed spec world
      let events := ran.2.2.filterMap Step.event?
      (∀ trace, Traced around trace → trace ran.2.1 = trace world ++ ran.2.2) ∧
      (∀ view, Watched around view → view ran.2.1 = view world ++ events) ∧
      (∀ result, ran.1 = some result →
        ∃ (report : Report) (blocks : List Block) (problem? : Option String) (duration : Nanoseconds)
          (after cleaned : σ),
          result = .ok report ∧ (∀ block ∈ blocks, block.Proper) ∧
          blocks.map Block.target = spec.targets ∧
          around.remove request after = (some problem?, cleaned) ∧
          ran.2.2 = .wrote request spec.toText :: .told (.runStart spec) ::
            blocks.flatMap Block.steps ++ .removed request ::
            noticed (leftover request problem?) ++ [.told (.runComplete report duration)] ∧
          events = .runStart spec :: blocks.flatMap Block.events ++
            (leftover request problem?).map .noticed ++ [.runComplete report duration] ∧
          ∀ name outcome, .completed name outcome ∈ events ↔ report.get? name = some outcome) ∧
      (ran.1 = none →
        (∃ (blocks : List Block) (last : Block) (front : List Event),
          (∀ block ∈ blocks ++ [last], block.Proper) ∧
          (blocks ++ [last]).map Block.target <+: spec.targets ∧ front <+: last.opening ∧
          events = .runStart spec :: blocks.flatMap Block.events ++ front) ∨
        ∃ (blocks : List Block) (after cleaned : σ), (∀ block ∈ blocks, block.Proper) ∧
          blocks.map Block.target = spec.targets ∧ around.remove request after = (none, cleaned) ∧
          events = .runStart spec :: blocks.flatMap Block.events) := by
  refine ⟨World.unobtrusive,around.run_ends elapsed spec world written request wrote,?_⟩
  intro patience ran events
  refine ⟨fun trace traced => traced.run patience elapsed spec world,
    fun view watched => watched.run patience elapsed spec world,?_,
    around.run_abandoned_told elapsed spec world written request wrote unobtrusive patience⟩
  intro result ended
  obtain ⟨blocks,problem?,duration,after,cleaned,rfl,proper,isTargets,removed,steps,told⟩ :=
    around.run_ended_told elapsed spec world written request wrote unobtrusive distinct patience result
      ended
  refine ⟨_,blocks,problem?,duration,after,cleaned,rfl,proper,isTargets,removed,steps,told,?_⟩
  intro name outcome
  have keys : (OrderedMap.keys (entries spec.targets (blocks.map Block.outcome?))).Nodup :=
    (entries_names _ _).nodup distinct
  rw [Report.get?,OrderedMap.get?_eq_some name outcome _ keys,← isTargets,← completed_mem_blocks]
  simp [events,ran,told]

end Run

/-- A target that is executed, and one that is skipped after an editor failed, are told as blocks. -/
theorem skipped_target_told :
    let around : Surroundings ((List Decision × List Event) × List Step) := tracing
      { write := fun _ world => (some (.ok "request.json"), world)
        scan := fun path world =>
          (some (if path = "a.py" then .clean else .suspicious "eval",
            [⟨.detectorStderr, path, "slow"⟩]), world)
        ask := fun _ (answers, told) =>
          (some ⟨(nextAnswer answers).1, ""⟩, (nextAnswer answers).2, told)
        edit := fun _ world => (some "no display", world)
        execute := fun _ path world =>
          (some (.error (.read "gone"), [⟨.scriptStderr, path, "killed"⟩]), world)
        remove := fun _ world => (some (some "busy"), world)
        hear := fun event (answers, told) => (answers, told ++ [event]) }
    let spec : Specification := ⟨"f", [], [("a", "a.py"), ("b", "b.py")]⟩
    let report : Report := [("a", .failed "Failed to read interpreter output: gone")]
    let ran := around.run 2 (fun _ => 7) spec (([.openAndReask, .skip], []), [])
    ran.1 = some (.ok report) ∧ ran.2.1.2 = ran.2.2 ∧
    ∃ (blocks : List Block) (problem? : Option String) (duration : Nanoseconds),
      (∀ block ∈ blocks, block.Proper) ∧ blocks.map Block.target = spec.targets ∧
      ran.2.1.1.2 = .runStart spec :: blocks.flatMap Block.events ++
        (leftover "request.json" problem?).map .noticed ++ [.runComplete report duration] := by
  intro around spec report ran
  have distinct : (spec.targets.map (·.1)).Nodup := by decide
  have unobtrusive : around.Unobtrusive := by
    constructor
    · rintro path world verdict notices next ⟨⟩
      exact List.forall_mem_singleton.mpr (.inr (.inl rfl))
    · rintro request path world result notices next ⟨⟩
      exact List.forall_mem_singleton.mpr (.inl rfl)
  have watched : Watched around (·.1.2) := by
    constructor <;> intros <;> rfl
  obtain ⟨_,_,runs⟩ := around.reporter_protocol (fun _ => 7) spec (([.openAndReask, .skip], []), [])
    (([.openAndReask, .skip], []), [.wrote "request.json" spec.toText]) "request.json" rfl unobtrusive distinct
  obtain ⟨traced,told,ended,_⟩ := runs 2
  have reported : ran.1 = some (.ok report) := rfl
  obtain ⟨_,blocks,problem?,duration,_,_,same,proper,isTargets,_,_,events,_⟩ := ended _ reported
  cases same
  exact ⟨reported,traced Prod.snd (traced_tracing _),blocks,problem?,duration,proper,isTargets,
    (told _ watched).trans events⟩

end Surroundings
end Proctor
