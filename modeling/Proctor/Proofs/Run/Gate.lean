import Proctor.Proofs.Run.Blocks
import Proctor.Proofs.Run.Prompts
import Proctor.Run.World

/-! The gate puts one request again and again until an answer ends the questions. What it does is told by
the answers and by what becomes of the editor, and it takes no more answers than these. -/
namespace Proctor

def Step.launch? : Step → Option (String × Option String)
  | .opened target problem? => some (target, problem?)
  | _ => none

namespace Surroundings

/-! ### Rounds -/

/-- An answer that opens the target, and the reason if the editor could not be opened. -/
structure Round where
  answer : Answer
  problem? : Option String

def Round.steps (request : Request) (round : Round) : List Step :=
  .asked request round.answer :: .opened request.path round.problem? ::
    noticed (unopened request round.problem?)

def consulting (request : Request) (rounds : List Round) (last : Answer) : List Step :=
  rounds.flatMap (Round.steps request) ++ [.asked request last]

/-- The steps put one request, once in each round and once more; they open the target once in each round;
and of the editors only those that could not be opened are told. -/
structure Interview (request : Request) (rounds : List Round) (last : Answer) (steps : List Step) :
    Prop where
  inOrder : steps = consulting request rounds last
  asked : dialogue steps = (rounds.map (·.answer) ++ [last]).map (request, ·)
  opened : steps.filterMap Step.launch? = rounds.map fun round => (request.path, round.problem?)
  told : steps.filterMap Step.event? =
    (rounds.flatMap fun round => unopened request round.problem?).map .noticed

section Rounds
variable (request : Request) (round : Round)

private theorem round_dialogue : dialogue (round.steps request) = [(request, round.answer)] := by
  have silent := noticed_dialogue (unopened request round.problem?)
  exact congrArg ((request, round.answer) :: ·) silent

private theorem round_launches :
    (round.steps request).filterMap Step.launch? = [(request.path, round.problem?)] := by
  have silent : (noticed (unopened request round.problem?)).filterMap Step.launch? = [] := by
    simp [noticed,Step.launch?]
  exact congrArg ((request.path, round.problem?) :: ·) silent

private theorem round_events :
    (round.steps request).filterMap Step.event? = (unopened request round.problem?).map .noticed :=
  noticed_events (unopened request round.problem?)

end Rounds

/-- Whatever becomes of the editors, the steps of rounds put one request. -/
theorem interview_consulting (request : Request) (rounds : List Round) (last : Answer) :
    Interview request rounds last (consulting request rounds last) := by
  induction rounds with
  | nil => exact ⟨rfl,rfl,rfl,rfl⟩
  | cons round rounds ih =>
    have split : consulting request (round :: rounds) last =
        round.steps request ++ consulting request rounds last := by
      simp [consulting]
    refine ⟨rfl,?_,?_,?_⟩
    · rw [split,dialogue_append,round_dialogue,ih.asked]
      rfl
    · rw [split,List.filterMap_append,round_launches,ih.opened]
      rfl
    · rw [split,List.filterMap_append,round_events,ih.told,List.flatMap_cons,List.map_append]

section Deciding
variable {σ : Type} (around : Surroundings σ) (request : Request)

/-- A prompt answers a request: in rounds that open the target, and then with an answer that ends the
questions. -/
inductive Answers : σ → List Round → Answer → σ → Prop
  | last (world after : σ) (answer : Answer) (asked : around.ask request world = (some answer, after))
      (ends : answer.decision ≠ .openAndReask) : Answers world [] answer after
  | round (world next after : σ) (answer last : Answer) (rounds : List Round)
      (asked : around.ask request world = (some answer, next))
      (opens : answer.decision = .openAndReask)
      (others : Answers (around.reopened request next) rounds last after) :
      Answers world (⟨answer, (around.edit request.path next).1⟩ :: rounds) last after

variable {around request}

theorem Answers.passage {world after : σ} {rounds : List Round} {last : Answer}
    (answers : Answers around request world rounds last after) :
    ∃ passage, passage? last.decision = some passage := by
  induction answers with
  | last world after answer _ ends => exact passage?_exists answer.decision ends
  | round _ _ _ _ _ _ _ _ _ ih => exact ih

theorem Answers.decide {world after : σ} {rounds : List Round} {last : Answer} {passage : Passage}
    (answers : Answers around request world rounds last after)
    (ends : passage? last.decision = some passage) (patience : Nat) (enough : rounds.length < patience) :
    around.decide request patience world = (some passage, after, consulting request rounds last) := by
  induction answers generalizing patience with
  | last world after answer asked _ =>
    obtain ⟨patience,rfl⟩ := Nat.exists_eq_succ_of_ne_zero (by omega : patience ≠ 0)
    exact around.decide_ends request patience world after answer passage asked ends
  | round world next after answer last rounds asked opens _ ih =>
    obtain ⟨patience,rfl⟩ := Nat.exists_eq_succ_of_ne_zero (by omega : patience ≠ 0)
    rw [List.length_cons] at enough
    rw [around.decide_again request patience world next after answer asked opens _ _
      (ih ends patience (by omega))]
    simp [consulting,Round.steps,reopening]

theorem Answers.decides {world after : σ} {rounds : List Round} {last : Answer}
    (answers : Answers around request world rounds last after) :
    ∃ passage steps, passage? last.decision = some passage ∧ Interview request rounds last steps ∧
      (dialogue steps).length = rounds.length + 1 ∧
      ∀ patience, rounds.length < patience →
        around.decide request patience world = (some passage, after, steps) := by
  obtain ⟨passage,ends⟩ := answers.passage
  have interview := interview_consulting request rounds last
  exact ⟨passage,_,ends,interview,by simp [interview.asked],answers.decide ends⟩

variable (around request)

/-- A decision has been reached by answers that take no more questions than there was patience for. -/
theorem answers_of_decide (patience : Nat) (world after : σ) (passage : Passage) (steps : List Step)
    (decided : around.decide request patience world = (some passage, after, steps)) :
    ∃ rounds last, rounds.length < patience ∧ Answers around request world rounds last after := by
  induction patience generalizing world steps with
  | zero => cases decided
  | succ patience ih =>
    rcases asked : around.ask request world with ⟨answer?,next⟩
    cases answer? with
    | none =>
      rw [around.decide_silent request patience world next asked] at decided
      cases decided
    | some answer =>
      by_cases opens : answer.decision = .openAndReask
      · rcases again : around.decide request patience (around.reopened request next) with
          ⟨found?,final,others⟩
        rw [around.decide_again request patience world next final answer asked opens found? others again]
          at decided
        cases decided
        obtain ⟨rounds,last,fewer,answers⟩ := ih _ others again
        exact ⟨_,last,by simpa using fewer,.round world next after answer last rounds asked opens answers⟩
      · obtain ⟨found,ends⟩ := passage?_exists answer.decision opens
        rw [around.decide_ends request patience world next answer found asked ends] at decided
        cases decided
        exact ⟨[],answer,Nat.succ_pos patience,.last world after answer asked opens⟩

end Deciding

/-! ### Prompts that always answer -/

/-- The world has a prompt that answers every question and that only questions change. -/
structure Attended {σ : Type} (around : Surroundings σ) (prompt : σ → Prompt) : Prop
    extends Prompted around prompt fun request prompt => some (prompt.ask request) where
  answers : ∀ request world, (around.ask request world).1.isSome

def Script (follows : Prompt → List Decision → Prop) : Prop :=
  ∀ prompt decisions request, follows prompt decisions →
    (prompt.ask request).1.decision = decisions.headD .cancel ∧
    follows (prompt.ask request).2 decisions.tail

private theorem script_queue : Script fun prompt decisions => prompt = .queue decisions := by
  rintro _ decisions request rfl
  cases decisions <;> exact ⟨rfl,rfl⟩

private theorem withMachine_prompt {α : Type} (act : Machine → α × Machine) (world : World) :
    (World.withMachine act world).2.prompt = world.prompt := rfl

private theorem attended_world (config : Config) : Attended (World.surroundings config) World.prompt where
  ask request world answer next asked := by
    simp only [World.surroundings,Prod.mk.injEq,Option.some.injEq] at asked
    obtain ⟨rfl,rfl⟩ := asked
    rfl
  write _ world := by simp only [World.surroundings,withMachine_prompt]
  scan _ world := by simp only [World.surroundings,withMachine_prompt]
  edit _ world := by simp only [World.surroundings,withMachine_prompt]
  execute _ _ world := by simp only [World.surroundings,withMachine_prompt]
  remove _ world := by simp only [World.surroundings,withMachine_prompt]
  hear _ _ := rfl
  answers _ _ := rfl

section Attended
variable {σ : Type} {around : Surroundings σ} {prompt : σ → Prompt} (attended : Attended around prompt)
include attended

theorem Attended.asked (request : Request) (world : σ) :
    ∃ next, around.ask request world = (some ((prompt world).ask request).1, next) ∧
      prompt next = ((prompt world).ask request).2 := by
  rcases asked : around.ask request world with ⟨answer?,next⟩
  obtain ⟨answer,rfl⟩ : ∃ answer, answer? = some answer :=
    Option.isSome_iff_exists.mp (by simpa [asked] using attended.answers request world)
  have put := Option.some.inj (attended.ask request world answer next asked)
  exact ⟨next,by rw [put],by rw [put]⟩

theorem Attended.heard (notices : List Notice) (world : σ) :
    prompt (around.heard notices world) = prompt world := by
  induction notices generalizing world with
  | nil => rfl
  | cons notice notices ih => exact (ih _).trans (attended.hear _ world)

theorem Attended.reopened (request : Request) (world : σ) :
    prompt (around.reopened request world) = prompt world :=
  (attended.heard _ _).trans (attended.edit request.path world)

/-- A prompt with a script answers with the first decisions of the script, until one ends the questions. -/
theorem Attended.answers_of_script {follows : Prompt → List Decision → Prop} (script : Script follows)
    (request : Request) (decisions : List Decision) (world : σ) (here : follows (prompt world) decisions) :
    ∃ rounds last after, Answers around request world rounds last after ∧
      List.replicate rounds.length .openAndReask ++ [last.decision] <+: decisions ++ [.cancel] ∧
      follows (prompt after) (decisions.drop (rounds.length + 1)) := by
  induction decisions generalizing world with
  | nil =>
    obtain ⟨next,asked,same⟩ := attended.asked request world
    obtain ⟨cancels,left⟩ := script _ _ request here
    -- Without decisions the question is cancelled, which ends the questions.
    have ends : ((prompt world).ask request).1.decision ≠ .openAndReask := by
      rw [cancels]
      exact Decision.noConfusion
    exact ⟨[],_,next,.last world next _ asked ends,by simp [cancels],same ▸ left⟩
  | cons decision decisions ih =>
    obtain ⟨next,asked,same⟩ := attended.asked request world
    obtain ⟨first,left⟩ := script _ _ request here
    by_cases opens : decision = .openAndReask
    · subst opens
      have kept : follows (prompt (around.reopened request next)) decisions := by
        rw [attended.reopened,same]
        exact left
      obtain ⟨rounds,last,after,answers,front,rest⟩ := ih _ kept
      refine ⟨_,last,after,.round world next after _ last rounds asked first answers,?_,rest⟩
      simpa [List.replicate_succ] using front
    · have ends : ((prompt world).ask request).1.decision ≠ .openAndReask := by
        rw [first]
        exact opens
      refine ⟨[],_,next,.last world next _ asked ends,?_,same ▸ left⟩
      simp [first]

theorem Attended.decides_script {follows : Prompt → List Decision → Prop} (script : Script follows)
    (request : Request) (decisions : List Decision) (world : σ) (here : follows (prompt world) decisions) :
    ∃ rounds last after, Answers around request world rounds last after ∧
      List.replicate rounds.length .openAndReask ++ [last.decision] <+: decisions ++ [.cancel] ∧
      follows (prompt after) (decisions.drop (rounds.length + 1)) ∧
      ∀ patience, decisions.length < patience →
        ∃ passage steps, around.decide request patience world = (some passage, after, steps) ∧
          (dialogue steps).length ≤ decisions.length + 1 := by
  obtain ⟨rounds,last,after,answers,front,rest⟩ :=
    attended.answers_of_script script request decisions world here
  have few : rounds.length ≤ decisions.length := by simpa using front.length_le
  obtain ⟨passage,steps,_,_,asks,decides⟩ := answers.decides
  refine ⟨rounds,last,after,answers,front,rest,fun patience enough => ?_⟩
  exact ⟨passage,steps,decides patience (by omega),by omega⟩

end Attended

/-! ### The gate -/

section Gate
variable {σ : Type} (around : Surroundings σ) (name path : String) (world : σ)

/-- A target that is not suspicious proceeds, and nothing is done. For a suspicious one the same request is
put until an answer ends the questions: every answer before it opens the target once, and nothing is told
but editors that could not be opened. A decision is never reached in another way. A queue of answers
always leads to one with at most one question more than it has answers, and a fixed answer leads to one
with one question. -/
theorem gate_asks_until_decided :
    (∀ config, Attended (World.surroundings config) World.prompt) ∧
    (∀ verdict patience, (verdict = .clean ∨ ∃ reason, verdict = .scanFailed reason) →
      around.resolve patience verdict name path world = (some .proceed, world, [])) ∧
    ∀ reasons,
      let request : Request := ⟨name, path, reasons⟩
      let resolve := fun patience => around.resolve patience (.suspicious reasons) name path world
      (∀ rounds last after, Answers around request world rounds last after →
        ∃ passage steps, passage? last.decision = some passage ∧ Interview request rounds last steps ∧
          (dialogue steps).length = rounds.length + 1 ∧
          ∀ patience, rounds.length < patience → resolve patience = (some passage, after, steps)) ∧
      (∀ patience passage after steps, resolve patience = (some passage, after, steps) →
        ∃ rounds last, rounds.length < patience ∧ Answers around request world rounds last after) ∧
      ∀ prompt, Attended around prompt →
        (∀ decisions, prompt world = .queue decisions →
          ∃ rounds last after, Answers around request world rounds last after ∧
            List.replicate rounds.length .openAndReask ++ [last.decision] <+: decisions ++ [.cancel] ∧
            prompt after = .queue (decisions.drop (rounds.length + 1)) ∧
            ∀ patience, decisions.length < patience →
              ∃ passage steps, resolve patience = (some passage, after, steps) ∧
                (dialogue steps).length ≤ decisions.length + 1) ∧
        ∀ decision, decision ≠ .openAndReask → prompt world = .fixed decision →
          ∃ passage after, passage? decision = some passage ∧ prompt after = .fixed decision ∧
            ∀ patience, 0 < patience →
              resolve patience = (some passage, after, [.asked request ⟨decision, ""⟩]) := by
  refine ⟨attended_world,?_,fun reasons => ?_⟩
  · rintro _ patience (rfl | ⟨reason,rfl⟩) <;> rfl
  intro request resolve
  refine ⟨fun _ _ _ answers => answers.decides,fun patience passage after steps =>
    around.answers_of_decide request patience world after passage steps,fun prompt attended => ⟨?_,?_⟩⟩
  · exact fun decisions here => attended.decides_script script_queue request decisions world here
  · intro decision ends here
    obtain ⟨after,asked,same⟩ := attended.asked request world
    rw [here] at asked same
    -- A fixed answer ends the questions at once, in no round.
    have answers : Answers around request world [] ⟨decision, ""⟩ after :=
      .last world after ⟨decision, ""⟩ asked ends
    obtain ⟨passage,steps,decided,interview,_,resolves⟩ := answers.decides
    rw [interview.inOrder] at resolves
    exact ⟨passage,after,decided,same,resolves⟩

end Gate

/-- A target is opened twice, the first time in vain, and then skipped; one more answer is left. -/
theorem opened_target_skipped :
    let around : Surroundings (Prompt × Nat) :=
      { write := fun _ world => (some (.ok "request.json"), world)
        scan := fun _ world => (none, world)
        ask := fun request (prompt, opened) =>
          (some (prompt.ask request).1, (prompt.ask request).2, opened)
        edit := fun _ (prompt, opened) =>
          (if opened = 0 then some "no display" else none, prompt, opened + 1)
        execute := fun _ _ world => (none, world)
        remove := fun _ world => (some none, world) }
    let world := (Prompt.queue [.openAndReask, .openAndReask, .skip, .runAnyway], 0)
    let request : Request := ⟨"a.py", "/tmp/a.py", "eval"⟩
    Attended around Prod.fst ∧ ∃ steps,
      around.resolve 5 (.suspicious "eval") "a.py" "/tmp/a.py" world =
        (some .skipped, (.queue [.runAnyway], 2), steps) ∧
      dialogue steps = [(request, ⟨.openAndReask, ""⟩), (request, ⟨.openAndReask, ""⟩),
        (request, ⟨.skip, ""⟩)] ∧
      steps.filterMap Step.event? =
        [.noticed ⟨.editorFailed, "a.py", "could not open /tmp/a.py: no display"⟩] := by
  intro around world request
  have attended : Attended around Prod.fst := by
    refine ⟨⟨?_,?_,?_,?_,?_,?_,?_⟩,fun _ _ => rfl⟩
    · rintro request world answer next ⟨⟩
      rfl
    all_goals intros; rfl
  obtain ⟨decides,_,_⟩ := (around.gate_asks_until_decided "a.py" "/tmp/a.py" world).2.2 "eval"
  -- The rounds from the last one back.
  have skipped : Answers around request (.queue [.skip, .runAnyway], 2) [] ⟨.skip, ""⟩
      (.queue [.runAnyway], 2) := .last _ _ _ rfl (by decide)
  have reopened : Answers around request (.queue [.openAndReask, .skip, .runAnyway], 1)
      [⟨⟨.openAndReask, ""⟩, none⟩] ⟨.skip, ""⟩ (.queue [.runAnyway], 2) :=
    .round _ (Prompt.queue [.skip, .runAnyway], 1) _ _ _ _ rfl rfl skipped
  have answers : Answers around request world
      [⟨⟨.openAndReask, ""⟩, some "no display"⟩, ⟨⟨.openAndReask, ""⟩, none⟩] ⟨.skip, ""⟩
      (.queue [.runAnyway], 2) :=
    .round _ (Prompt.queue [.openAndReask, .skip, .runAnyway], 0) _ _ _ _ rfl rfl reopened
  obtain ⟨passage,steps,ends,interview,_,resolves⟩ := decides _ _ _ answers
  cases ends
  refine ⟨attended,steps,resolves 5 (by decide),interview.asked,?_⟩
  rw [interview.told]
  decide

end Surroundings
end Proctor
