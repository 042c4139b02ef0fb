import Proctor.Proofs.Run.Calls
import Proctor.Proofs.Run.Keeping

/-! Prompts with a state of their own: the questions of a run are put to the prompt one after another.
A console answers with the lines that stand for a decision. -/
namespace Proctor

namespace Surroundings

/-- Questions put to a prompt one after another, and its state after them. -/
inductive Asks {π : Type} (ask : Request → π → Option (Answer × π)) :
    π → List (Request × Answer) → π → Prop
  | none (prompt : π) : Asks ask prompt [] prompt
  | more (prompt next last : π) (request : Request) (answer : Answer)
      (others : List (Request × Answer)) (asked : ask request prompt = some (answer, next))
      (rest : Asks ask next others last) : Asks ask prompt ((request, answer) :: others) last

theorem Asks.append {π : Type} {ask : Request → π → Option (Answer × π)} {first middle last : π}
    {front back : List (Request × Answer)} (before : Asks ask first front middle)
    (after : Asks ask middle back last) : Asks ask first (front ++ back) last := by
  induction before with
  | none prompt => exact after
  | more prompt next _ request answer others asked rest ih =>
    exact .more prompt next last request answer _ asked (ih after)

/-- The world has a prompt that only questions change. -/
structure Prompted {σ π : Type} (around : Surroundings σ) (prompt : σ → π)
    (ask : Request → π → Option (Answer × π)) : Prop where
  ask : ∀ request world answer next, around.ask request world = (some answer, next) →
    ask request (prompt world) = some (answer, prompt next)
  write : ∀ content world, prompt (around.write content world).2 = prompt world
  scan : ∀ path world, prompt (around.scan path world).2 = prompt world
  edit : ∀ path world, prompt (around.edit path world).2 = prompt world
  execute : ∀ request path world, prompt (around.execute request path world).2 = prompt world
  remove : ∀ request world, prompt (around.remove request world).2 = prompt world
  hear : ∀ event world, prompt (around.hear event world) = prompt world

def dialogue (steps : List Step) : List (Request × Answer) := steps.filterMap Step.asked?

theorem dialogue_append (front back : List Step) :
    dialogue (front ++ back) = dialogue front ++ dialogue back := List.filterMap_append

theorem noticed_dialogue (notices : List Notice) : dialogue (noticed notices) = [] :=
  List.map_eq_nil_iff.mp (noticed_answers notices)

section Prompted
variable {σ π : Type} {around : Surroundings σ} {prompt : σ → π}
  {ask : Request → π → Option (Answer × π)} (prompted : Prompted around prompt ask)
include prompted

/-- Some questions are put to the prompt; if there is a result, the world then has the state of the
prompt after them. -/
def Consults {σ π α : Type} (prompt : σ → π) (ask : Request → π → Option (Answer × π)) (world : σ)
    (result : Option α × σ × List Step) : Prop :=
  ∃ last, Asks ask (prompt world) (dialogue result.2.2) last ∧
    (result.1.isSome → last = prompt result.2.1)

omit prompted in
private theorem consults_of_silent {α : Type} (world after : σ) (result? : Option α) (steps : List Step)
    (silent : dialogue steps = []) (kept : result?.isSome → prompt after = prompt world) :
    Consults prompt ask world (result?, after, steps) :=
  ⟨prompt world,silent ▸ .none _,fun found => (kept found).symm⟩

theorem Prompted.tell (event : Event) (world : σ) :
    Consults prompt ask world (around.tell event world) :=
  consults_of_silent _ _ _ _ rfl (fun _ => prompted.hear event world)

theorem Prompted.handles (request : String) : Handles around request fun ended world after steps =>
    ∃ last, Asks ask (prompt world) (dialogue steps) last ∧ (ended = true → last = prompt after) where
  nothing world := ⟨_,.none _,fun _ => rfl⟩
  stop world := ⟨_,.none _,fun ended => nomatch ended⟩
  append ended first middle last front back one other := by
    obtain ⟨between,asked,same⟩ := one
    obtain ⟨final,others,kept⟩ := other
    refine ⟨final,?_,kept⟩
    rw [dialogue_append]
    exact asked.append (same rfl ▸ others)
  noticed notice := prompted.tell (.noticed notice)
  judged name verdict := prompted.tell (.scanned name verdict)
  scan path world := ⟨_,.none _,fun _ => (prompted.scan path world).symm⟩
  unanswered about world next silent := ⟨_,.none _,fun ended => nomatch ended⟩
  answered about world next answer asked :=
    ⟨_,.more _ _ _ about answer [] (prompted.ask about world answer next asked) (.none _),fun _ => rfl⟩
  edit path world := ⟨_,.none _,fun _ => (prompted.edit path world).symm⟩
  execute path world := ⟨_,.none _,fun _ => (prompted.execute request path world).symm⟩

theorem Prompted.runTargets (patience : Nat) (request : String) (targets : Targets) (report : Report)
    (world : σ) :
    Consults prompt ask world (around.runTargets patience request targets report world) :=
  (prompted.handles request).runTargets (fun name path => prompted.tell (.targetStart name path))
    (fun name outcome? => prompted.tell (closing name outcome?)) patience targets report world

/-- The questions of a run are put to the prompt one after another. -/
theorem Prompted.run (patience : Nat) (elapsed : σ → Nanoseconds) (spec : Specification) (world : σ) :
    ∃ last, Asks ask (prompt world) (dialogue (around.run patience elapsed spec world).2.2) last := by
  have kept := prompted.write spec.toText world
  rcases wrote : around.write spec.toText world with ⟨_ | ⟨path,reason⟩ | request,written⟩
  · rw [around.run_unplaced patience elapsed spec world written wrote]
    exact ⟨_,.none _⟩
  · rw [around.run_unwritten patience elapsed spec world written path reason wrote]
    exact ⟨_,.none _⟩
  rw [wrote] at kept
  obtain ⟨last,chain,_⟩ := prompted.runTargets patience request spec.targets []
    (around.hear (.runStart spec) written)
  rw [prompted.hear,kept] at chain
  refine ⟨last,?_⟩
  rcases ran : around.run patience elapsed spec world with ⟨result?,final,steps⟩
  -- Outside of the targets nothing is asked.
  cases around.course_of_run patience elapsed spec request written world wrote result? final steps ran with
  | abandoned _ _ gone | uncleaned _ _ _ _ gone _ =>
    rw [gone] at chain
    simpa [dialogue,List.filterMap_cons,Step.asked?] using chain
  | ended _ _ _ _ problem? _ gone _ _ =>
    rw [gone] at chain
    have silent := noticed_dialogue (leftover request problem?)
    simp only [dialogue] at silent
    simpa [dialogue,List.filterMap_cons,Step.asked?,silent] using chain

end Prompted
end Surroundings

/-! ### The console -/

namespace ConsolePrompt

/-- The decisions for which lines of input stand; a line that is no text stands for a cancellation. -/
def decisions (lines : List (Option String)) : List Decision :=
  lines.filterMap fun
    | none => some .cancel
    | some line => Decision.ofAnswer? line

def firstDecisions (lines : List (Option String)) (n : Nat) : List Decision :=
  (decisions lines ++ List.replicate n Decision.cancel).take n

theorem choose_decisions (lines : List (Option String)) :
    decisions lines = (choose lines).2.1 :: decisions (choose lines).2.2 ∨
      decisions lines = [] ∧ (choose lines).2.1 = .cancel ∧ (choose lines).2.2 = [] := by
  induction lines with
  | nil => exact .inr ⟨rfl,rfl,rfl⟩
  | cons line? rest ih =>
    cases line? with
    | none => exact .inl rfl
    | some line =>
      cases recognized : Decision.ofAnswer? line with
      | some decision => exact .inl (by simp [decisions,choose,recognized])
      | none => simpa [decisions,choose,recognized] using ih

/-- Each question takes the next line that stands for a decision. -/
theorem firstDecisions_succ (lines : List (Option String)) (n : Nat) :
    firstDecisions lines (n + 1) = (choose lines).2.1 :: firstDecisions (choose lines).2.2 n := by
  rcases choose_decisions lines with more | ⟨none,cancels,rest⟩
  · simp only [firstDecisions,more,List.cons_append,List.take_succ_cons,List.cons.injEq,true_and]
    simp only [List.take_append,List.take_replicate]
    congr 2
    omega
  · have rest_none : decisions [] = [] := rfl
    simp [firstDecisions,none,cancels,rest,rest_none,List.replicate_succ]

theorem asks_decisions (prompt last : ConsolePrompt) (dialogue : List (Request × Answer))
    (asks : Surroundings.Asks (fun request prompt => some (prompt.ask request)) prompt dialogue last) :
    dialogue.map (·.2.decision) = firstDecisions prompt.lines dialogue.length := by
  induction asks with
  | none prompt => rfl
  | more prompt next last request answer others asked rest ih =>
    simp only [ask,Option.some.injEq,Prod.mk.injEq] at asked
    obtain ⟨rfl,rfl⟩ := asked
    rw [List.length_cons,firstDecisions_succ,List.map_cons,ih]

end ConsolePrompt
end Proctor
