import Proctor.Proofs.Run.Gate
import Proctor.Proofs.Text.Utf8

/-! How a console reads its input. A question reads lines until one stands for a decision, and refuses those
before it; the next question goes on after it. Since the input is finite, so are the questions of a gate. -/
namespace Proctor

namespace ConsolePrompt
open Surroundings (Asks)
open Text (Cut listed dropFinal)

/-! ### Lines of a text -/

/-- The lines of a text as they are read: without the ends of lines, and with a last line that none ends. -/
def inputLines (complete : List (List Char)) (last : List Char) : List String :=
  (listed (complete.map (dropFinal '\r')) last).map String.ofList

private theorem ofBytes_encode (text last : List Char) (complete : List (List Char))
    (cut : Cut '\n' text complete last) :
    ofBytes (Text.Utf8.encode text) = ⟨(inputLines complete last).map some⟩ := by
  have none_left : Text.Utf8.encode last = [] ↔ last = [] := Text.Utf8.encode_nil_iff last
  rw [ofBytes,(Text.Utf8.cut_encode cut).segments]
  simp only [List.map_append,List.map_map,inputLines,listed,none_left]
  congr 2
  · apply List.map_congr_left
    intro line _
    simp [Text.Utf8.dropFinal_encode,Text.Utf8.decode?_encode]
  · split <;> simp [Text.Utf8.decode?_encode]

/-! ### One question -/

def refusing (refused : List String) (later : String) : String :=
  refused.foldr (fun line shown => menu ++ Decision.unrecognized line ++ "\n" ++ shown) later

def Unclear (lines : List String) : Prop := ∀ line ∈ lines, Decision.ofAnswer? line = none

private theorem choose_unclear (refused : List String) (unclear : Unclear refused)
    (lines : List (Option String)) :
    choose (refused.map some ++ lines) =
      (refusing refused (choose lines).1, (choose lines).2) := by
  induction refused with
  | nil => rfl
  | cons line refused ih =>
    obtain ⟨first,others⟩ := List.forall_mem_cons.mp unclear
    simp only [List.map_cons,List.cons_append,choose,first,ih others]
    rfl

private theorem clear_exists (lines : List String) :
    Unclear lines ∨ ∃ refused line others decision, lines = refused ++ line :: others ∧
      Unclear refused ∧ Decision.ofAnswer? line = some decision := by
  induction lines with
  | nil => exact .inl (List.forall_mem_nil _)
  | cons line lines ih =>
    cases recognized : Decision.ofAnswer? line with
    | some decision => exact .inr ⟨[],line,lines,decision,rfl,List.forall_mem_nil _,recognized⟩
    | none =>
      rcases ih with unclear | ⟨refused,next,others,decision,rfl,unclear,clear⟩
      · exact .inl (List.forall_mem_cons.mpr ⟨recognized,unclear⟩)
      · exact .inr ⟨line :: refused,next,others,decision,rfl,
          List.forall_mem_cons.mpr ⟨recognized,unclear⟩,clear⟩

/-! ### One question after another -/

/-- The lines that questions read, and those that are left. An answer is the first line that stands for a
decision; the lines before it are refused. Without such a line the question reads what there is, and is
cancelled. -/
inductive Reads : List String → List (Request × Answer) → List String → Prop
  | nothing (lines : List String) : Reads lines [] lines
  | answered (request : Request) (decision : Decision) (refused : List String) (line : String)
      (others left : List String) (later : List (Request × Answer)) (unclear : Unclear refused)
      (clear : Decision.ofAnswer? line = some decision) (rest : Reads others later left) :
      Reads (refused ++ line :: others)
        ((request, ⟨decision, heading request ++ refusing refused menu⟩) :: later) left
  | ended (request : Request) (refused left : List String) (later : List (Request × Answer))
      (unclear : Unclear refused) (rest : Reads [] later left) :
      Reads refused
        ((request, ⟨.cancel, heading request ++ refusing refused (menu ++ "\n")⟩) :: later) left

private theorem asks_reads (prompt last : ConsolePrompt) (dialogue : List (Request × Answer))
    (asks : Asks (fun request prompt => some (prompt.ask request)) prompt dialogue last)
    (lines : List String) (input : prompt = ⟨lines.map some⟩) :
    ∃ left, last = ⟨left.map some⟩ ∧ Reads lines dialogue left := by
  induction asks generalizing lines with
  | none prompt => exact ⟨lines,input,.nothing lines⟩
  | more prompt next last request answer others asked _ ih =>
    subst input
    simp only [ask,Option.some.injEq,Prod.mk.injEq] at asked
    obtain ⟨rfl,rfl⟩ := asked
    -- The next question finds the lines after the one that was chosen, or none.
    rcases clear_exists lines with unclear | ⟨refused,line,rest,decision,rfl,unclear,clear⟩
    · have chosen := choose_unclear lines unclear []
      rw [List.append_nil] at chosen
      rw [chosen] at ih ⊢
      obtain ⟨left,same,reads⟩ := ih [] rfl
      exact ⟨left,same,.ended request lines left others unclear reads⟩
    · have chosen := choose_unclear refused unclear (some line :: rest.map some)
      simp only [choose,clear] at chosen
      rw [List.map_append,List.map_cons,chosen] at ih ⊢
      obtain ⟨left,same,reads⟩ := ih rest rfl
      exact ⟨left,same,.answered request decision refused line rest left others unclear clear reads⟩

private theorem asks_exists (requests : List Request) (prompt : ConsolePrompt) :
    ∃ dialogue last, dialogue.map (·.1) = requests ∧
      Asks (fun request prompt => some (prompt.ask request)) prompt dialogue last := by
  induction requests generalizing prompt with
  | nil => exact ⟨[],prompt,rfl,.none prompt⟩
  | cons request requests ih =>
    obtain ⟨later,last,same,asks⟩ := ih (prompt.ask request).2
    exact ⟨(request, (prompt.ask request).1) :: later,last,by simp [same],
      .more prompt _ last request _ later rfl asks⟩

private theorem decisions_input (lines : List String) :
    decisions (lines.map some) = lines.filterMap Decision.ofAnswer? := by
  rw [decisions,List.filterMap_map]
  rfl

/-! ### The gate at a console -/

private theorem script_console :
    Surroundings.Script fun prompt answers =>
      ∃ console : ConsolePrompt, prompt = .console console ∧ decisions console.lines = answers := by
  rintro _ _ request ⟨console,rfl,rfl⟩
  rcases choose_decisions console.lines with more | ⟨none,cancels,left⟩
  · rw [more]
    exact ⟨rfl,_,rfl,rfl⟩
  · rw [none]
    exact ⟨cancels,_,rfl,by simp [left,decisions]⟩

private theorem asks_console (console : ConsolePrompt) (dialogue : List (Request × Answer)) (last : Prompt)
    (asks : Asks (fun request prompt => some (Prompt.ask prompt request)) (.console console) dialogue last) :
    ∃ inner, last = .console inner ∧
      Asks (fun request prompt => some (ConsolePrompt.ask prompt request)) console dialogue inner := by
  generalize same : Prompt.console console = prompt at asks
  induction asks generalizing console with
  | none prompt => exact ⟨console,same.symm,.none console⟩
  | more prompt next last request answer others asked _ ih =>
    subst same
    cases asked
    obtain ⟨inner,isInner,asks⟩ := ih _ rfl
    exact ⟨inner,isInner,.more console _ inner request _ others rfl asks⟩

end ConsolePrompt

namespace Surroundings
open ConsolePrompt (Reads inputLines decisions)
open Text (Cut)

/-- A gate at a console comes to an end: it puts at most one question more than lines of the input stand
for decisions. -/
theorem Attended.resolve_console {σ : Type} {around : Surroundings σ} {prompt : σ → Prompt}
    (attended : Attended around prompt) (world : σ) (console : ConsolePrompt)
    (here : prompt world = .console console) (verdict : Verdict) (name path : String) (patience : Nat)
    (enough : (decisions console.lines).length < patience) :
    ∃ passage after steps rest,
      around.resolve patience verdict name path world = (some passage, after, steps) ∧
      prompt after = .console rest ∧
      Asks (fun request prompt => some (prompt.ask request)) console (dialogue steps) rest ∧
      (dialogue steps).length ≤ (decisions console.lines).length + 1 := by
  have asks (passage : Passage) (after : σ) (steps : List Step)
      (resolved : around.resolve patience verdict name path world = (some passage, after, steps)) :
      ∃ rest, prompt after = .console rest ∧
        Asks (fun request prompt => some (prompt.ask request)) console (dialogue steps) rest := by
    have consults := (attended.toPrompted.handles "").resolve patience verdict name path world
    rw [resolved,here] at consults
    obtain ⟨_,asks,same⟩ := consults
    rw [← same rfl]
    exact ConsolePrompt.asks_console console _ _ asks
  have ends : ∃ passage after steps,
      around.resolve patience verdict name path world = (some passage, after, steps) ∧
      (dialogue steps).length ≤ (decisions console.lines).length + 1 := by
    cases verdict with
    | clean | scanFailed _ => exact ⟨_,_,_,rfl,Nat.zero_le _⟩
    | suspicious reasons =>
      obtain ⟨_,_,after,_,_,_,resolves⟩ := attended.decides_script ConsolePrompt.script_console
        ⟨name, path, reasons⟩ _ world ⟨console,here,rfl⟩
      obtain ⟨passage,steps,resolved,few⟩ := resolves patience enough
      exact ⟨passage,after,steps,resolved,few⟩
  obtain ⟨passage,after,steps,resolved,few⟩ := ends
  obtain ⟨rest,left,put⟩ := asks passage after steps resolved
  exact ⟨passage,after,steps,rest,resolved,left,put,few⟩

/-- Of a text, a console decides by the lines that stand for a decision, in order, and then cancels for ever:
each question reads the lines up to the first of these, and shows the menu once more, with a reply, for every
line before it. A gate at a console with any input comes to a decision, after at most one question more than
lines of the input stand for decisions. -/
theorem console_reads_lines_once :
    (∀ text, ∃ complete last, Cut '\n' text complete last ∧
      let prompt := ConsolePrompt.ofBytes (Text.Utf8.encode text)
      let lines := inputLines complete last
      (∀ requests, ∃ dialogue rest, dialogue.map (·.1) = requests ∧
        Asks (fun request prompt => some (ConsolePrompt.ask prompt request)) prompt dialogue rest) ∧
      ∀ dialogue rest,
        Asks (fun request prompt => some (ConsolePrompt.ask prompt request)) prompt dialogue rest →
        dialogue.map (·.2.decision) = (lines.filterMap Decision.ofAnswer? ++
          List.replicate dialogue.length Decision.cancel).take dialogue.length ∧
        ∃ left, rest = ⟨left.map some⟩ ∧ Reads lines dialogue left) ∧
    ∀ (σ : Type) (around : Surroundings σ) (prompt : σ → Prompt), Attended around prompt →
      ∀ world console, prompt world = .console console →
      ∀ verdict name path patience, (decisions console.lines).length < patience →
        ∃ passage after steps rest,
          around.resolve patience verdict name path world = (some passage, after, steps) ∧
          prompt after = .console rest ∧
          Asks (fun request prompt => some (prompt.ask request)) console (dialogue steps) rest ∧
          (dialogue steps).length ≤ (decisions console.lines).length + 1 := by
  refine ⟨fun text => ?_,fun σ around prompt attended => attended.resolve_console⟩
  obtain ⟨complete,last,cut⟩ := Text.cut_exists '\n' text
  refine ⟨complete,last,cut,?_⟩
  intro prompt lines
  have input : prompt = ⟨lines.map some⟩ := ConsolePrompt.ofBytes_encode text last complete cut
  refine ⟨fun requests => ConsolePrompt.asks_exists requests prompt,fun dialogue rest asks => ⟨?_,?_⟩⟩
  · rw [ConsolePrompt.asks_decisions prompt rest dialogue asks,ConsolePrompt.firstDecisions,input,
      ConsolePrompt.decisions_input]
  · exact ConsolePrompt.asks_reads prompt rest dialogue asks lines input

/-- A line that stands for nothing, one that opens the target, and a last line without an end. -/
theorem opened_target_asked_again :
    let text := "maybe\r\nOPEN\n\n s ".toList
    let console := ConsolePrompt.ofBytes (Text.Utf8.encode text)
    let around : Surroundings Prompt :=
      { write := fun _ prompt => (some (.ok "request.json"), prompt)
        scan := fun _ prompt => (none, prompt)
        ask := fun request prompt => (some (prompt.ask request).1, (prompt.ask request).2)
        edit := fun _ prompt => (none, prompt)
        execute := fun _ _ prompt => (none, prompt)
        remove := fun _ prompt => (some none, prompt) }
    Attended around id ∧ ∃ after steps lines left,
      around.resolve 3 (.suspicious "eval") "a.py" "/tmp/a.py" (.console console) =
        (some .skipped, after, steps) ∧
      Reads lines (dialogue steps) left ∧ (dialogue steps).length ≤ 3 := by
  intro text console around
  have attended : Attended around id := by
    refine ⟨⟨?_,?_,?_,?_,?_,?_,?_⟩,fun _ _ => rfl⟩
    · rintro request world answer next ⟨⟩
      rfl
    all_goals intros; rfl
  have two : decisions console.lines = [.openAndReask, .skip] := by decide +kernel
  obtain ⟨texts,gates⟩ := console_reads_lines_once
  obtain ⟨passage,after,steps,rest,resolved,_,asks,few⟩ := gates Prompt around id attended
    (.console console) console rfl (.suspicious "eval") "a.py" "/tmp/a.py" 3 (by simp [two])
  have skipped : (around.resolve 3 (.suspicious "eval") "a.py" "/tmp/a.py" (.console console)).1 =
      some .skipped := by decide +kernel
  rw [resolved] at skipped
  cases skipped
  obtain ⟨_,_,_,_,reads⟩ := texts text
  obtain ⟨_,left,_,read⟩ := reads _ rest asks
  exact ⟨attended,after,steps,_,left,resolved,read,by simpa [two] using few⟩

end Surroundings
end Proctor
