import Proctor.Proofs.Run.Channel

/-! A flagged script is executed only after an answer that says so. -/
namespace Proctor.Surroundings

variable {σ : Type} (around : Surroundings σ)

private theorem console_decisions (prompt : σ → ConsolePrompt)
    (prompted : Prompted around prompt fun request prompt => some (prompt.ask request))
    (patience : Nat) (elapsed : σ → Nanoseconds) (spec : Specification) (world : σ) :
    let asked := dialogue (around.run patience elapsed spec world).2.2
    asked.map (·.2.decision) = ConsolePrompt.firstDecisions (prompt world).lines asked.length := by
  obtain ⟨last,asks⟩ := prompted.run patience elapsed spec world
  exact ConsolePrompt.asks_decisions (prompt world) last _ asks

private theorem channel_decisions (prompt : σ → Channel.State × List Channel.Action)
    (prompted : Prompted around prompt Channel.ask) (buffer : Nat)
    (history : List Channel.Action) (patience : Nat) (elapsed : σ → Nanoseconds)
    (spec : Specification) (world : σ)
    (reached : (prompt world).1 = (Channel.State.new buffer).run history) :
    ∀ entry ∈ dialogue (around.run patience elapsed spec world).2.2, entry.2.decision ≠ .cancel →
      ∃ more used actions, (prompt world).2 = used ++ actions ∧
        Channel.Given buffer (history ++ more) actions entry.1 entry.2.decision := by
  obtain ⟨last,asks⟩ := prompted.run patience elapsed spec world
  exact Channel.asks_given buffer (prompt world) last _ asks history reached

/-- In every run, also one that is abandoned, the targets that are reached are a prefix of all, and
the calls are those of one target after another: a scan, questions if it is suspicious, and an
execution if it is clean, could not be scanned, or the first decision that ends the questions is to
run it anyway. These are the calls that a trace of the world has. A console decides by the lines of its input that stand for decisions and then cancels
for ever; through a channel every other decision is the answer of the task that held the question. -/
theorem executed_iff_allowed (patience : Nat) (elapsed : σ → Nanoseconds) (spec : Specification)
    (world : σ) :
    let ran := around.run patience elapsed spec world
    let asked := dialogue ran.2.2
    (∀ trace, Traced around trace → trace ran.2.1 = trace world ++ ran.2.2) ∧
    (∀ written, around.write spec.toText world = (none, written) → ran.2.2 = []) ∧
    (∀ problem written, around.write spec.toText world = (some (.error problem), written) →
      ran.2.2 = []) ∧
    (∀ request written, around.write spec.toText world = (some (.ok request), written) →
      let visited := around.visits patience request spec.targets
        (around.hear (.runStart spec) written)
      (visited.map fun visit => (visit.name, visit.path)) <+: spec.targets ∧
      (ran.1.isSome → (visited.map fun visit => (visit.name, visit.path)) = spec.targets) ∧
      ran.2.2.filter Step.isCall = visited.flatMap fun visit =>
        calls request visit.name visit.path (visit.verdict? around)
          (visit.answers around patience request)) ∧
    (∀ prompt : σ → ConsolePrompt,
      Prompted around prompt (fun request prompt => some (prompt.ask request)) →
      asked.map (·.2.decision) =
        ConsolePrompt.firstDecisions (prompt world).lines asked.length) ∧
    (∀ (prompt : σ → Channel.State × List Channel.Action) (buffer : Nat)
      (history : List Channel.Action), Prompted around prompt Channel.ask →
      (prompt world).1 = (Channel.State.new buffer).run history →
      ∀ entry ∈ asked, entry.2.decision ≠ .cancel →
        ∃ more used actions, (prompt world).2 = used ++ actions ∧
          Channel.Given buffer (history ++ more) actions entry.1 entry.2.decision) := by
  intro ran asked
  refine ⟨fun trace traced => traced.run patience elapsed spec world,?_,?_,?_,?_,?_⟩
  · intro written silent
    simp only [ran,around.run_unplaced patience elapsed spec world written silent]
  · intro problem written failed
    simp only [ran,around.run_unwritten patience elapsed spec world written problem.1 problem.2 failed]
  · intro request written wrote visited
    obtain ⟨front,all⟩ := around.run_visits patience elapsed spec world written request wrote
    exact ⟨front,all,around.run_calls patience elapsed spec world written request wrote⟩
  · intro prompt prompted
    exact around.console_decisions prompt prompted patience elapsed spec world
  · intro prompt buffer history prompted reached
    exact around.channel_decisions prompt prompted buffer history patience elapsed spec world reached

/-- Of two flagged scripts the first is run for a line that says so, and the end of the input cancels
the second. -/
theorem console_runs_one_target :
    let around : Surroundings (ConsolePrompt × List Step) := tracing
      { write := fun _ prompt => (some (.ok "request.json"), prompt)
        scan := fun _ prompt => (some (.suspicious "eval", []), prompt)
        ask := fun request prompt => (some (prompt.ask request).1, (prompt.ask request).2)
        edit := fun _ prompt => (none, prompt)
        execute := fun _ _ prompt => (some (.error (.read "gone"), []), prompt)
        remove := fun _ prompt => (some none, prompt) }
    let ran := around.run 1 (fun _ => 0) ⟨"f", [], [("a", "a.py"), ("b", "b.py")]⟩
      (⟨[some "maybe", some "run-anyway"]⟩, [])
    (dialogue ran.2.2).map (·.2.decision) = [.runAnyway, .cancel] ∧ ran.2.1.2 = ran.2.2 ∧
      ran.2.1.2.filterMap (fun | .executed _ path => some path | _ => none) = ["a.py"] := by
  intro around ran
  have prompted : Prompted around Prod.fst fun request prompt => some (prompt.ask request) := by
    constructor
    · rintro request ⟨prompt,trace⟩ answer next ⟨⟩
      rfl
    all_goals intros; rfl
  obtain ⟨traced,_,_,_,console,_⟩ := around.executed_iff_allowed 1 (fun _ => 0)
    ⟨"f", [], [("a", "a.py"), ("b", "b.py")]⟩ (⟨[some "maybe", some "run-anyway"]⟩, [])
  exact ⟨console Prod.fst prompted,traced Prod.snd (traced_tracing _),rfl⟩

end Proctor.Surroundings
