import Proctor.Proofs.Run.Interleaving
import Mathlib

/-! One prompt and one task that has so many replies. The prompt puts its questions one after another; the
task takes one question for each reply, answers or drops it, and goes away. However their steps interleave,
the decisions are the replies in their order, and cancellations after them. -/
namespace Proctor.Channel

/-! ### The script -/

/-- The decision on the question with a number: its reply, or a cancellation if it is dropped or nobody
replies any more. -/
def decisionAt (replies : List (Option Decision)) (number : Nat) : Decision :=
  (replies[number]?.join).getD .cancel

def decisions (replies : List (Option Decision)) (count : Nat) : List (Nat × Decision) :=
  (List.range count).map fun number => (number, decisionAt replies number)

private theorem decisions_succ (replies : List (Option Decision)) (count : Nat) :
    decisions replies (count + 1) = decisions replies count ++ [(count, decisionAt replies count)] := by
  simp [decisions,List.range_succ]

@[simp] theorem decisions_length (replies : List (Option Decision)) (count : Nat) :
    (decisions replies count).length = count := by
  simp [decisions]

/-- What a prompt with requests and a task with replies may do next: the only clone waits for its decision
before it puts the next request, and the task settles a question before it takes another. -/
def Script (replies : List (Option Decision)) (requests : List Request) : Guard
  | _, state, .put clone call | _, state, .refused clone call =>
    clone = 0 ∧ state.waiting = [] ∧ requests[call.number]? = some call.request
  | _, _, .entered _ => True
  | _, state, .received _ => state.held = [] ∧ state.delivered.length < replies.length
  | _, state, .answered _ decision => replies[state.delivered.length - 1]? = some (some decision)
  | _, state, .dropped _ => replies[state.delivered.length - 1]? = some none
  | _, state, .closed _ => state.held = [] ∧ state.delivered.length = replies.length

section Scripted
variable (replies : List (Option Decision)) (requests : List Request) (capacity : Nat)

private theorem script_inTurn (history : List Happening) (state : State) (happening : Happening)
    (may : Script replies requests history state happening) : InTurn history state happening := by
  cases happening with
  | put clone call | refused clone call =>
    obtain ⟨_,quiet,_⟩ := may
    intro other _
    rw [quiet]
    exact List.not_mem_nil
  | _ => trivial

/-- How far the dialogue is: so many questions have returned, and the next one is nowhere, with the prompt, in
the channel or with the task; or the task is gone. -/
inductive Stage : State → Prop
  | idle (count : Nat) (delivered : List Call) (received : delivered.length = count)
      (replied : count ≤ replies.length) (asked : count ≤ requests.length) :
      Stage ⟨capacity, false, [], [], [], delivered, decisions replies count, count⟩
  | sending (count : Nat) (call : Call) (delivered : List Call) (number : call.number = count)
      (received : delivered.length = count) (replied : count ≤ replies.length)
      (asked : count < requests.length) :
      Stage ⟨capacity, false, [call], [], [], delivered, decisions replies count, count + 1⟩
  | sent (count : Nat) (call : Call) (delivered : List Call) (number : call.number = count)
      (received : delivered.length = count) (replied : count ≤ replies.length)
      (asked : count < requests.length) :
      Stage ⟨capacity, false, [], [call], [], delivered, decisions replies count, count + 1⟩
  | held (count : Nat) (call : Call) (delivered : List Call) (number : call.number = count)
      (received : delivered.length = count + 1) (replied : count < replies.length)
      (asked : count < requests.length) :
      Stage ⟨capacity, false, [], [], [call], delivered, decisions replies count, count + 1⟩
  | gone (count : Nat) (delivered : List Call) (replied : replies.length ≤ count)
      (asked : count ≤ requests.length) :
      Stage ⟨capacity, true, [], [], [], delivered, decisions replies count, count⟩

private def stepsLeft (state : State) : Nat :=
  4 * (requests.length - state.next) + 3 * state.blocked.length + 2 * state.queued.length +
    state.held.length + (if state.closed then 0 else 1)

variable {replies requests capacity}

private theorem decisionAt_done (count : Nat) (all : replies.length ≤ count) :
    decisionAt replies count = .cancel := by
  rw [decisionAt,List.getElem?_eq_none all]
  rfl

private theorem decisionAt_some (count : Nat) (reply : Option Decision) (found : replies[count]? = some reply) :
    decisionAt replies count = reply.getD .cancel := by
  rw [decisionAt,found]
  rfl

private theorem split_single {call other : Call} {front back : List Call}
    (split : [call] = front ++ other :: back) :
    front = [] ∧ other = call ∧ back = [] := by
  cases front <;> simp_all

private theorem stage_cancelled (count : Nat) (delivered : List Call) (replied : replies.length ≤ count)
    (asked : count < requests.length) : Stage replies requests capacity
      ⟨capacity, true, [], [], [], delivered, decisions replies count ++ [(count, .cancel)], count + 1⟩ := by
  have gone : Stage replies requests capacity _ :=
    .gone (count + 1) delivered (replied.trans (Nat.le_succ _)) asked
  rwa [decisions_succ,decisionAt_done count replied] at gone

private theorem stage_move (history : List Happening) (state next : State) (happening : Happening)
    (stage : Stage replies requests capacity state) (may : Script replies requests history state happening)
    (moved : Move state happening next) : Stage replies requests capacity next := by
  -- In each stage one side can go on; besides, the task can go away once it has no more replies.
  cases stage with
  | idle count delivered received replied asked =>
    cases moved with
    | put clone request _ =>
      obtain ⟨_,_,isRequest⟩ := may
      have more := (List.getElem?_eq_some_iff.mp isRequest).1
      exact .sending count ⟨count, request⟩ delivered rfl received replied more
    | closed =>
      obtain ⟨_,all⟩ := may
      simpa [cancelled] using Stage.gone count delivered (all ▸ received).le asked
    | _ => simp_all
  | sending count call delivered number received replied asked =>
    cases moved with
    | put => simp [Script,State.waiting] at may
    | entered front back other isBlocked =>
      obtain ⟨rfl,rfl,rfl⟩ := split_single isBlocked
      exact .sent count other delivered number received replied asked
    | closed =>
      obtain ⟨_,all⟩ := may
      simpa [cancelled,number] using stage_cancelled count delivered (all ▸ received).le asked
    | _ => simp_all
  | sent count call delivered number received replied asked =>
    cases moved with
    | put => simp [Script,State.waiting] at may
    | received other others first =>
      cases first
      exact .held count call (delivered ++ [call]) number (by simp [received]) (received ▸ may.2) asked
    | closed =>
      obtain ⟨_,all⟩ := may
      simpa [cancelled,number] using stage_cancelled count delivered (all ▸ received).le asked
    | _ => simp_all
  | held count call delivered number received replied asked =>
    have idle : Stage replies requests capacity _ := .idle (count + 1) delivered received replied asked
    rw [decisions_succ] at idle
    cases moved with
    | put => simp [Script,State.waiting] at may
    | received | closed => simp [Script] at may
    | answered front back other decision isHeld =>
      obtain ⟨rfl,rfl,rfl⟩ := split_single isHeld
      simp only [Script,received,Nat.add_sub_cancel] at may
      rw [decisionAt_some count _ may] at idle
      rw [number]
      exact idle
    | dropped front back other isHeld =>
      obtain ⟨rfl,rfl,rfl⟩ := split_single isHeld
      simp only [Script,received,Nat.add_sub_cancel] at may
      rw [decisionAt_some count _ may] at idle
      rw [number]
      exact idle
    | _ => simp_all
  | gone count delivered replied asked =>
    cases moved with
    | refused clone request _ =>
      obtain ⟨_,_,isRequest⟩ := may
      have more := (List.getElem?_eq_some_iff.mp isRequest).1
      exact stage_cancelled count delivered replied more
    | _ => simp_all

private theorem move_stepsLeft (history : List Happening) (state next : State) (happening : Happening)
    (may : Script replies requests history state happening) (moved : Move state happening next) :
    stepsLeft requests next < stepsLeft requests state := by
  -- A question is put, enters, is received and returns: each step brings it nearer to its end by one.
  unfold stepsLeft
  cases moved with
  | put clone request isOpen =>
    have more := (List.getElem?_eq_some_iff.mp may.2.2).1
    simp only [List.length_append,List.length_singleton]
    dsimp only at more
    omega
  | refused clone request isClosed =>
    have more := (List.getElem?_eq_some_iff.mp may.2.2).1
    dsimp only at more ⊢
    omega
  | entered front back call isBlocked =>
    simp only [isBlocked,List.length_append,List.length_cons,List.length_nil]
    omega
  | received call others first =>
    simp only [first,List.length_append,List.length_cons,List.length_nil]
    omega
  | answered front back call _ isHeld | dropped front back call isHeld =>
    simp only [isHeld,List.length_append,List.length_cons]
    omega
  | closed isOpen =>
    simp only [isOpen,List.length_nil]
    simp
    omega

private theorem stage_progress (history : List Happening) (state : State) (room : 0 < capacity)
    (stage : Stage replies requests capacity state) (unfinished : state.returned.length < requests.length) :
    ∃ happening next, Script replies requests history state happening ∧ Move state happening next := by
  cases stage with
  | idle count delivered received replied asked =>
    rw [decisions_length] at unfinished
    exact ⟨.put 0 ⟨count, requests[count]⟩,_,⟨rfl,rfl,List.getElem?_eq_getElem unfinished⟩,
      .put _ 0 requests[count] rfl⟩
  | sending count call delivered number received replied asked =>
    exact ⟨.entered call,_,trivial,.entered _ [] [] call rfl room⟩
  | sent count call delivered number received replied asked =>
    rcases Nat.lt_or_eq_of_le replied with more | done
    · exact ⟨.received call,_,⟨rfl,received ▸ more⟩,.received _ call [] rfl⟩
    · exact ⟨.closed [call],_,⟨rfl,received.trans done⟩,.closed _ rfl⟩
  | held count call delivered number received replied asked =>
    have found := List.getElem?_eq_getElem replied
    have last : delivered.length - 1 = count := by rw [received,Nat.add_sub_cancel]
    cases reply : replies[count] with
    | some decision =>
      rw [reply,← last] at found
      exact ⟨.answered call decision,_,found,.answered _ [] [] call decision rfl⟩
    | none =>
      rw [reply,← last] at found
      exact ⟨.dropped call,_,found,.dropped _ [] [] call rfl⟩
  | gone count delivered replied asked =>
    rw [decisions_length] at unfinished
    exact ⟨.refused 0 ⟨count, requests[count]⟩,_,⟨rfl,rfl,List.getElem?_eq_getElem unfinished⟩,
      .refused _ 0 requests[count] rfl⟩

private theorem stage_returned (state : State) (stage : Stage replies requests capacity state) :
    state.returned = decisions replies state.returned.length ∧ state.returned.length ≤ requests.length := by
  cases stage with
  | idle count _ _ _ asked | gone count _ _ asked =>
    simp only [decisions_length,true_and]
    exact asked
  | sending count _ _ _ _ _ asked | sent count _ _ _ _ _ asked | held count _ _ _ _ _ asked =>
    simp only [decisions_length,true_and]
    exact asked.le

private theorem runs_stage (buffer : Nat) (history : List Happening) (state : State)
    (runs : Runs (Script replies requests) (State.new buffer) history state) :
    Stage replies requests (max buffer 1) state ∧
      history.length + stepsLeft requests state ≤ 4 * requests.length + 1 := by
  induction runs with
  | start => exact ⟨.idle 0 [] rfl (Nat.zero_le _) (Nat.zero_le _),by simp [stepsLeft,State.new]⟩
  | step history happening state next _ may moved ih =>
    refine ⟨stage_move history state next happening ih.1 may moved,?_⟩
    have fewer := move_stepsLeft history state next happening may moved
    rw [List.length_append,List.length_singleton]
    omega

end Scripted

/-! ### The dialogue in turns -/

private theorem run_cons (state : State) (action : Action) (actions : List Action) :
    state.run (action :: actions) = (state.step action).run actions := rfl

private theorem run_append (state : State) (first others : List Action) :
    state.run (first ++ others) = (state.run first).run others := List.foldl_append

private theorem run_puts_closed (requests : List Request) (state : State) (isClosed : state.closed = true) :
    (state.run (requests.map .put)).returned =
      state.returned ++ (List.range requests.length).map fun number => (state.next + number, .cancel) := by
  induction requests generalizing state with
  | nil => simp [State.run]
  | cons request requests ih =>
    have refused : state.step (.put request) = { state with
        next := state.next + 1, returned := state.returned ++ [(state.next, .cancel)] } := by
      simp [State.step,isClosed,cancelled]
    rw [List.map_cons,run_cons,refused,ih _ (by exact isClosed)]
    simp [List.range_succ_eq_map,Function.comp_def,Nat.add_assoc,Nat.add_comm 1]

/-- A question that is put, received and settled at once. -/
theorem run_turn (capacity number : Nat) (delivered : List Call) (returned : List (Nat × Decision))
    (room : 0 < capacity) (request : Request) (first : Option Decision) :
    (State.mk capacity false [] [] [] delivered returned number).run
        [.put request, .receive, reply number first] =
      ⟨capacity, false, [], [], [], delivered ++ [⟨number, request⟩],
        returned ++ [(number, first.getD .cancel)], number + 1⟩ := by
  have fits : [(⟨number, request⟩ : Call)].take capacity = [⟨number, request⟩] :=
    List.take_of_length_le room
  have none : [(⟨number, request⟩ : Call)].drop capacity = [] := List.drop_of_length_le room
  cases first <;> simp [State.run,State.step,State.refill,State.settle,reply,fits,none]

private theorem run_dialogue (capacity : Nat) (room : 0 < capacity) (replies : List (Option Decision))
    (requests : List Request) (number : Nat) (delivered : List Call) (returned : List (Nat × Decision)) :
    ((State.mk capacity false [] [] [] delivered returned number).run
        (dialogue number replies requests)).returned =
      returned ++ (List.range requests.length).map fun later =>
        (number + later, decisionAt replies later) := by
  induction replies generalizing requests number delivered returned with
  | nil =>
    have closed := run_puts_closed requests
      ((State.mk capacity false [] [] [] delivered returned number).step .close) rfl
    simpa [State.step,cancelled,decisionAt,dialogue,State.run] using closed
  | cons first replies ih =>
    cases requests with
    | nil => simp [dialogue,State.run,State.step,cancelled]
    | cons request requests =>
      rw [dialogue,run_append,run_turn capacity number delivered returned room request first,ih]
      simp [List.range_succ_eq_map,Function.comp_def,decisionAt,Nat.add_assoc,Nat.add_comm 1]

/-! ### Agreement -/

/-- In every run of the clones of a prompt and another task, a question returns once: with the decision
that answers this very question, or with a cancellation; no question is received twice. Actions that are done
one after another reach a state of such a run, and whoever asks there gets the decision on its own question as
soon as it is settled, and waits for ever only if it never is. If there is one prompt, and a task that has so many replies and then goes away, every run comes to an end in
which the decisions are the replies in their order and cancellations after them, and so do the actions that
take turns. -/
theorem channel_agrees (buffer : Nat) :
    (∀ history state, Runs InTurn (State.new buffer) history state →
      Agreement buffer history state ∧ OneEach history state) ∧
    (∀ actions, Reached buffer ((State.new buffer).run actions)) ∧
    (∀ state request actions,
      let put := state.step (.put request)
      ((ask request (state, actions)).isSome ↔
        ∃ used, used <+: actions ∧ ((put.run used).decision? state.next).isSome) ∧
      ∀ answer after left, ask request (state, actions) = some (answer, after, left) ↔
        answer.shown = "" ∧ ∃ used, actions = used ++ left ∧ after = put.run used ∧
          Settles state.next answer.decision put used) ∧
    (∀ state request actions answer after left, Reached buffer state →
      ask request (state, actions) = some (answer, after, left) →
      Reached buffer after ∧ after.decision? state.next = some answer.decision) ∧
    ∀ replies requests,
      (∀ history state, Runs (Script replies requests) (State.new buffer) history state →
        Runs InTurn (State.new buffer) history state ∧
        state.returned = decisions replies state.returned.length ∧
        history.length ≤ 4 * requests.length + 1 ∧
        ((∀ happening next, Script replies requests history state happening →
          ¬ Move state happening next) → state.returned = decisions replies requests.length)) ∧
      ((State.new buffer).run (dialogue 0 replies requests)).returned =
        decisions replies requests.length := by
  have room : 0 < max buffer 1 := Nat.lt_of_lt_of_le Nat.one_pos (Nat.le_max_right _ _)
  refine ⟨fun history state runs => ?_,(reached_new buffer).run,?_,?_,fun replies requests => ⟨?_,?_⟩⟩
  · exact ⟨runs_agreement buffer history state runs,runs_oneEach buffer history state runs⟩
  · exact fun state request actions => ⟨ask_isSome request state actions,
      fun answer after left => ask_iff request state after actions left answer⟩
  · exact fun state request actions answer after left reached asks =>
      reached.ask request actions left answer after asks
  · intro history state runs
    obtain ⟨stage,bounded⟩ := runs_stage buffer history state runs
    obtain ⟨inOrder,most⟩ := stage_returned state stage
    refine ⟨runs.mono (script_inTurn replies requests),inOrder,by omega,fun final => ?_⟩
    rw [inOrder]
    -- Where nothing can happen any more all questions have returned, since else there is a next step.
    refine congrArg _ (Nat.le_antisymm most (Nat.le_of_not_lt fun unfinished => ?_))
    obtain ⟨happening,next,may,moved⟩ := stage_progress history state room stage unfinished
    exact final happening next may moved
  · simpa [decisions,State.new] using run_dialogue (max buffer 1) room replies requests 0 [] []

/-- Of two questions the later one enters first and is skipped, the other is left in the channel. In a
dialogue with one reply, the second of two questions is cancelled. -/
theorem overtaking_question_answered :
    let request : Request := ⟨"a.py", "/tmp/a.py", "eval"⟩
    let early : Call := ⟨0, request⟩
    let late : Call := ⟨1, request⟩
    (∃ state, Runs InTurn (State.new 0) [.put 0 early, .put 1 late, .entered late, .received late,
        .entered early, .answered late .skip, .closed [early]] state ∧
      state.decision? 0 = some .cancel ∧ state.decision? 1 = some .skip) ∧
    ∃ final, Runs (Script [some .skip] [request, request]) (State.new 0) [.put 0 early, .entered early,
        .received early, .answered early .skip, .closed [], .refused 0 late] final ∧
      final.returned = [(0, .skip), (1, .cancel)] := by
  intro request early late
  obtain ⟨general,-,-,-,scripted⟩ := channel_agrees 0
  constructor
  · have started : Runs InTurn (State.new 0) [] (State.new 0) := .start
    have firstPut := started.step _ (.put 0 early) _ _ (by simp [InTurn]) (.put _ 0 request rfl)
    have bothPut := firstPut.step _ (.put 1 late) _ _ (by simp [InTurn]) (.put _ 1 request rfl)
    have entered := bothPut.step _ (.entered late) _ _ trivial (.entered _ [early] [] late rfl Nat.one_pos)
    have received := entered.step _ (.received late) _ _ trivial (.received _ late [] rfl)
    have waiting := received.step _ (.entered early) _ _ trivial
      (.entered _ [] [] early rfl Nat.one_pos)
    have answered := waiting.step _ (.answered late .skip) _ _ trivial (.answered _ [] [] late .skip rfl)
    have closed : Runs _ _ _ ⟨1, true, [], [], [], [late], [(1, .skip), (0, .cancel)], 2⟩ :=
      answered.step _ (.closed [early]) _ _ trivial (.closed _ rfl)
    obtain ⟨agreement,-⟩ := general _ _ closed
    exact ⟨_,closed,agreement.cancels early (.inr (.inr ⟨[early],by simp,by simp⟩)),
      (agreement.reached late .skip (by simp)).2⟩
  · have started : Runs (Script [some .skip] [request, request]) (State.new 0) [] (State.new 0) := .start
    have put := started.step _ (.put 0 early) _ _ ⟨rfl,rfl,rfl⟩ (.put _ 0 request rfl)
    have entered := put.step _ (.entered early) _ _ trivial (.entered _ [] [] early rfl Nat.one_pos)
    have received := entered.step _ (.received early) _ _ ⟨rfl,Nat.one_pos⟩ (.received _ early [] rfl)
    have answered := received.step _ (.answered early .skip) _ _ rfl (.answered _ [] [] early .skip rfl)
    have closed := answered.step _ (.closed []) _ _ ⟨rfl,rfl⟩ (.closed _ rfl)
    have refused : Runs _ _ _ ⟨1, true, [], [], [], [early], [(0, .skip), (1, .cancel)], 2⟩ :=
      closed.step _ (.refused 0 late) _ _ ⟨rfl,rfl,rfl⟩ (.refused _ 0 request rfl)
    obtain ⟨-,decided,-⟩ := (scripted _ _).1 _ _ refused
    exact ⟨_,refused,decided⟩

end Proctor.Channel
