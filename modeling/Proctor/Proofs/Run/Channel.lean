import Proctor.Proofs.Run.Prompts
import Proctor.Run.Channel

/-! Questions in a channel keep their numbers, and a question returns with more than a cancellation
only if the other task held that very question and answered it so. -/
namespace Proctor.Channel

def State.waiting (state : State) : List Call := state.blocked ++ state.queued ++ state.held

structure Numbered (state : State) : Prop where
  waiting : ∀ call ∈ state.waiting, call.number < state.next
  returned : ∀ entry ∈ state.returned, entry.1 < state.next

private theorem refill_waiting (state : State) (call : Call) :
    call ∈ state.refill.waiting ↔ call ∈ state.waiting := by
  have split := List.take_append_drop (state.capacity - state.queued.length) state.blocked
  have parts : call ∈ state.blocked ↔
      call ∈ state.blocked.take (state.capacity - state.queued.length) ∨
        call ∈ state.blocked.drop (state.capacity - state.queued.length) := by
    rw [← List.mem_append,split]
  simp only [State.waiting,State.refill,List.mem_append,parts]
  grind

private theorem settle_waiting (state : State) (number : Nat) (decision : Decision) (call : Call)
    (member : call ∈ (state.settle number decision).waiting) : call ∈ state.waiting := by
  unfold State.settle at member
  split at member
  · simp only [State.waiting,List.mem_append,List.mem_filter] at member ⊢
    grind
  · exact member

private theorem step_waiting (state : State) (action : Action) (call : Call)
    (member : call ∈ (state.step action).waiting) :
    call ∈ state.waiting ∨ ∃ request, action = .put request ∧ call = ⟨state.next, request⟩ := by
  cases action with
  | put request =>
    simp only [State.step] at member
    split at member
    · exact .inl member
    · rw [refill_waiting] at member
      simp only [State.waiting,List.mem_append,List.mem_singleton] at member ⊢
      grind
  | receive =>
    simp only [State.step] at member
    split at member
    · exact .inl member
    · next call queued isNext =>
      rw [refill_waiting] at member
      simp only [State.waiting,isNext,List.mem_append,List.mem_cons] at member ⊢
      grind
  | answer number decision => exact .inl (settle_waiting state number decision call member)
  | drop number => exact .inl (settle_waiting state number .cancel call member)
  | close =>
    simp only [State.step,State.waiting,List.mem_append,List.not_mem_nil] at member ⊢
    grind

private theorem step_next (state : State) (action : Action) : state.next ≤ (state.step action).next := by
  cases action with
  | put request =>
    simp only [State.step]
    split <;> simp [State.refill]
  | receive =>
    simp only [State.step]
    split <;> simp [State.refill]
  | answer number decision =>
    simp only [State.step,State.settle]
    split <;> simp
  | drop number =>
    simp only [State.step,State.settle]
    split <;> simp
  | close => simp [State.step]

/-- What an action adds to the questions that have returned: the cancellation of a question that is
put into a closed channel, the answer to a held question, or the cancellation of those that wait. -/
theorem step_returned (state : State) (action : Action) :
    ∃ more, (state.step action).returned = state.returned ++ more ∧ ∀ entry ∈ more,
      (∃ request, action = .put request ∧ entry = (state.next, .cancel)) ∨
      (∃ call ∈ state.waiting, entry = (call.number, .cancel)) ∨
      (∃ call ∈ state.held, action = .answer call.number entry.2 ∧ entry.1 = call.number) := by
  -- To answer a question and to drop it settles it, which is possible only while it is held.
  have settles (number : Nat) (decision : Decision) :
      ∃ more, (state.settle number decision).returned = state.returned ++ more ∧
        ∀ entry ∈ more, entry = (number, decision) ∧ ∃ call ∈ state.held, call.number = number := by
    unfold State.settle
    split
    · next held =>
      refine ⟨[(number, decision)],rfl,?_⟩
      intro entry member
      exact ⟨List.mem_singleton.mp member,by simpa using held⟩
    · exact ⟨[],by simp,by simp⟩
  cases action with
  | put request =>
    simp only [State.step]
    split
    · exact ⟨[(state.next, .cancel)],rfl,by simp⟩
    · exact ⟨[],by simp [State.refill],by simp⟩
  | receive =>
    simp only [State.step]
    split
    · exact ⟨[],by simp,by simp⟩
    · exact ⟨[],by simp [State.refill],by simp⟩
  | answer number decision =>
    obtain ⟨more,same,entries⟩ := settles number decision
    refine ⟨more,same,fun entry member => .inr (.inr ?_)⟩
    obtain ⟨rfl,call,held,rfl⟩ := entries entry member
    exact ⟨call,held,rfl,rfl⟩
  | drop number =>
    obtain ⟨more,same,entries⟩ := settles number .cancel
    refine ⟨more,same,fun entry member => .inr (.inl ?_)⟩
    obtain ⟨rfl,call,held,rfl⟩ := entries entry member
    exact ⟨call,by simp [State.waiting,held],rfl⟩
  | close =>
    refine ⟨cancelled (state.queued ++ state.blocked),rfl,fun entry member => .inr (.inl ?_)⟩
    simp only [cancelled,List.mem_map,List.mem_append] at member
    obtain ⟨call,inside,rfl⟩ := member
    exact ⟨call,by simp only [State.waiting,List.mem_append]; grind,rfl⟩

private theorem step_numbered (state : State) (action : Action) (numbered : Numbered state) :
    Numbered (state.step action) := by
  have grows := step_next state action
  -- A question that is put takes a number.
  have put (request : Request) (isPut : action = .put request) :
      state.next < (state.step action).next := by
    subst isPut
    simp only [State.step]
    split <;> simp [State.refill]
  constructor
  · intro call member
    rcases step_waiting state action call member with before | ⟨request,isPut,rfl⟩
    · exact Nat.lt_of_lt_of_le (numbered.waiting call before) grows
    · exact put request isPut
  · intro entry member
    obtain ⟨more,same,entries⟩ := step_returned state action
    rw [same] at member
    rcases List.mem_append.mp member with before | new
    · exact Nat.lt_of_lt_of_le (numbered.returned entry before) grows
    · rcases entries entry new with ⟨request,isPut,rfl⟩ | ⟨call,waits,rfl⟩ | ⟨call,held,_,same⟩
      · exact put request isPut
      · exact Nat.lt_of_lt_of_le (numbered.waiting call waits) grows
      · rw [same]
        exact Nat.lt_of_lt_of_le (numbered.waiting call (by simp [State.waiting,held])) grows

private theorem run_numbered (state : State) (actions : List Action) (numbered : Numbered state) :
    Numbered (state.run actions) := by
  induction actions generalizing state with
  | nil => exact numbered
  | cons action actions ih => exact ih _ (step_numbered state action numbered)

private theorem new_numbered (buffer : Nat) : Numbered (State.new buffer) :=
  ⟨by simp [State.waiting,State.new],by simp [State.new]⟩

/-! ### One question -/

/-- A number that was given out belongs to one request. -/
structure Belongs (number : Nat) (request : Request) (state : State) : Prop where
  given : number < state.next
  unique : ∀ call ∈ state.waiting, call.number = number → call.request = request

private theorem step_belongs (number : Nat) (request : Request) (state : State) (action : Action)
    (belongs : Belongs number request state) : Belongs number request (state.step action) := by
  refine ⟨Nat.lt_of_lt_of_le belongs.given (step_next state action),?_⟩
  intro call member same
  rcases step_waiting state action call member with before | ⟨_,_,rfl⟩
  · exact belongs.unique call before same
  · exact absurd same (Nat.ne_of_gt belongs.given)

private theorem put_belongs (state : State) (request : Request) (numbered : Numbered state) :
    Belongs state.next request (state.step (.put request)) := by
  constructor
  · simp only [State.step]
    split <;> simp [State.refill]
  · intro call member same
    rcases step_waiting state (.put request) call member with before | ⟨other,isPut,rfl⟩
    · exact absurd same (Nat.ne_of_lt (numbered.waiting call before))
    · cases isPut
      rfl

private theorem decision_append (state after : State) (more : List (Nat × Decision)) (number : Nat)
    (same : after.returned = state.returned ++ more) (open_ : state.decision? number = none)
    (decision : Decision) (found : after.decision? number = some decision) :
    (number, decision) ∈ more := by
  simp only [State.decision?,Option.map_eq_none_iff,Option.map_eq_some_iff] at open_ found
  obtain ⟨entry,found,rfl⟩ := found
  rw [same,List.find?_append,open_,Option.none_or] at found
  have named : entry.1 = number := by simpa using List.find?_some found
  subst named
  exact List.mem_of_find?_eq_some found

/-- An action that makes a question return with more than a cancellation is the answer to it. -/
theorem step_answers (number : Nat) (request : Request) (state : State) (action : Action)
    (belongs : Belongs number request state) (open_ : state.decision? number = none)
    (decision : Decision) (found : (state.step action).decision? number = some decision)
    (more : decision ≠ .cancel) :
    action = .answer number decision ∧ ⟨number, request⟩ ∈ state.held := by
  obtain ⟨added,same,entries⟩ := step_returned state action
  have member := decision_append state _ added number same open_ decision found
  rcases entries _ member with ⟨_,_,isCancel⟩ | ⟨_,_,isCancel⟩ | ⟨call,held,answers,named⟩
  · exact absurd (Prod.mk.inj isCancel).2 more
  · exact absurd (Prod.mk.inj isCancel).2 more
  · have own := belongs.unique call (by simp [State.waiting,held]) named.symm
    obtain ⟨_,_⟩ := call
    cases own
    cases named
    exact ⟨answers,held⟩

/-- After the actions a question has a decision, and after no fewer of them it has one. -/
structure Settles (number : Nat) (decision : Decision) (state : State) (used : List Action) : Prop where
  decided : (state.run used).decision? number = some decision
  first : ∀ front, front <+: used → front ≠ used → (state.run front).decision? number = none

private theorem settles_nil (number : Nat) (decision : Decision) (state : State) :
    Settles number decision state [] ↔ state.decision? number = some decision :=
  ⟨Settles.decided,fun known => ⟨known,fun _ within other => absurd (List.prefix_nil.mp within) other⟩⟩

private theorem settles_cons (number : Nat) (decision : Decision) (state : State) (action : Action)
    (used : List Action) :
    Settles number decision state (action :: used) ↔
      state.decision? number = none ∧ Settles number decision (state.step action) used := by
  constructor
  · intro settles
    refine ⟨settles.first [] (List.nil_prefix) (by simp),settles.decided,fun front within other => ?_⟩
    exact settles.first (action :: front) (List.cons_prefix_cons.mpr ⟨rfl,within⟩) (by simp [other])
  · rintro ⟨open_,rest⟩
    refine ⟨rest.decided,fun front within other => ?_⟩
    cases front with
    | nil => exact open_
    | cons first front =>
      obtain ⟨rfl,inside⟩ := List.cons_prefix_cons.mp within
      exact rest.first front inside (by simpa using other)

private theorem await_known {number : Nat} {state : State} {decision : Decision} (actions : List Action)
    (known : state.decision? number = some decision) :
    await number actions state = some (decision, state, actions) := by
  cases actions <;> simp [await,known]

private theorem await_next {number : Nat} {state : State} (action : Action) (actions : List Action)
    (open_ : state.decision? number = none) :
    await number (action :: actions) state = await number actions (state.step action) := by
  simp [await,open_]

/-- A question returns where the first of the actions settle it. -/
theorem await_iff (number : Nat) (actions : List Action) (state after : State) (decision : Decision)
    (left : List Action) :
    await number actions state = some (decision, after, left) ↔
      ∃ used, actions = used ++ left ∧ after = state.run used ∧ Settles number decision state used := by
  constructor
  · intro returns
    induction actions generalizing state with
    | nil =>
      simp only [await,Option.map_eq_some_iff,Prod.mk.injEq] at returns
      obtain ⟨found,known,rfl,rfl,rfl⟩ := returns
      exact ⟨[],rfl,rfl,(settles_nil ..).mpr known⟩
    | cons action actions ih =>
      cases known : state.decision? number with
      | some found =>
        rw [await_known _ known] at returns
        cases returns
        exact ⟨[],rfl,rfl,(settles_nil ..).mpr known⟩
      | none =>
        rw [await_next action actions known] at returns
        obtain ⟨used,rfl,rfl,settles⟩ := ih _ returns
        exact ⟨action :: used,rfl,rfl,(settles_cons ..).mpr ⟨known,settles⟩⟩
  · rintro ⟨used,rfl,rfl,settles⟩
    induction used generalizing state with
    | nil => exact await_known left ((settles_nil ..).mp settles)
    | cons action used ih =>
      obtain ⟨open_,rest⟩ := (settles_cons ..).mp settles
      rw [List.cons_append,await_next action _ open_]
      exact ih _ rest

/-- If the first of the actions give a question a decision, some of them settle it. -/
theorem settles_exists (number : Nat) (state : State) (actions : List Action)
    (known : ((state.run actions).decision? number).isSome) :
    ∃ used decision, used <+: actions ∧ Settles number decision state used := by
  induction actions generalizing state with
  | nil =>
    obtain ⟨decision,found⟩ := Option.isSome_iff_exists.mp known
    exact ⟨[],decision,List.nil_prefix,(settles_nil ..).mpr found⟩
  | cons action actions ih =>
    cases now : state.decision? number with
    | some decision => exact ⟨[],decision,List.nil_prefix,(settles_nil ..).mpr now⟩
    | none =>
      obtain ⟨used,decision,within,settles⟩ := ih (state.step action) known
      exact ⟨action :: used,decision,List.cons_prefix_cons.mpr ⟨rfl,within⟩,(settles_cons ..).mpr ⟨now,settles⟩⟩

/-- Asking puts the question and returns with the decision that settles it, as soon as it is settled. -/
theorem ask_iff (request : Request) (state after : State) (actions left : List Action) (answer : Answer) :
    ask request (state, actions) = some (answer, after, left) ↔
      answer.shown = "" ∧ ∃ used, actions = used ++ left ∧ after = (state.step (.put request)).run used ∧
        Settles state.next answer.decision (state.step (.put request)) used := by
  simp only [ask,Option.map_eq_some_iff,Prod.exists,Prod.mk.injEq]
  constructor
  · rintro ⟨decision,_,_,returns,rfl,rfl,rfl⟩
    exact ⟨rfl,(await_iff ..).mp returns⟩
  · rintro ⟨shown,settled⟩
    exact ⟨answer.decision,after,left,(await_iff ..).mpr settled,by rw [← shown],rfl,rfl⟩

theorem ask_isSome (request : Request) (state : State) (actions : List Action) :
    (ask request (state, actions)).isSome ↔
      ∃ used, used <+: actions ∧ (((state.step (.put request)).run used).decision? state.next).isSome := by
  constructor
  · intro returns
    obtain ⟨⟨answer,after,left⟩,asked⟩ := Option.isSome_iff_exists.mp returns
    obtain ⟨_,used,rfl,_,settles⟩ := (ask_iff ..).mp asked
    exact ⟨used,List.prefix_append used left,by rw [settles.decided]; rfl⟩
  · rintro ⟨used,⟨others,rfl⟩,known⟩
    obtain ⟨front,decision,⟨rest,rfl⟩,settles⟩ := settles_exists _ _ _ known
    have asked := (ask_iff request state _ (front ++ rest ++ others) (rest ++ others) ⟨decision, ""⟩).mpr
      ⟨rfl,front,by simp,rfl,settles⟩
    rw [asked]
    rfl

private theorem await_answered (number : Nat) (request : Request) (actions : List Action) :
    ∀ (state after : State) (decision : Decision) (left : List Action),
      Belongs number request state → (∀ found, state.decision? number = some found → found = .cancel) →
      await number actions state = some (decision, after, left) → decision ≠ .cancel →
      ∃ before, actions = before ++ .answer number decision :: left ∧
        ⟨number, request⟩ ∈ (state.run before).held := by
  induction actions with
  | nil =>
    intro state after decision left belongs cancels returns more
    simp only [await,Option.map_eq_some_iff,Prod.mk.injEq] at returns
    obtain ⟨found,known,rfl,_⟩ := returns
    exact absurd (cancels found known) more
  | cons action actions ih =>
    intro state after decision left belongs cancels returns more
    cases known : state.decision? number with
    | some found =>
      simp only [await,known,Option.some.injEq,Prod.mk.injEq] at returns
      exact absurd (returns.1 ▸ cancels found known) more
    | none =>
      simp only [await,known] at returns
      cases next : (state.step action).decision? number with
      | none =>
        obtain ⟨before,rfl,held⟩ := ih (state.step action) after decision left
          (step_belongs number request state action belongs) (by simp [next]) returns more
        exact ⟨action :: before,rfl,held⟩
      | some found =>
        rw [await_known actions next] at returns
        cases returns
        obtain ⟨rfl,held⟩ := step_answers number request state action belongs known decision next more
        exact ⟨[],rfl,held⟩

/-- A decision on a request comes from the other task: in a channel with some history the request is
put, the task does some of the actions, holds the very question, and answers it. -/
def Given (buffer : Nat) (history actions : List Action) (request : Request) (decision : Decision) :
    Prop :=
  let state := (State.new buffer).run history
  ∃ before left, actions = before ++ .answer state.next decision :: left ∧
    ⟨state.next, request⟩ ∈ ((state.step (.put request)).run before).held

private theorem ask_given (buffer : Nat) (history actions left : List Action) (request : Request)
    (answer : Answer) (after : State)
    (asked : ask request ((State.new buffer).run history, actions) = some (answer, after, left))
    (more : answer.decision ≠ .cancel) : Given buffer history actions request answer.decision := by
  have numbered := run_numbered _ history (new_numbered buffer)
  unfold Given
  generalize (State.new buffer).run history = state at asked numbered ⊢
  simp only [ask,Option.map_eq_some_iff,Prod.exists,Prod.mk.injEq] at asked
  obtain ⟨decision,_,_,returns,rfl,rfl,rfl⟩ := asked
  have cancels : ∀ found, (state.step (.put request)).decision? state.next = some found →
      found = .cancel := by
    intro found known
    obtain ⟨added,same,entries⟩ := step_returned state (.put request)
    have fresh : state.decision? state.next = none := by
      simp only [State.decision?,Option.map_eq_none_iff,List.find?_eq_none]
      intro entry member named
      exact absurd (by simpa using named) (Nat.ne_of_lt (numbered.returned entry member))
    rcases entries _ (decision_append state _ added state.next same fresh found known) with
      ⟨_,_,isCancel⟩ | ⟨_,_,isCancel⟩ | ⟨_,_,isAnswer,_⟩
    · exact (Prod.mk.inj isCancel).2
    · exact (Prod.mk.inj isCancel).2
    · cases isAnswer
  obtain ⟨before,split,held⟩ := await_answered state.next request actions
    (state.step (.put request)) _ decision _ (put_belongs state request numbered) cancels returns more
  exact ⟨before,_,split,held⟩

/-- Every question that is put through a channel, one after another, gets its own answer. -/
theorem asks_given (buffer : Nat) (prompt last : State × List Action)
    (dialogue : List (Request × Answer)) (asks : Surroundings.Asks ask prompt dialogue last) :
    ∀ history, prompt.1 = (State.new buffer).run history → ∀ entry ∈ dialogue,
      entry.2.decision ≠ .cancel → ∃ more used actions, prompt.2 = used ++ actions ∧
        Given buffer (history ++ more) actions entry.1 entry.2.decision := by
  induction asks with
  | none prompt => simp
  | more prompt next last request answer others asked rest ih =>
    intro history reached entry member more
    obtain ⟨state,actions⟩ := prompt
    obtain ⟨after,left⟩ := next
    cases reached
    rcases List.mem_cons.mp member with rfl | inside
    · refine ⟨[],[],actions,rfl,?_⟩
      rw [List.append_nil]
      exact ask_given buffer history actions left request answer after asked more
    · obtain ⟨_,used,rfl,rfl,_⟩ := (ask_iff ..).mp asked
      have later := ih (history ++ .put request :: used) (by simp [State.run]) entry inside more
      obtain ⟨after,front,actions,split,given⟩ := later
      refine ⟨.put request :: used ++ after,used ++ front,actions,?_,?_⟩
      · simp only [List.append_assoc]
        exact congrArg _ split
      · simpa using given

end Proctor.Channel
