import Proctor.Run.Prompt

/-! Questions that travel through a bounded channel to another task, which answers them, drops
them, or closes the channel. -/
namespace Proctor.Channel

structure Call where
  number : Nat
  request : Request
deriving DecidableEq, Repr

structure State where
  capacity : Nat
  closed : Bool
  /-- Questions that found the channel full, in order. -/
  blocked : List Call
  queued : List Call
  /-- Questions that the other task holds. -/
  held : List Call
  delivered : List Call
  /-- The decision of each question that has returned. -/
  returned : List (Nat × Decision)
  next : Nat
deriving DecidableEq, Repr

def State.new (buffer : Nat) : State := ⟨max buffer 1, false, [], [], [], [], [], 0⟩

inductive Action where
  | put (request : Request)
  /-- The other task takes the first question out of the channel. -/
  | receive
  | answer (number : Nat) (decision : Decision)
  | drop (number : Nat)
  | close
deriving DecidableEq, Repr

def cancelled (calls : List Call) : List (Nat × Decision) := calls.map (·.number, .cancel)

def State.settle (state : State) (number : Nat) (decision : Decision) : State :=
  if state.held.any (·.number == number) then
    { state with
      held := state.held.filter (·.number != number)
      returned := state.returned ++ [(number, decision)] }
  else state

def State.refill (state : State) : State :=
  let room := state.capacity - state.queued.length
  { state with
    queued := state.queued ++ state.blocked.take room
    blocked := state.blocked.drop room }

def State.step (state : State) : Action → State
  | .put request =>
    let call : Call := ⟨state.next, request⟩
    let state := { state with next := state.next + 1 }
    if state.closed then { state with returned := state.returned ++ cancelled [call] }
    else { state with blocked := state.blocked ++ [call] }.refill
  | .receive =>
    match state.queued with
    | [] => state
    | call :: queued =>
      { state with
        queued
        held := state.held ++ [call]
        delivered := state.delivered ++ [call] }.refill
  | .answer number decision => state.settle number decision
  | .drop number => state.settle number .cancel
  | .close =>
    { state with
      closed := true
      queued := []
      blocked := []
      returned := state.returned ++ cancelled (state.queued ++ state.blocked) }

def State.run (state : State) (actions : List Action) : State := actions.foldl State.step state

def State.decision? (state : State) (number : Nat) : Option Decision :=
  (state.returned.find? (·.1 == number)).map (·.2)

/-- Lets the other tasks act until a question has returned: its decision, the state and the actions
that are left. Nothing, if it never returns. -/
def await (number : Nat) : List Action → State → Option (Decision × State × List Action)
  | [], state => (state.decision? number).map (·, state, [])
  | action :: others, state =>
    match state.decision? number with
    | some decision => some (decision, state, action :: others)
    | none => await number others (state.step action)

def ask (request : Request) (prompt : State × List Action) :
    Option (Answer × State × List Action) :=
  (await prompt.1.next prompt.2 (prompt.1.step (.put request))).map fun (decision, prompt) =>
    (⟨decision, ""⟩, prompt)

def reply (number : Nat) : Option Decision → Action
  | some decision => .answer number decision
  | none => .drop number

/-- The actions of one prompt that puts its questions one after another, and of a task that takes
one question for each reply and then closes the channel. -/
def dialogue : Nat → List (Option Decision) → List Request → List Action
  | _, [], requests => .close :: requests.map .put
  | _, _, [] => [.close]
  | number, first :: replies, request :: requests =>
    [.put request, .receive, reply number first] ++ dialogue (number + 1) replies requests

end Proctor.Channel
