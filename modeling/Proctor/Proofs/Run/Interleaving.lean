import Proctor.Proofs.Run.Channel
import Proctor.Proofs.OrderedMap
import Mathlib

/-! A channel as a system of steps that interleave: clones of a prompt put questions, which enter the channel
as there is room, and another task receives, answers and drops them, or closes the channel. In every run a
question returns once, with the decision that answers this very question or with a cancellation. Running
actions one after another is one of the runs. -/
namespace Proctor.Channel

/-! ### Steps -/

inductive Happening where
  | put (clone : Nat) (call : Call)
  /-- A clone puts a question into a closed channel. -/
  | refused (clone : Nat) (call : Call)
  | entered (call : Call)
  | received (call : Call)
  | answered (call : Call) (decision : Decision)
  | dropped (call : Call)
  /-- The other task goes away; these questions have not been received. -/
  | closed (left : List Call)

/-- One step. Questions that wait for room enter in any order; those that the other task holds are answered
or dropped in any order, also after it has closed the channel. A question returns when its reply is sent or
can no longer be sent. -/
inductive Move : State → Happening → State → Prop
  | put (state : State) (clone : Nat) (request : Request) (isOpen : state.closed = false) :
      Move state (.put clone ⟨state.next, request⟩)
        { state with next := state.next + 1, blocked := state.blocked ++ [⟨state.next, request⟩] }
  | refused (state : State) (clone : Nat) (request : Request) (isClosed : state.closed = true) :
      Move state (.refused clone ⟨state.next, request⟩)
        { state with next := state.next + 1, returned := state.returned ++ [(state.next, .cancel)] }
  | entered (state : State) (front back : List Call) (call : Call)
      (isBlocked : state.blocked = front ++ call :: back) (room : state.queued.length < state.capacity) :
      Move state (.entered call) { state with blocked := front ++ back, queued := state.queued ++ [call] }
  | received (state : State) (call : Call) (others : List Call) (first : state.queued = call :: others) :
      Move state (.received call)
        { state with
          queued := others
          held := state.held ++ [call]
          delivered := state.delivered ++ [call] }
  | answered (state : State) (front back : List Call) (call : Call) (decision : Decision)
      (isHeld : state.held = front ++ call :: back) :
      Move state (.answered call decision)
        { state with
          held := front ++ back
          returned := state.returned ++ [(call.number, decision)] }
  | dropped (state : State) (front back : List Call) (call : Call)
      (isHeld : state.held = front ++ call :: back) :
      Move state (.dropped call)
        { state with
          held := front ++ back
          returned := state.returned ++ [(call.number, .cancel)] }
  | closed (state : State) (isOpen : state.closed = false) :
      Move state (.closed (state.queued ++ state.blocked))
        { state with
          closed := true
          queued := []
          blocked := []
          returned := state.returned ++ cancelled (state.queued ++ state.blocked) }

abbrev Guard := List Happening → State → Happening → Prop

/-- The runs of steps that are allowed, with their histories. -/
inductive Runs (allowed : Guard) (first : State) : List Happening → State → Prop
  | start : Runs allowed first [] first
  | step (history : List Happening) (happening : Happening) (state next : State)
      (before : Runs allowed first history state) (may : allowed history state happening)
      (moved : Move state happening next) : Runs allowed first (history ++ [happening]) next

theorem Runs.mono {allowed wider : Guard} {first : State}
    (wide : ∀ history state happening, allowed history state happening →
      wider history state happening) {history : List Happening} {state : State}
    (runs : Runs allowed first history state) : Runs wider first history state := by
  induction runs with
  | start => exact .start
  | step history happening state next _ may moved ih =>
    exact .step history happening state next ih (wide _ _ _ may) moved

/-! ### Histories -/

namespace Happening

def asks : Happening → List Call
  | .put _ call => [call]
  | .refused _ call => [call]
  | _ => []

def enters : Happening → List Call
  | .entered call => [call]
  | _ => []

def receives : Happening → List Call
  | .received call => [call]
  | _ => []

def ends : Happening → List Call
  | .refused _ call => [call]
  | .answered call _ => [call]
  | .dropped call => [call]
  | .closed left => left
  | _ => []

def returns : Happening → List (Nat × Decision)
  | .answered call decision => [(call.number, decision)]
  | happening => cancelled happening.ends

private theorem returns_numbers (happening : Happening) :
    happening.returns.map (·.1) = happening.ends.map (·.number) := by
  cases happening <;> simp [returns,ends,cancelled]

end Happening

section Histories
variable (history : List Happening) (happening : Happening)

def asked : List Call := history.flatMap Happening.asks
def entered : List Call := history.flatMap Happening.enters
def received : List Call := history.flatMap Happening.receives
def ended : List Call := history.flatMap Happening.ends
def returned : List (Nat × Decision) := history.flatMap Happening.returns

@[simp] theorem asked_snoc : asked (history ++ [happening]) = asked history ++ happening.asks := by
  simp [asked]

@[simp] theorem entered_snoc : entered (history ++ [happening]) = entered history ++ happening.enters := by
  simp [entered]

@[simp] theorem received_snoc :
    received (history ++ [happening]) = received history ++ happening.receives := by
  simp [received]

@[simp] theorem ended_snoc : ended (history ++ [happening]) = ended history ++ happening.ends := by
  simp [ended]

@[simp] theorem returned_snoc :
    returned (history ++ [happening]) = returned history ++ happening.returns := by
  simp [returned]

private theorem returned_numbers : (returned history).map (·.1) = (ended history).map (·.number) := by
  simp only [returned,ended,List.map_flatMap,Happening.returns_numbers]

end Histories

/-! ### What one step does -/

section Steps
variable {state next : State} {happening : Happening} (moved : Move state happening next)
include moved

private theorem move_capacity : next.capacity = state.capacity := by
  cases moved <;> rfl

private theorem move_delivered : next.delivered = state.delivered ++ happening.receives := by
  cases moved <;> simp [Happening.receives]

private theorem move_returned : next.returned = state.returned ++ happening.returns := by
  cases moved <;> simp [Happening.returns,Happening.ends,cancelled]

private theorem move_next : List.range next.next = List.range state.next ++ happening.asks.map (·.number) := by
  cases moved <;> simp [Happening.asks,List.range_succ]

/-- What is put waits, until it returns. -/
theorem move_waiting (call : Call) : next.waiting.count call + happening.ends.count call =
    state.waiting.count call + happening.asks.count call := by
  unfold State.waiting
  -- A step takes a question from one place to another, so that it is counted as often as before.
  cases moved with
  | refused => rfl
  | put | closed =>
    simp only [Happening.ends,Happening.asks,List.count_append,List.count_nil]
    omega
  | entered front back _ isBlocked =>
    simp only [Happening.ends,Happening.asks,isBlocked,List.count_append,List.count_cons,List.count_nil]
    omega
  | received _ others first =>
    simp only [Happening.ends,Happening.asks,first,List.count_append,List.count_cons,List.count_nil]
    omega
  | answered front back _ _ isHeld | dropped front back _ isHeld =>
    simp only [Happening.ends,Happening.asks,isHeld,List.count_append,List.count_cons,List.count_nil]
    omega

/-- What is put is on its way to the other task, until it is received or lost. -/
theorem move_channel (call : Call) :
    (next.blocked ++ next.queued).count call + happening.receives.count call ≤
      (state.blocked ++ state.queued).count call + happening.asks.count call := by
  cases moved with
  | put | refused | closed | answered | dropped =>
    simp only [Happening.receives,Happening.asks,List.count_append,List.count_nil]
    omega
  | entered front back _ isBlocked =>
    simp only [Happening.receives,Happening.asks,isBlocked,List.count_append,List.count_cons,List.count_nil]
    omega
  | received _ others first =>
    simp only [Happening.receives,Happening.asks,first,List.count_append,List.count_cons,List.count_nil]
    omega

private theorem move_held (call : Call) (inside : call ∈ next.held) :
    call ∈ state.held ∨ call ∈ happening.receives := by
  cases moved with
  | received => exact List.mem_append.mp inside
  | answered front back _ _ isHeld | dropped front back _ isHeld =>
    rw [isHeld]
    exact .inl (List.mem_append.mpr ((List.mem_append.mp inside).imp_right (List.mem_cons_of_mem _)))
  | _ => exact .inl inside

private theorem answered_held (call : Call) (decision : Decision)
    (answers : happening = .answered call decision) :
    call ∈ state.held := by
  cases moved <;> cases answers
  next front back isHeld => simp [isHeld]

private theorem move_closed (empty : state.closed = true → state.queued = [] ∧ state.blocked = [])
    (isClosed : next.closed = true) : next.queued = [] ∧ next.blocked = [] := by
  cases moved with
  | put _ _ isOpen => simp [isOpen] at isClosed
  | entered front back call isBlocked => simp [isBlocked] at empty; simp [empty] at isClosed
  | received call others first => simp [first] at empty; simp [empty] at isClosed
  | closed => exact ⟨rfl,rfl⟩
  | _ => exact empty isClosed

/-- First in, first out: what has entered is received in its order, and lost only by closing. -/
theorem move_in_order (empty : state.closed = true → state.queued = [] ∧ state.blocked = [])
    (before after lost : List Call) (inOrder : before = after ++ state.queued ++ lost)
    (kept : state.closed = false → lost = []) :
    ∃ lost, before ++ happening.enters = after ++ happening.receives ++ next.queued ++ lost ∧
      (next.closed = false → lost = []) := by
  subst inOrder
  cases moved with
  | entered front back call isBlocked =>
    have isOpen : state.closed = false := by simpa [isBlocked] using empty
    exact ⟨[],by simp [kept isOpen,Happening.enters,Happening.receives],fun _ => rfl⟩
  | received call others first =>
    exact ⟨lost,by simp [first,Happening.enters,Happening.receives],kept⟩
  | closed => exact ⟨state.queued ++ lost,by simp [Happening.enters,Happening.receives],by simp⟩
  | _ => exact ⟨lost,by simp [Happening.enters,Happening.receives],kept⟩

private theorem move_room (room : state.queued.length ≤ state.capacity) :
    next.queued.length ≤ next.capacity := by
  cases moved with
  | entered front back call isBlocked room =>
    rw [List.length_append]
    exact room
  | received call others first =>
    rw [first] at room
    exact (Nat.le_succ _).trans room
  | closed => exact Nat.zero_le _
  | _ => exact room

end Steps

/-! ### What every run keeps -/

/-- The questions of a history are all accounted for: each one that was put waits or has returned, and is in
one place only. -/
structure Balanced (history : List Happening) (state : State) : Prop where
  numbered : (asked history).map (·.number) = List.range state.next
  balance (call : Call) :
    state.waiting.count call + (ended history).count call = (asked history).count call
  /-- A question that has been received is in the channel no more. -/
  moved (call : Call) :
    (state.blocked ++ state.queued).count call + (received history).count call ≤ (asked history).count call
  held : ∀ call ∈ state.held, call ∈ received history
  answered : ∀ call decision, .answered call decision ∈ history → call ∈ received history
  delivered : state.delivered = received history
  returned : state.returned = Channel.returned history
  /-- First in, first out; what is in the channel when it is closed is lost. -/
  inOrder : ∃ lost, entered history = received history ++ state.queued ++ lost ∧
    (state.closed = false → lost = [])
  closed : state.closed = true → state.queued = [] ∧ state.blocked = []
  room : state.queued.length ≤ state.capacity

private theorem balanced_new (buffer : Nat) : Balanced [] (State.new buffer) where
  numbered := rfl
  balance call := rfl
  moved call := by simp [received,asked,State.new]
  held := by simp [State.new]
  answered := by simp
  delivered := rfl
  returned := rfl
  inOrder := ⟨[],rfl,fun _ => rfl⟩
  closed := by simp [State.new]
  room := by simp [State.new]

private theorem balanced_move (history : List Happening) (state next : State) (happening : Happening)
    (moved : Move state happening next) (balanced : Balanced history state) :
    Balanced (history ++ [happening]) next where
  numbered := by rw [asked_snoc,List.map_append,balanced.numbered,move_next moved]
  balance call := by
    have before := balanced.balance call
    have step := move_waiting moved call
    simp only [asked_snoc,ended_snoc,List.count_append]
    omega
  moved call := by
    have before := balanced.moved call
    have step := move_channel moved call
    simp only [asked_snoc,received_snoc,List.count_append] at *
    omega
  held call inside := by
    rw [received_snoc,List.mem_append]
    exact (move_held moved call inside).imp_left (balanced.held call)
  answered call decision inside := by
    rw [received_snoc,List.mem_append]
    rcases List.mem_append.mp inside with before | now
    · exact .inl (balanced.answered call decision before)
    · exact .inl (balanced.held call (answered_held moved call decision (List.mem_singleton.mp now).symm))
  delivered := by rw [move_delivered moved,balanced.delivered,received_snoc]
  returned := by rw [move_returned moved,balanced.returned,returned_snoc]
  inOrder := by
    obtain ⟨lost,inOrder,kept⟩ := balanced.inOrder
    rw [entered_snoc,received_snoc]
    exact move_in_order moved balanced.closed _ _ lost inOrder kept
  closed := move_closed moved balanced.closed
  room := move_room moved balanced.room

private theorem runs_balanced {allowed : Guard} (buffer : Nat) (history : List Happening) (state : State)
    (runs : Runs allowed (State.new buffer) history state) : Balanced history state := by
  induction runs with
  | start => exact balanced_new buffer
  | step history happening state next _ _ moved ih => exact balanced_move _ _ _ _ moved ih

/-! ### Decisions -/

private theorem decision_eq_get? (state : State) (number : Nat) :
    state.decision? number = OrderedMap.get? number state.returned := by
  unfold State.decision?
  induction state.returned with
  | nil => rfl
  | cons entry entries ih =>
    by_cases same : entry.1 = number <;> simp [OrderedMap.get?,same,ih]

namespace Balanced
variable {history : List Happening} {state : State} (balanced : Balanced history state)
include balanced

private theorem asked_numbers : ((asked history).map (·.number)).Nodup := by
  rw [balanced.numbered]
  exact List.nodup_range

theorem once : (state.waiting ++ ended history).Perm (asked history) := by
  rw [List.perm_iff_count]
  intro call
  rw [List.count_append,balanced.balance call]

private theorem number_lt (call : Call) (isAsked : call ∈ asked history) : call.number < state.next := by
  have given : call.number ∈ (asked history).map (·.number) := List.mem_map_of_mem isAsked
  rwa [balanced.numbered,List.mem_range] at given

private theorem same_of_number (call other : Call) (isAsked : call ∈ asked history)
    (otherAsked : other ∈ asked history) (same : call.number = other.number) : call = other :=
  List.inj_on_of_nodup_map balanced.asked_numbers isAsked otherAsked same

private theorem ended_asked (call : Call) (isOver : call ∈ ended history) : call ∈ asked history :=
  balanced.once.subset (List.mem_append_right _ isOver)

private theorem all_numbers : ((state.waiting ++ ended history).map (·.number)).Nodup :=
  (balanced.once.map _).nodup_iff.mpr balanced.asked_numbers

private theorem returned_iff (call : Call) (isAsked : call ∈ asked history) :
    (state.decision? call.number).isSome ↔ call ∉ state.waiting := by
  have numbers := balanced.all_numbers
  rw [List.map_append,List.nodup_append] at numbers
  rw [decision_eq_get?,Option.isSome_iff_ne_none,ne_eq,OrderedMap.get?_eq_none,not_not,OrderedMap.keys,
    balanced.returned,returned_numbers]
  constructor
  · intro isOver waits
    exact numbers.2.2 _ (List.mem_map_of_mem waits) _ isOver rfl
  · intro notWaiting
    have split := balanced.once.mem_iff.mpr isAsked
    exact List.mem_map_of_mem ((List.mem_append.mp split).resolve_left notWaiting)

private theorem held_numbers : (state.held.map (·.number)).Nodup := by
  have all := balanced.all_numbers
  rw [State.waiting,List.map_append,List.map_append] at all
  exact all.of_append_left.of_append_right

private theorem returned_nodup : (state.returned.map (·.1)).Nodup := by
  rw [balanced.returned,returned_numbers]
  have all := balanced.all_numbers
  rw [List.map_append] at all
  exact all.of_append_right

private theorem decision_iff (number : Nat) (decision : Decision) : state.decision? number = some decision ↔
    ∃ happening ∈ history, (number, decision) ∈ happening.returns := by
  rw [decision_eq_get?,OrderedMap.get?_eq_some _ _ _ balanced.returned_nodup,balanced.returned,
    Channel.returned,List.mem_flatMap]

theorem answers (call : Call) (isAsked : call ∈ asked history) (decision : Decision)
    (more : decision ≠ .cancel) (found : state.decision? call.number = some decision) :
    .answered call decision ∈ history := by
  obtain ⟨happening,happened,returns⟩ := (balanced.decision_iff _ _).mp found
  cases happening with
  | answered other decided =>
    simp only [Happening.returns,List.mem_singleton,Prod.mk.injEq] at returns
    obtain ⟨same,rfl⟩ := returns
    have isOver : other ∈ ended history := List.mem_flatMap.mpr ⟨_,happened,by simp [Happening.ends]⟩
    rwa [balanced.same_of_number call other isAsked (balanced.ended_asked other isOver) same]
  | _ => simp [Happening.returns,cancelled,Ne.symm more] at returns

theorem cancels (call : Call) (how : (∃ clone, .refused clone call ∈ history) ∨ .dropped call ∈ history ∨
    ∃ left, .closed left ∈ history ∧ call ∈ left) : state.decision? call.number = some .cancel := by
  rw [balanced.decision_iff]
  rcases how with ⟨clone,refused⟩ | dropped | ⟨left,closed,inside⟩
  · exact ⟨_,refused,by simp [Happening.returns,Happening.ends,cancelled]⟩
  · exact ⟨_,dropped,by simp [Happening.returns,Happening.ends,cancelled]⟩
  · exact ⟨_,closed,List.mem_map_of_mem inside⟩

private theorem received_nodup : ((received history).map (·.number)).Nodup := by
  have fewer : (received history).Subperm (asked history) := by
    rw [List.subperm_ext_iff]
    intro call _
    exact (Nat.le_add_left _ _).trans (balanced.moved call)
  obtain ⟨part,same,within⟩ := fewer
  exact (same.map _).nodup_iff.mp (balanced.asked_numbers.sublist (within.map _))

private theorem received_asked (call : Call) (isReceived : call ∈ received history) : call ∈ asked history := by
  rw [← List.count_pos_iff] at isReceived ⊢
  exact Nat.lt_of_lt_of_le isReceived ((Nat.le_add_left _ _).trans (balanced.moved call))

end Balanced

private theorem runs_capacity {allowed : Guard} (buffer : Nat) (history : List Happening) (state : State)
    (runs : Runs allowed (State.new buffer) history state) : state.capacity = max buffer 1 := by
  induction runs with
  | start => rfl
  | step history happening state next _ _ moved ih => rw [move_capacity moved,ih]

structure Agreement (buffer : Nat) (history : List Happening) (state : State) : Prop where
  /-- The questions that are put have numbers of their own. -/
  numbered : (asked history).map (·.number) = List.range state.next
  /-- Each of them waits or has returned, and returns once. -/
  once : (state.waiting ++ ended history).Perm (asked history)
  returned_once : (state.returned.map (·.1)).Nodup
  returned : ∀ call ∈ asked history, (state.decision? call.number).isSome ↔ call ∉ state.waiting
  /-- One that returns with more than a cancellation was answered so itself. -/
  answers : ∀ call ∈ asked history, ∀ decision ≠ .cancel,
    state.decision? call.number = some decision → .answered call decision ∈ history
  /-- It is cancelled if it is refused, dropped, or left in the channel that is closed. -/
  cancels : ∀ call, (∃ clone, .refused clone call ∈ history) ∨ .dropped call ∈ history ∨
    (∃ left, .closed left ∈ history ∧ call ∈ left) → state.decision? call.number = some .cancel
  /-- An answer reaches the question that was received. -/
  reached : ∀ call decision, .answered call decision ∈ history →
    call ∈ received history ∧ state.decision? call.number = some decision
  delivered : state.delivered = Channel.received history
  /-- No question is received twice, nor one that nobody put; the channel keeps them in order. -/
  received_once : ((received history).map (·.number)).Nodup
  received_asked : ∀ call ∈ received history, call ∈ asked history
  inOrder : received history ++ state.queued <+: entered history
  room : state.queued.length ≤ max buffer 1

theorem runs_agreement {allowed : Guard} (buffer : Nat) (history : List Happening) (state : State)
    (runs : Runs allowed (State.new buffer) history state) : Agreement buffer history state := by
  have balanced := runs_balanced buffer history state runs
  obtain ⟨lost,inOrder,_⟩ := balanced.inOrder
  exact
    { numbered := balanced.numbered
      once := balanced.once
      returned_once := balanced.returned_nodup
      returned := balanced.returned_iff
      answers := balanced.answers
      cancels := balanced.cancels
      reached := fun call decision answered =>
        ⟨balanced.answered call decision answered,
          (balanced.decision_iff _ _).mpr ⟨_,answered,by simp [Happening.returns]⟩⟩
      delivered := balanced.delivered
      received_once := balanced.received_nodup
      received_asked := balanced.received_asked
      inOrder := ⟨lost,inOrder.symm⟩
      room := runs_capacity buffer history state runs ▸ balanced.room }

/-! ### Clones -/

/-- A clone puts a question after its last one has returned. -/
def InTurn : Guard
  | history, state, .put clone _ | history, state, .refused clone _ =>
    ∀ call, .put clone call ∈ history → call ∉ state.waiting
  | _, _, _ => True

/-- At most one question of each clone waits. -/
def OneEach (history : List Happening) (state : State) : Prop :=
  ∀ clone call other, .put clone call ∈ history → .put clone other ∈ history →
    call ∈ state.waiting → other ∈ state.waiting → call = other

private theorem put_asked (history : List Happening) (clone : Nat) (call : Call)
    (isPut : .put clone call ∈ history) : call ∈ asked history :=
  List.mem_flatMap.mpr ⟨_,isPut,by simp [Happening.asks]⟩

private theorem move_still_waiting (history : List Happening) (state next : State) (happening : Happening)
    (moved : Move state happening next) (balanced : Balanced history state) (call : Call)
    (isAsked : call ∈ asked history) (waits : call ∈ next.waiting) : call ∈ state.waiting := by
  have notNow : call ∉ happening.asks := by
    intro now
    have numbers := (balanced_move history state next happening moved balanced).asked_numbers
    rw [asked_snoc,List.map_append] at numbers
    exact (List.nodup_append.mp numbers).2.2 _ (List.mem_map_of_mem isAsked) _
      (List.mem_map_of_mem now) rfl
  have step := move_waiting moved call
  rw [List.count_eq_zero.mpr notNow] at step
  rw [← List.count_pos_iff] at waits ⊢
  omega

theorem runs_oneEach (buffer : Nat) (history : List Happening) (state : State)
    (runs : Runs InTurn (State.new buffer) history state) : OneEach history state := by
  induction runs with
  | start =>
    intro clone call other isPut
    cases isPut
  | step history happening state next before may moved ih =>
    have balanced := runs_balanced buffer history state before
    have still (clone : Nat) (call : Call) (isPut : .put clone call ∈ history)
        (waits : call ∈ next.waiting) : call ∈ state.waiting :=
      move_still_waiting history state next happening moved balanced call (put_asked _ _ _ isPut) waits
    -- The clone of a question that is put now has no other that still waits.
    have alone (clone : Nat) (call other : Call) (now : .put clone call = happening)
        (isPut : .put clone other ∈ history) (waits : other ∈ next.waiting) : False := by
      subst now
      exact may other isPut (still clone other isPut waits)
    intro clone call other callPut otherPut callWaits otherWaits
    rcases List.mem_append.mp callPut with callBefore | callNow <;>
      rcases List.mem_append.mp otherPut with otherBefore | otherNow
    · exact ih clone call other callBefore otherBefore (still _ _ callBefore callWaits)
        (still _ _ otherBefore otherWaits)
    · exact (alone clone other call (List.mem_singleton.mp otherNow) callBefore callWaits).elim
    · exact (alone clone call other (List.mem_singleton.mp callNow) otherBefore otherWaits).elim
    · have same := (List.mem_singleton.mp callNow).trans (List.mem_singleton.mp otherNow).symm
      cases same
      rfl

/-! ### Actions one after another -/

/-- A state that is reached when every question has a clone of its own, of the same number. -/
def Reached (buffer : Nat) (state : State) : Prop :=
  ∃ history, Runs InTurn (State.new buffer) history state ∧
    ∀ clone call, .put clone call ∈ history → clone = call.number

private theorem filter_others (calls front back : List Call) (call : Call)
    (split : calls = front ++ call :: back)
    (numbers : (calls.map (·.number)).Nodup) :
    calls.filter (·.number != call.number) = front ++ back := by
  subst split
  rw [List.map_append,List.map_cons,List.nodup_middle,List.nodup_cons,← List.map_append] at numbers
  rw [List.filter_append,List.filter_cons_of_neg (by simp),← List.filter_append,List.filter_eq_self]
  intro other inside
  have apart : other.number ≠ call.number := fun same =>
    numbers.1 (same ▸ List.mem_map_of_mem inside)
  simpa using apart

namespace Reached
variable {buffer : Nat} {state : State} (reached : Reached buffer state)
include reached

private theorem balanced : ∃ history, Balanced history state := by
  obtain ⟨history,runs,_⟩ := reached
  exact ⟨history,runs_balanced buffer history state runs⟩

theorem move (happening : Happening) (next : State) (moved : Move state happening next)
    (own : ∀ clone call, happening = .put clone call ∨ happening = .refused clone call →
      clone = state.next ∧ call.number = state.next) : Reached buffer next := by
  obtain ⟨history,runs,before⟩ := reached
  have balanced := runs_balanced buffer history state runs
  have fresh (call : Call) (isPut : .put state.next call ∈ history) : call ∉ state.waiting := by
    have given := balanced.number_lt call (put_asked history _ _ isPut)
    exact absurd (before _ call isPut) (Nat.ne_of_gt given)
  refine ⟨_,.step history happening state next runs ?_ moved,?_⟩
  · cases happening with
    | put clone call =>
      obtain ⟨rfl,_⟩ := own clone call (.inl rfl)
      exact fresh
    | refused clone call =>
      obtain ⟨rfl,_⟩ := own clone call (.inr rfl)
      exact fresh
    | _ => trivial
  · intro clone call isPut
    rcases List.mem_append.mp isPut with earlier | now
    · exact before clone call earlier
    · obtain ⟨same,number⟩ := own clone call (.inl (List.mem_singleton.mp now).symm)
      rw [same,number]

theorem entering (calls rest : List Call) (isBlocked : state.blocked = calls ++ rest)
    (room : state.queued.length + calls.length ≤ state.capacity) :
    Reached buffer { state with queued := state.queued ++ calls, blocked := rest } := by
  induction calls generalizing state with
  | nil =>
    rw [List.nil_append] at isBlocked
    rw [← isBlocked,List.append_nil]
    exact reached
  | cons call calls ih =>
    rw [List.length_cons] at room
    have entered := reached.move (.entered call) _
      (.entered state [] (calls ++ rest) call isBlocked (by omega)) (by simp)
    have others := ih entered rfl (by simp only [List.length_append,List.length_singleton]; omega)
    simpa using others

theorem refill : Reached buffer state.refill := by
  obtain ⟨history,balanced⟩ := reached.balanced
  have room := balanced.room
  refine reached.entering _ _ (List.take_append_drop _ _).symm ?_
  simp only [List.length_take]
  omega

theorem settle (number : Nat) (decision : Decision) (how : Call → Happening)
    (silent : ∀ call, (how call).asks = [])
    (moves : ∀ front call back, state.held = front ++ call :: back → Move state (how call)
      { state with held := front ++ back, returned := state.returned ++ [(call.number, decision)] }) :
    Reached buffer (state.settle number decision) := by
  unfold State.settle
  split
  · next isHeld =>
    obtain ⟨call,inside,same⟩ := List.any_eq_true.mp isHeld
    obtain rfl : call.number = number := by simpa using same
    obtain ⟨front,back,split⟩ := List.append_of_mem inside
    obtain ⟨history,balanced⟩ := reached.balanced
    rw [filter_others state.held front back call split balanced.held_numbers]
    refine reached.move _ _ (moves front call back split) fun clone other asks => ?_
    have nothing := silent call
    rcases asks with asks | asks <;> simp [asks,Happening.asks] at nothing
  · exact reached

theorem step (action : Action) : Reached buffer (state.step action) := by
  cases action with
  | put request =>
    simp only [State.step]
    split
    · next isClosed =>
      refine reached.move (.refused state.next ⟨state.next, request⟩) _ (.refused state _ request isClosed) ?_
      simp
    · next isOpen =>
      refine (reached.move (.put state.next ⟨state.next, request⟩) _
        (.put state _ request (by simpa using isOpen)) ?_).refill
      simp
  | receive =>
    simp only [State.step]
    split
    · exact reached
    · next call others first =>
      exact (reached.move _ _ (.received state call others first) (by simp)).refill
  | answer number decision =>
    exact reached.settle number decision (.answered · decision) (fun _ => rfl)
      fun front call back isHeld => .answered state front back call decision isHeld
  | drop number =>
    exact reached.settle number .cancel .dropped (fun _ => rfl)
      fun front call back isHeld => .dropped state front back call isHeld
  | close =>
    -- A channel that is closed holds nothing, so that to close it again changes nothing.
    cases isClosed : state.closed with
    | false => exact reached.move _ _ (.closed state isClosed) (by simp)
    | true =>
      obtain ⟨history,balanced⟩ := reached.balanced
      obtain ⟨queued,blocked⟩ := balanced.closed isClosed
      have same : state.step .close = state := by
        simp only [State.step,queued,blocked,cancelled]
        obtain ⟨_,_,_,_,_,_,_,_⟩ := state
        simp_all
      rw [same]
      exact reached

theorem run (actions : List Action) : Reached buffer (state.run actions) := by
  induction actions generalizing state with
  | nil => exact reached
  | cons action actions ih => exact ih (reached.step action)

/-- A question that is asked returns with the decision that the channel has for its number. -/
theorem ask (request : Request) (actions left : List Action) (answer : Answer) (after : State)
    (asks : Channel.ask request (state, actions) = some (answer, after, left)) :
    Reached buffer after ∧ after.decision? state.next = some answer.decision := by
  obtain ⟨_,used,_,rfl,settles⟩ := (ask_iff ..).mp asks
  exact ⟨(reached.step (.put request)).run used,settles.decided⟩

end Reached

theorem reached_new (buffer : Nat) : Reached buffer (State.new buffer) := ⟨[],.start,by simp⟩

end Proctor.Channel
