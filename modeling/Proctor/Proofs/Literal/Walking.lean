import Proctor.Proofs.Literal.Stopping

/-! The parser as a walk over the places of a sequence, whose loops go on for as many turns as they need. A walk ends if
there is a number of turns with which it has an outcome. -/
namespace Proctor.Literal

/-- A computation at a place in a sequence of tokens, without an outcome if some loop in it has no turn left. -/
abbrev Walk : Type → Type := StateT Nat (ExceptT (Located ParseFault) Option)

namespace Walk

variable {α β σ : Type}

def fail (fault : ParseFault) (span : Span) : Walk α := fun _ => some (.error ⟨fault, span⟩)

/-- Takes turns, each from what the one before it came to, up to one that is the last. The number bounds the turns. -/
def loop (turn : σ → Walk (ForInStep σ)) : Nat → σ → Walk σ
  | 0, _ => fun _ => none
  | turns + 1, state => do
    match ← turn state with
    | .yield next => loop turn turns next
    | .done final => return final

theorem loop_succ (turn : σ → Walk (ForInStep σ)) (turns : Nat) (state : σ) : loop turn (turns + 1) state = (do
    match ← turn state with
    | .yield next => loop turn turns next
    | .done final => return final) := rfl

def judged (verdict : Parser α) : Walk α := fun place =>
  match verdict [] with
  | .ok (a, _) => some (.ok (a, place))
  | .error (.fault found) => some (.error found)
  | .error .endless => none

section
variable (turns : Nat) (tokens : List Token)

def look (place : Nat) : Token := (tokens[place]?.or tokens.getLast?).getD noToken

def peek : Walk Token := fun place => some (.ok (look tokens place, place))

def peekSecond : Walk Token := fun place => some (.ok (look tokens (place + 1), place))

def advance : Walk Token := fun place =>
  let token := look tokens place
  some (.ok (token, if token.what = .finish then place else place + 1))

def accept (mark : Mark) : Walk Bool := do
  if (← peek tokens).what = .mark mark then
    let _ ← advance tokens
    return true
  else return false

def expect (mark : Mark) (fault : Kind → ParseFault) : Walk Unit := do
  let token ← peek tokens
  if token.what = .mark mark then
    let _ ← advance tokens
  else fail (fault token.what) token.span

/-! ### Numbers and strings -/

def sign (negative : Bool) : Walk (ForInStep Bool) := do
  if ← accept tokens .minus then return .yield (!negative)
  else if ← accept tokens .plus then return .yield negative
  else return .done negative

def number : Walk Literal := do
  let negative ← loop (sign tokens) turns false
  judged (Parser.numeral negative (← advance tokens))

def part (part? : Kind → Option α) (found : List α) : Walk (ForInStep (List α)) := do
  match part? (← peek tokens).what with
  | some next =>
    let _ ← advance tokens
    return .yield (found ++ [next])
  | none => return .done found

def texts : Walk Literal := do
  let found ← loop (part tokens Kind.text?) turns []
  let token ← peek tokens
  if token.what.bytes?.isSome then fail .mixedStrings token.span
  else return .text (String.join found)

def byteStrings : Walk Literal := do
  let found ← loop (part tokens Kind.bytes?) turns []
  let token ← peek tokens
  if token.what.text?.isSome then fail .mixedStrings token.span
  else return .bytes found.flatten

/-! ### Containers -/

section
variable (value : Walk Literal)

def item (close : Mark) (found : List Literal) : Walk (ForInStep (List Literal)) := do
  if (← peek tokens).what = .mark close then return .done found
  let next ← value
  if ← accept tokens .comma then return .yield (found ++ [next])
  else return .done (found ++ [next])

def items (close : Mark) (what : Closing) : Walk (List Literal) := do
  let found ← loop (item tokens value close) turns []
  expect tokens close (.notClosed what)
  return found

def list : Walk Literal := do
  let _ ← advance tokens
  return .list (← items turns tokens value .listClose .list)

def paren : Walk Literal := do
  let _ ← advance tokens
  if ← accept tokens .parenClose then return .tuple []
  let first ← value
  if ← accept tokens .parenClose then return first
  expect tokens .comma (.notClosed .tuple)
  return .tuple (first :: (← items turns tokens value .parenClose .tuple))

def entry (found : List (Literal × Literal)) : Walk (ForInStep (List (Literal × Literal))) := do
  if !(← accept tokens .comma) then return .done found
  if (← peek tokens).what = .mark .braceClose then return .done found
  let key ← value
  expect tokens .colon .noColon
  let content ← value
  return .yield (found ++ [(key, content)])

def brace : Walk Literal := do
  let _ ← advance tokens
  if ← accept tokens .braceClose then return .dict []
  let first ← value
  if ← accept tokens .colon then
    let content ← value
    let found ← loop (entry tokens value) turns [(first, content)]
    expect tokens .braceClose (.notClosed .dict)
    return .dict found
  else if ← accept tokens .comma then
    return .set (first :: (← items turns tokens value .braceClose .set))
  else
    expect tokens .braceClose (.notClosed .set)
    return .set [first]

def call (name : String) : Walk Literal := do
  let callee ← advance tokens
  let _ ← advance tokens
  if ← accept tokens .parenClose then
    return if name = "dict" then .dict [] else .set []
  let argument ← value
  let _ ← accept tokens .comma
  expect tokens .parenClose (.notClosed (.call name))
  judged (Parser.applied name callee.span argument)

def construct : Parser.Opening → Walk Literal
  | .list => list turns tokens value
  | .paren => paren turns tokens value
  | .brace => brace turns tokens value
  | .call name => call tokens value name

end

/-! ### Values -/

def valueWith (nested : Parser.Opening → Walk Literal) : Walk Literal := do
  let token ← peek tokens
  match token.what with
  | .null =>
    let _ ← advance tokens
    return .null
  | .bool b =>
    let _ ← advance tokens
    return .bool b
  | .int _ => number turns tokens
  | .float _ => number turns tokens
  | .text _ => texts turns tokens
  | .bytes _ => byteStrings turns tokens
  | .mark .plus => number turns tokens
  | .mark .minus => number turns tokens
  | .mark .listOpen => nested .list
  | .mark .parenOpen => nested .paren
  | .mark .braceOpen => nested .brace
  | .ident name =>
    if (Parser.namedNumber? name).isSome then number turns tokens
    else if Parser.isCallable name && (← peekSecond tokens).what = .mark .parenOpen then nested (.call name)
    else fail (.identifier name) token.span
  | other => fail (.noValue other) token.span

def value (depth : Nat) : Walk Literal :=
  valueWith turns tokens fun opening =>
    if depth < maxNesting then construct turns tokens (value (depth + 1)) opening
    else do fail .tooDeep (← peek tokens).span
termination_by maxNesting - depth

def whole : Walk Literal := do
  let found ← value turns tokens 0
  let token ← peek tokens
  if token.what = .finish then return found
  else fail (.trailing token.what) token.span

def parse : Option (Except (Located ParseFault) Literal) := (StateT.run' (whole turns tokens) 0).run

end

/-! ### Running a walk -/

theorem bind_of_ok (w : Walk α) (f : α → Walk β) (place after : Nat) (a : α)
    (taken : w place = some (.ok (a, after))) : (w >>= f) place = f a after := by
  change (w place).bind _ = _
  rw [taken]
  rfl

theorem bind_of_fault (w : Walk α) (f : α → Walk β) (place : Nat) (found : Located ParseFault)
    (failed : w place = some (.error found)) : (w >>= f) place = some (.error found) := by
  change (w place).bind _ = _
  rw [failed]
  rfl

theorem bind_of_none (w : Walk α) (f : α → Walk β) (place : Nat) (endless : w place = none) :
    (w >>= f) place = none := by
  change (w place).bind _ = _
  rw [endless]
  rfl

@[simp] theorem pure_run (a : α) (place : Nat) : (pure a : Walk α) place = some (.ok (a, place)) := rfl

@[simp] theorem peek_run (tokens : List Token) (place : Nat) :
    peek tokens place = some (.ok (look tokens place, place)) := rfl

theorem advance_run (tokens : List Token) (place : Nat) (inside : (look tokens place).what ≠ .finish) :
    advance tokens place = some (.ok (look tokens place, place + 1)) := by
  simp only [advance,if_neg inside]

theorem accept_true (tokens : List Token) (mark : Mark) (place : Nat) (found : (look tokens place).what = .mark mark) :
    accept tokens mark place = some (.ok (true, place + 1)) := by
  unfold accept
  rw [bind_of_ok _ _ _ _ _ (peek_run tokens place),if_pos found,
    bind_of_ok _ _ _ _ _ (advance_run tokens place (by simp [found]))]
  rfl

theorem accept_false (tokens : List Token) (mark : Mark) (place : Nat) (other : (look tokens place).what ≠ .mark mark) :
    accept tokens mark place = some (.ok (false, place)) := by
  unfold accept
  rw [bind_of_ok _ _ _ _ _ (peek_run tokens place),if_neg other]
  rfl

end Walk
end Proctor.Literal
