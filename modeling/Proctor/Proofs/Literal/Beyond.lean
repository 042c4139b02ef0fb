import Proctor.Proofs.Literal.Agreement

/-! What stands behind an end is never read. Two sequences that show the same tokens up to an end are walked alike,
since no walk leaves the places up to there. -/
namespace Proctor.Literal

namespace Walk
variable {α β σ : Type}

/-! ### Walks that stay -/

/-- From every place up to the limit the two walks come to the same, and if to a result, then to a place up to there. -/
private def Confined (limit : Nat) (one other : Walk α) : Prop :=
  ∀ place ≤ limit, one place = other place ∧ ∀ a after, one place = some (.ok (a, after)) → after ≤ limit

section
variable {limit : Nat}

private theorem confined_pure (a : α) : Confined limit (pure a) (pure a) := by
  intro place within
  refine ⟨rfl,fun b after ran => ?_⟩
  cases ran
  exact within

private theorem confined_fail (fault : ParseFault) (span : Span) :
    Confined limit (fail fault span : Walk α) (fail fault span) := by
  intro place _
  refine ⟨rfl,fun a after ran => ?_⟩
  cases ran

private theorem confined_judged (verdict : Parser α) : Confined limit (judged verdict) (judged verdict) := by
  intro place within
  refine ⟨rfl,fun a after ran => ?_⟩
  unfold judged at ran
  split at ran
  · cases ran
    exact within
  · cases ran
  · cases ran

theorem Confined.bind {w v : Walk α} {f g : α → Walk β} (first : Confined limit w v)
    (next : ∀ a, Confined limit (f a) (g a)) : Confined limit (w >>= f) (v >>= g) := by
  intro place within
  obtain ⟨same,inside⟩ := first place within
  rcases ran : w place with _ | ⟨found | ⟨a,after⟩⟩
  · rw [bind_of_none _ _ _ ran,bind_of_none _ _ _ (same ▸ ran)]
    exact ⟨rfl,nofun⟩
  · rw [bind_of_fault _ _ _ _ ran,bind_of_fault _ _ _ _ (same ▸ ran)]
    exact ⟨rfl,nofun⟩
  · rw [bind_of_ok _ _ _ _ _ ran,bind_of_ok _ _ _ _ _ (same ▸ ran)]
    exact next a after (inside a after ran)

theorem Confined.branch {w v w' v' : Walk α} (c : Prop) [Decidable c] (yes : Confined limit w v)
    (no : Confined limit w' v') : Confined limit (if c then w else w') (if c then v else v') := by
  split
  · exact yes
  · exact no

private theorem loop_confined {turn twin : σ → Walk (ForInStep σ)}
    (each : ∀ state, Confined limit (turn state) (twin state)) (turns : Nat) (state : σ) :
    Confined limit (loop turn turns state) (loop twin turns state) := by
  induction turns generalizing state with
  | zero => exact fun _ _ => ⟨rfl,nofun⟩
  | succ turns ih =>
    rw [loop_succ,loop_succ]
    refine (each state).bind fun step => ?_
    cases step with
    | «yield» next => exact ih next
    | done final => exact confined_pure final

end

/-! ### Single tokens -/

/-- The sequences show the same tokens up to the limit, where both show an end. -/
structure Shows (limit : Nat) (one other : List Token) : Prop where
  same : ∀ place ≤ limit, look one place = look other place
  ends : (look one limit).what = .finish

section
variable {limit : Nat} {one other : List Token} (shows : Shows limit one other)
include shows

theorem Shows.next {place : Nat} (within : place ≤ limit) (inside : (look one place).what ≠ .finish) :
    place + 1 ≤ limit := by
  refine Nat.lt_of_le_of_ne within ?_
  rintro rfl
  exact inside shows.ends

private theorem peek_confined : Confined limit (peek one) (peek other) := by
  intro place within
  refine ⟨by rw [peek_run,peek_run,shows.same place within],fun token after ran => ?_⟩
  cases ran
  exact within

private theorem advance_confined : Confined limit (advance one) (advance other) := by
  intro place within
  unfold advance
  rw [← shows.same place within]
  refine ⟨rfl,fun token after ran => ?_⟩
  cases ran
  split
  · exact within
  · next inside => exact shows.next within inside

private theorem accept_confined (mark : Mark) : Confined limit (accept one mark) (accept other mark) := by
  refine (peek_confined shows).bind fun token => .branch _ ?_ (confined_pure false)
  exact (advance_confined shows).bind fun _ => confined_pure true

private theorem expect_confined (mark : Mark) (fault : Kind → ParseFault) :
    Confined limit (expect one mark fault) (expect other mark fault) := by
  refine (peek_confined shows).bind fun token => .branch _ ?_ (confined_fail _ _)
  exact (advance_confined shows).bind fun _ => confined_pure ()

/-! ### Numbers and strings -/

variable (turns : Nat)

private theorem sign_confined (negative : Bool) : Confined limit (sign one negative) (sign other negative) := by
  refine (accept_confined shows .minus).bind fun minus => .branch _ (confined_pure _) ?_
  exact (accept_confined shows .plus).bind fun plus => .branch _ (confined_pure _) (confined_pure _)

private theorem number_confined : Confined limit (number turns one) (number turns other) := by
  refine (loop_confined (sign_confined shows) turns false).bind fun negative => ?_
  exact (advance_confined shows).bind fun token => confined_judged _

private theorem part_confined (part? : Kind → Option α) (found : List α) :
    Confined limit (part one part? found) (part other part? found) := by
  refine (peek_confined shows).bind fun token => ?_
  cases part? token.what with
  | some next => exact (advance_confined shows).bind fun _ => confined_pure _
  | none => exact confined_pure _

private theorem texts_confined : Confined limit (texts turns one) (texts turns other) := by
  refine (loop_confined (part_confined shows Kind.text?) turns []).bind fun found => ?_
  exact (peek_confined shows).bind fun token => .branch _ (confined_fail _ _) (confined_pure _)

private theorem byteStrings_confined : Confined limit (byteStrings turns one) (byteStrings turns other) := by
  refine (loop_confined (part_confined shows Kind.bytes?) turns []).bind fun found => ?_
  exact (peek_confined shows).bind fun token => .branch _ (confined_fail _ _) (confined_pure _)

/-! ### Containers -/

section
variable {value twin : Walk Literal} (values : Confined limit value twin)
include values

private theorem item_confined (close : Mark) (found : List Literal) :
    Confined limit (item one value close found) (item other twin close found) := by
  refine (peek_confined shows).bind fun token => .branch _ (confined_pure _) ?_
  refine values.bind fun next => ?_
  exact (accept_confined shows .comma).bind fun more => .branch _ (confined_pure _) (confined_pure _)

private theorem items_confined (close : Mark) (what : Closing) :
    Confined limit (items turns one value close what) (items turns other twin close what) := by
  refine (loop_confined (item_confined shows values close) turns []).bind fun found => ?_
  exact (expect_confined shows close _).bind fun _ => confined_pure found

private theorem list_confined : Confined limit (list turns one value) (list turns other twin) :=
  (advance_confined shows).bind fun _ => (items_confined shows turns values _ _).bind fun _ => confined_pure _

private theorem paren_confined : Confined limit (paren turns one value) (paren turns other twin) := by
  refine (advance_confined shows).bind fun _ => ?_
  refine (accept_confined shows _).bind fun empty => .branch _ (confined_pure _) ?_
  refine values.bind fun first => (accept_confined shows _).bind fun group => .branch _ (confined_pure _) ?_
  refine (expect_confined shows _ _).bind fun _ => ?_
  exact (items_confined shows turns values _ _).bind fun _ => confined_pure _

private theorem entry_confined (found : List (Literal × Literal)) :
    Confined limit (entry one value found) (entry other twin found) := by
  refine (accept_confined shows .comma).bind fun more => .branch _ (confined_pure _) ?_
  refine (peek_confined shows).bind fun token => .branch _ (confined_pure _) ?_
  refine values.bind fun key => (expect_confined shows _ _).bind fun _ => ?_
  exact values.bind fun content => confined_pure _

private theorem brace_confined : Confined limit (brace turns one value) (brace turns other twin) := by
  refine (advance_confined shows).bind fun _ => ?_
  refine (accept_confined shows _).bind fun empty => .branch _ (confined_pure _) ?_
  refine values.bind fun first => (accept_confined shows _).bind fun colon => .branch _ ?_ ?_
  · refine values.bind fun content => ?_
    refine (loop_confined (entry_confined shows values) turns _).bind fun found => ?_
    exact (expect_confined shows _ _).bind fun _ => confined_pure _
  · refine (accept_confined shows _).bind fun comma => .branch _ ?_ ?_
    · exact (items_confined shows turns values _ _).bind fun _ => confined_pure _
    · exact (expect_confined shows _ _).bind fun _ => confined_pure _

private theorem call_confined (name : String) : Confined limit (call one value name)
    (call other twin name) := by
  refine (advance_confined shows).bind fun callee => (advance_confined shows).bind fun _ => ?_
  refine (accept_confined shows _).bind fun empty => .branch _ (confined_pure _) ?_
  refine values.bind fun argument => (accept_confined shows _).bind fun comma => ?_
  exact (expect_confined shows _ _).bind fun _ => confined_judged _

private theorem construct_confined (opening : Parser.Opening) :
    Confined limit (construct turns one value opening) (construct turns other twin opening) := by
  cases opening with
  | list => exact list_confined shows turns values
  | paren => exact paren_confined shows turns values
  | brace => exact brace_confined shows turns values
  | call name => exact call_confined shows values name

end

/-! ### Values -/

private theorem named_confined {name : String} {place : Nat} {nested twin : Parser.Opening → Walk Literal}
    (each : ∀ opening, Confined limit (nested opening) (twin opening)) (within : place ≤ limit)
    (named : (look one place).what = .ident name) (span : Span) :
    let w (tokens : List Token) (nested : Parser.Opening → Walk Literal) : Walk Literal := do
      if Parser.isCallable name && (← peekSecond tokens).what = .mark .parenOpen then nested (.call name)
      else fail (.identifier name) span
    w one nested place = w other twin place ∧
      ∀ found after, w one nested place = some (.ok (found, after)) → after ≤ limit := by
  intro w
  have second := shows.same (place + 1) (shows.next within (by simp [named]))
  have sees (tokens : List Token) : peekSecond tokens place = some (.ok (look tokens (place + 1), place)) := rfl
  dsimp only [w]
  rw [bind_of_ok _ _ _ _ _ (sees one),bind_of_ok _ _ _ _ _ (sees other),← second]
  exact (Confined.branch _ (each _) (confined_fail _ _)) place within

private theorem valueWith_confined {nested twin : Parser.Opening → Walk Literal}
    (each : ∀ opening, Confined limit (nested opening) (twin opening)) :
    Confined limit (valueWith turns one nested) (valueWith turns other twin) := by
  intro place within
  unfold valueWith
  rw [bind_of_ok _ _ _ _ _ (peek_run one place),bind_of_ok _ _ _ _ _ (peek_run other place),
    ← shows.same place within]
  cases kind : (look one place).what with
  | null | bool b => exact ((advance_confined shows).bind fun _ => confined_pure _) place within
  | int n | float x => exact number_confined shows turns place within
  | text s => exact texts_confined shows turns place within
  | bytes b => exact byteStrings_confined shows turns place within
  | ident name =>
    dsimp only
    split
    · exact number_confined shows turns place within
    · exact named_confined shows each within kind _
  | mark sign =>
    cases sign with
    | plus | minus => exact number_confined shows turns place within
    | listOpen => exact each .list place within
    | parenOpen => exact each .paren place within
    | braceOpen => exact each .brace place within
    | _ => exact confined_fail _ _ place within
  | finish => exact confined_fail _ _ place within

private theorem value_confined (room depth : Nat) (sum : depth + room = maxNesting) :
    Confined limit (value turns one depth) (value turns other depth) := by
  induction room generalizing depth with
  | zero =>
    unfold value
    refine valueWith_confined shows turns fun opening => ?_
    rw [if_neg (by omega),if_neg (by omega)]
    exact (peek_confined shows).bind fun token => confined_fail _ _
  | succ room ih =>
    unfold value
    refine valueWith_confined shows turns fun opening => ?_
    rw [if_pos (by omega),if_pos (by omega)]
    exact construct_confined shows turns (ih (depth + 1) (by omega)) opening

private theorem whole_confined : Confined limit (whole turns one) (whole turns other) := by
  refine (value_confined shows turns maxNesting 0 (Nat.zero_add _)).bind fun found => ?_
  exact (peek_confined shows).bind fun token => .branch _ (confined_pure found) (confined_fail _ _)

private theorem parse_confined : parse turns one = parse turns other := by
  obtain ⟨same,-⟩ := whole_confined shows turns 0 (Nat.zero_le limit)
  unfold parse StateT.run'
  rw [same]

end

/-! ### Whole sequences -/

private theorem shows_end (front rest : List Token) (span : Span) :
    Shows front.length (front ++ ⟨.finish, span⟩ :: rest) (front ++ [⟨.finish, span⟩]) := by
  have here (others : List Token) : look (front ++ ⟨.finish, span⟩ :: others) front.length = ⟨.finish, span⟩ := by
    simp [look]
  refine ⟨fun place within => ?_,by rw [here]⟩
  rcases Nat.lt_or_eq_of_le within with before | rfl
  · simp [look,List.getElem?_append_left before,before]
  · rw [here,here]

private theorem outcome?_injective (one other : Except Halt Literal) (same : outcome? one = outcome? other) :
    one = other := by
  rcases one with (_ | _) | _ <;> rcases other with (_ | _) | _ <;> simp_all [outcome?]

end Walk

private theorem ended_outcome (front rest : List Token) (span : Span) :
    ∃ outcome, Walk.outcome? (parse (front ++ ⟨.finish, span⟩ :: rest)) = some outcome := by
  cases parsed : parse (front ++ ⟨.finish, span⟩ :: rest) with
  | ok found => exact ⟨_,rfl⟩
  | error halt =>
    cases halt with
    | fault found => exact ⟨_,rfl⟩
    | endless =>
      obtain ⟨-,inner⟩ := Parser.parse_endless _ parsed
      exact absurd rfl (inner ⟨.finish, span⟩ (by simp))

/-- Whatever follows an end, the sequence up to that end is parsed alike: to the same literal, or to the same complaint
at the same token. The two take the same turns to it, and a number of turns is enough. -/
theorem end_hides_rest (front rest : List Token) (span : Span) :
    let shorter := front ++ [⟨.finish, span⟩]
    let longer := front ++ ⟨.finish, span⟩ :: rest
    parse longer = parse shorter ∧ (∀ turns, Walk.parse turns longer = Walk.parse turns shorter) ∧
      ∃ enough outcome, Walk.outcome? (parse longer) = some outcome ∧
        ∀ turns, enough ≤ turns → Walk.parse turns longer = some outcome := by
  intro shorter longer
  have alike (turns : Nat) : Walk.parse turns longer = Walk.parse turns shorter :=
    Walk.parse_confined (Walk.shows_end front rest span) turns
  obtain ⟨outcome,ended⟩ := ended_outcome front rest span
  refine ⟨?_,alike,longer.length + 1,outcome,ended,fun turns enough => ?_⟩
  · apply Walk.outcome?_injective
    have less : shorter.length ≤ longer.length := by simp [shorter,longer]
    rw [← Walk.parse_enough (longer.length + 1) longer (by omega),
      ← Walk.parse_enough (longer.length + 1) shorter (by omega)]
    exact alike _
  · rw [Walk.parse_enough turns longer enough]
    exact ended

/-- The mark behind the end does not close the list: what is missed there is the next value. -/
example : parse [⟨.mark .listOpen, ⟨0, 1⟩⟩, ⟨.finish, ⟨1, 1⟩⟩, ⟨.mark .listClose, ⟨1, 2⟩⟩] =
    .error (.fault ⟨.noValue .finish, ⟨1, 1⟩⟩) := rfl

end Proctor.Literal
