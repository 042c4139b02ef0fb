import Proctor.Proofs.Literal.Walking

/-! The walk over the places of a sequence comes to what the parser comes to that takes tokens from a list, and to
nothing where that parser is endless. No loop needs more turns than there are tokens, and one more. -/
namespace Proctor.Literal.Walk

variable {α β : Type}

/-- Both came to the same, and the places that are ahead are those of the tokens that are left, or the walk came to
nothing: where the parser is endless, or for want of turns. -/
inductive Agrees (turns : Nat) (tokens : List Token) :
    Option (Except (Located ParseFault) (α × Nat)) → Except Halt (α × List Token) → Prop
  | ok (a : α) (place : Nat) : Agrees turns tokens (some (.ok (a, place))) (.ok (a, tokens.drop place))
  | fault (found : Located ParseFault) : Agrees turns tokens (some (.error found)) (.error (.fault found))
  | endless : Agrees turns tokens none (.error .endless)
  | short (few : turns ≤ tokens.length) (outcome : Except Halt (α × List Token)) : Agrees turns tokens none outcome

/-- From any place, the walk comes to what the parser comes to with the tokens from there on. -/
def Same (turns : Nat) (tokens : List Token) (w : Walk α) (p : Parser α) : Prop :=
  ∀ place, Agrees turns tokens (w place) (p (tokens.drop place))

section
variable {turns : Nat} {tokens : List Token}

private theorem same_pure (a : α) : Same turns tokens (pure a) (pure a) := fun place => .ok a place

private theorem same_fail (fault : ParseFault) (span : Span) :
    Same turns tokens (fail fault span : Walk α) (Parser.fail fault span) := fun _ => .fault _

theorem Agrees.bind {place : Nat} {rest : List Token} {w : Walk α} {p : Parser α} {f : α → Walk β}
    {g : α → Parser β} (first : Agrees turns tokens (w place) (p rest))
    (next : ∀ a after, p rest = .ok (a, tokens.drop after) → Agrees turns tokens (f a after) (g a (tokens.drop after))) :
    Agrees turns tokens ((w >>= f) place) ((p >>= g) rest) := by
  generalize walked : w place = left at first
  generalize parsed : p rest = right at first
  cases first with
  | ok a after =>
    rw [bind_of_ok w f place after a walked,State.bind_of_ok p g rest _ a parsed]
    exact next a after parsed
  | fault found =>
    rw [bind_of_fault w f place found walked,State.bind_of_error p g rest _ parsed]
    exact .fault found
  | endless =>
    rw [bind_of_none w f place walked,State.bind_of_error p g rest _ parsed]
    exact .endless
  | short few =>
    rw [bind_of_none w f place walked]
    exact .short few _

theorem Same.bind {w : Walk α} {p : Parser α} {f : α → Walk β} {g : α → Parser β} (first : Same turns tokens w p)
    (next : ∀ a, Same turns tokens (f a) (g a)) : Same turns tokens (w >>= f) (p >>= g) :=
  fun place => (first place).bind fun a after _ => next a after

theorem Same.branch {left right : Walk α} {yes no : Parser α} (c : Prop) [Decidable c] (first : Same turns tokens left yes)
    (second : Same turns tokens right no) : Same turns tokens (if c then left else right) (if c then yes else no) := by
  split
  · exact first
  · exact second

private def Judges (verdict : Parser α) : Prop :=
  (∃ a, verdict = pure a) ∨ ∃ fault span, verdict = Parser.fail fault span

theorem Judges.same {verdict : Parser α} (judges : Judges verdict) : Same turns tokens (judged verdict) verdict := by
  intro place
  rcases judges with ⟨a,rfl⟩ | ⟨fault,span,rfl⟩
  · exact .ok a place
  · exact .fault _

private theorem numeral_judges (negative : Bool) (token : Token) : Judges (Parser.numeral negative token) := by
  unfold Parser.numeral
  split
  · exact .inl ⟨_,rfl⟩
  · exact .inl ⟨_,rfl⟩
  · split
    · exact .inl ⟨_,rfl⟩
    · exact .inr ⟨_,_,rfl⟩
  · exact .inr ⟨_,_,rfl⟩

private theorem applied_judges (name : String) (span : Span) (argument : Literal) :
    Judges (Parser.applied name span argument) := by
  unfold Parser.applied
  split
  · split
    · exact .inl ⟨_,rfl⟩
    · exact .inr ⟨_,_,rfl⟩
  · split
    · exact .inl ⟨_,rfl⟩
    · exact .inl ⟨_,rfl⟩
    · exact .inl ⟨_,rfl⟩
    · exact .inl ⟨_,rfl⟩
    · exact .inr ⟨_,_,rfl⟩

end

section
variable {turns : Nat} {tokens : List Token} {last : Token} (ends : tokens.getLast?.getD noToken = last)
include ends

/-! ### Single tokens -/

private theorem look_eq (place : Nat) : look tokens place = (tokens.drop place).headD last := by
  rw [List.headD_eq_head?_getD,List.head?_drop,← ends]
  unfold look
  cases tokens[place]? with
  | none => rfl
  | some token => rfl

private theorem peek_same : Same turns tokens (peek tokens) (Parser.peek last) := by
  intro place
  rw [peek_run,look_eq ends]
  exact .ok _ place

private theorem peekSecond_same : Same turns tokens (peekSecond tokens) (Parser.peekSecond last) := by
  intro place
  unfold peekSecond Parser.peekSecond
  rw [look_eq ends,← List.tail_drop]
  exact .ok _ place

private theorem advance_same : Same turns tokens (advance tokens) (Parser.advance last) := by
  intro place
  unfold advance Parser.advance
  rw [look_eq ends]
  dsimp only
  split
  · exact .ok _ place
  · rw [List.tail_drop]
    exact .ok _ (place + 1)

private theorem accept_same (mark : Mark) : Same turns tokens (accept tokens mark)
    (Parser.accept last mark) := by
  refine (peek_same ends).bind fun token => .branch _ ?_ (same_pure false)
  exact (advance_same ends).bind fun _ => same_pure true

private theorem expect_same (mark : Mark) (fault : Kind → ParseFault) :
    Same turns tokens (expect tokens mark fault) (Parser.expect last mark fault) := by
  refine (peek_same ends).bind fun token => .branch _ ?_ (same_fail _ _)
  exact (advance_same ends).bind fun _ => same_pure ()

private theorem look_past (place : Nat) (none : tokens.drop place = []) : look tokens place = last := by
  rw [look_eq ends,none]
  rfl

private theorem look_cons (place : Nat) (token : Token) (rest : List Token)
    (here : tokens.drop place = token :: rest) :
    look tokens place = token ∧ tokens.drop (place + 1) = rest := by
  rw [look_eq ends,here,← List.tail_drop,here]
  exact ⟨rfl,rfl⟩

end

/-! ### Loops that only take tokens -/

def takeAll (last : Token) (step? : Kind → Option (α → α)) (state : α) : Parser α
  | [] => if (step? last.what).isSome then .error .endless else .ok (state, [])
  | token :: rest =>
    match step? token.what with
    | some step => takeAll last step? (step state) rest
    | none => .ok (state, token :: rest)

private theorem turns_enough (turns : Nat) (tokens : List Token) (place : Nat) :
    (tokens.drop place).length < turns ∨ turns ≤ tokens.length := by
  rw [List.length_drop]
  omega

def Takes (tokens : List Token) (step? : Kind → Option (α → α)) (turn : α → Walk (ForInStep α)) : Prop :=
  ∀ state place, turn state place = some (.ok (match step? (look tokens place).what with
    | some step => (.yield (step state), place + 1)
    | none => (.done state, place)))

/-- Past the end the last token is taken again and again, whatever the number of turns. -/
theorem loop_past {tokens : List Token} {last : Token} (ends : tokens.getLast?.getD noToken = last)
    {step? : Kind → Option (α → α)} {step : α → α} (isStep : step? last.what = some step)
    {turn : α → Walk (ForInStep α)} (takes : Takes tokens step? turn) (n : Nat) (state : α) (place : Nat)
    (none : tokens.drop place = []) : loop turn n state place = .none := by
  induction n generalizing state place with
  | zero => rfl
  | succ n ih =>
    have turned := takes state place
    rw [look_past ends place none,isStep] at turned
    rw [loop_succ,bind_of_ok _ _ _ _ _ turned]
    refine ih (step state) (place + 1) ?_
    rw [← List.tail_drop,none]
    rfl

private theorem loop_takes {turns : Nat} {tokens : List Token} {last : Token}
    (ends : tokens.getLast?.getD noToken = last)
    {step? : Kind → Option (α → α)} {turn : α → Walk (ForInStep α)} (takes : Takes tokens step? turn) (n : Nat)
    (state : α) (place : Nat) (enough : (tokens.drop place).length < n ∨ turns ≤ tokens.length) :
    Agrees turns tokens (loop turn n state place) (takeAll last step? state (tokens.drop place)) := by
  induction n generalizing state place with
  | zero => exact .short (enough.resolve_left (Nat.not_lt_zero _)) _
  | succ n ih =>
    have turned := takes state place
    cases here : tokens.drop place with
    | nil =>
      unfold takeAll
      cases isStep : step? last.what with
      | some step =>
        rw [loop_past ends isStep takes _ state place here]
        exact .endless
      | none =>
        rw [look_past ends place here,isStep] at turned
        rw [loop_succ,bind_of_ok _ _ _ _ _ turned,← here]
        exact .ok state place
    | cons token rest =>
      obtain ⟨looks,later⟩ := look_cons ends place token rest here
      rw [looks] at turned
      unfold takeAll
      rw [loop_succ]
      cases isStep : step? token.what with
      | some step =>
        rw [isStep] at turned
        rw [bind_of_ok _ _ _ _ _ turned,← later]
        refine ih (step state) (place + 1) ?_
        rw [here] at enough
        rw [later]
        exact enough.imp_left Nat.lt_of_succ_lt_succ
      | none =>
        rw [isStep] at turned
        rw [bind_of_ok _ _ _ _ _ turned,← here]
        exact .ok state place

def sign? : Kind → Option (Bool → Bool)
  | .mark .minus => some not
  | .mark .plus => some id
  | _ => none

private theorem sign_takes (tokens : List Token) : Takes tokens sign? (sign tokens) := by
  intro negative place
  unfold sign
  by_cases minus : (look tokens place).what = .mark .minus
  · rw [bind_of_ok _ _ _ _ _ (accept_true tokens .minus place minus),minus]
    rfl
  rw [bind_of_ok _ _ _ _ _ (accept_false tokens .minus place minus)]
  by_cases plus : (look tokens place).what = .mark .plus
  · rw [if_neg Bool.false_ne_true,bind_of_ok _ _ _ _ _ (accept_true tokens .plus place plus),plus]
    rfl
  · rw [if_neg Bool.false_ne_true,bind_of_ok _ _ _ _ _ (accept_false tokens .plus place plus)]
    unfold sign?
    split <;> simp_all

theorem signs_eq (last : Token) (negative : Bool) : Parser.signs last negative = takeAll last sign? negative := by
  funext tokens
  induction tokens generalizing negative with
  | nil =>
    unfold Parser.signs takeAll
    congr 1
    unfold sign?
    split <;> simp_all
  | cons token rest ih =>
    unfold Parser.signs takeAll
    rw [ih,ih]
    unfold sign?
    split
    · next minus => simp [minus]
    next noMinus =>
    split
    · next plus => simp [plus]
    · next noPlus =>
      split <;> simp_all

def onto (part? : Kind → Option α) (kind : Kind) : Option (List α → List α) :=
  (part? kind).map fun part found => found ++ [part]

private theorem part_takes (tokens : List Token) (part? : Kind → Option α) (unended : part? .finish = none) :
    Takes tokens (onto part?) (part tokens part?) := by
  intro found place
  unfold part onto
  rw [bind_of_ok _ _ _ _ _ (peek_run tokens place)]
  cases isPart : part? (look tokens place).what with
  | some next =>
    have inside : (look tokens place).what ≠ .finish := by
      intro ended
      rw [ended,unended] at isPart
      cases isPart
    exact bind_of_ok _ _ _ _ _ (advance_run tokens place inside)
  | none => rfl

theorem parts_eq (last : Token) (part? : Kind → Option α) (found : List α) :
    (do return found ++ (← Parser.parts last part?) : Parser (List α)) = takeAll last (onto part?) found := by
  funext tokens
  induction tokens generalizing found with
  | nil =>
    unfold takeAll onto
    cases isPart : part? last.what with
    | some part => exact State.bind_of_error _ _ _ _ (by simp [Parser.parts,isPart])
    | none =>
      rw [State.bind_of_ok _ _ _ _ _ (show Parser.parts last part? [] = .ok ([], []) by simp [Parser.parts,isPart]),
        List.append_nil]
      rfl
  | cons token rest ih =>
    unfold takeAll onto
    cases isPart : part? token.what with
    | some part =>
      have further := ih (found ++ [part])
      cases later : Parser.parts last part? rest with
      | ok outcome =>
        have parsed : Parser.parts last part? (token :: rest) = .ok (part :: outcome.1, outcome.2) := by
          simp only [Parser.parts,isPart,later]
          rfl
        rw [State.bind_of_ok _ _ _ _ _ later,List.append_assoc] at further
        rw [State.bind_of_ok _ _ _ _ _ parsed]
        exact further
      | error halt =>
        have parsed : Parser.parts last part? (token :: rest) = .error halt := by
          simp only [Parser.parts,isPart,later]
          rfl
        rw [State.bind_of_error _ _ _ _ later] at further
        rw [State.bind_of_error _ _ _ _ parsed]
        exact further
    | none =>
      rw [State.bind_of_ok _ _ _ _ _ (show Parser.parts last part? (token :: rest) = .ok ([], token :: rest) by
        simp only [Parser.parts,isPart]),List.append_nil]
      rfl

section
variable {turns : Nat} {tokens : List Token} {last : Token} (ends : tokens.getLast?.getD noToken = last)
include ends

/-! ### Numbers and strings -/

private theorem number_same : Same turns tokens (number turns tokens) (Parser.number last) := by
  unfold Parser.number
  rw [signs_eq]
  intro place
  refine (loop_takes ends (sign_takes tokens) turns false place (turns_enough ..)).bind fun negative after _ => ?_
  exact ((advance_same ends).bind fun token => (numeral_judges negative token).same) after

private theorem parts_same (part? : Kind → Option α) (unended : part? .finish = none) :
    Same turns tokens (loop (part tokens part?) turns []) (Parser.parts last part?) := by
  intro place
  have taken := loop_takes ends (part_takes tokens part? unended) turns [] place (turns_enough ..)
  rw [← parts_eq] at taken
  simpa using taken

private theorem texts_same : Same turns tokens (texts turns tokens) (Parser.texts last) := by
  refine (parts_same ends Kind.text? rfl).bind fun found => (peek_same ends).bind fun token => ?_
  exact .branch _ (same_fail _ _) (same_pure _)

private theorem byteStrings_same : Same turns tokens (byteStrings turns tokens) (Parser.byteStrings last) := by
  refine (parts_same ends Kind.bytes? rfl).bind fun found => (peek_same ends).bind fun token => ?_
  exact .branch _ (same_fail _ _) (same_pure _)

end

/-! ### Loops over values -/

/-- The walk and the parser come to the same value, after which no more tokens are left than before; and where none
are left, a comma that shows as the last one is no value. -/
structure Valued (turns : Nat) (tokens : List Token) (last : Token) (w : Walk Literal) (p : Parser Literal) : Prop where
  same : Same turns tokens w p
  fewer : ∀ place found others, p (tokens.drop place) = .ok (found, others) → others.length ≤ (tokens.drop place).length
  comma : last.what = .mark .comma → ∀ outcome, p [] ≠ .ok outcome

section
variable {turns : Nat} {tokens : List Token} {last : Token}

private theorem advance_mark {mark : Mark} (rest : List Token) (found : (rest.headD last).what = .mark mark) :
    Parser.advance last rest = .ok (rest.headD last, rest.tail) := by
  simp only [Parser.advance,found,reduceCtorEq,if_false]

/-- A mark that is taken is the next token, or else none is left and it shows as the last one. -/
theorem accept_taken (mark : Mark) (rest others : List Token)
    (taken : Parser.accept last mark rest = .ok (true, others)) :
    others = rest.tail ∧ (rest.headD last).what = .mark mark := by
  unfold Parser.accept at taken
  rw [State.bind_of_ok _ _ _ _ _ (Parser.peek_run last rest)] at taken
  split at taken
  · next found =>
    rw [State.bind_of_ok _ _ _ _ _ (advance_mark rest found)] at taken
    cases taken
    exact ⟨rfl,found⟩
  · cases taken

theorem expect_taken (mark : Mark) (fault : Kind → ParseFault) (rest others : List Token)
    (taken : Parser.expect last mark fault rest = .ok ((), others)) : others = rest.tail := by
  unfold Parser.expect at taken
  rw [State.bind_of_ok _ _ _ _ _ (Parser.peek_run last rest)] at taken
  split at taken
  · next found =>
    rw [State.bind_of_ok _ _ _ _ _ (advance_mark rest found)] at taken
    cases taken
    rfl
  · cases taken

private theorem loop_item (w : Walk Literal) (close : Mark) (n : Nat) (found : List Literal) :
    loop (item tokens w close) (n + 1) found = (do
      if (← peek tokens).what = .mark close then return found
      let next ← w
      if ← accept tokens .comma then loop (item tokens w close) n (found ++ [next])
      else return found ++ [next]) := by
  rw [loop_succ]
  simp only [item,bind_assoc]
  refine bind_congr fun token => ?_
  split
  · rw [pure_bind]
  rw [bind_assoc]
  refine bind_congr fun next => ?_
  rw [bind_assoc]
  refine bind_congr fun more => ?_
  split <;> rw [pure_bind]

private theorem values_onto (p : Parser Literal) (close : Mark) (bound : Nat) (found : List Literal) :
    (do return found ++ (← Parser.values last p close (bound + 1)) : Parser (List Literal)) = (do
      if (← Parser.peek last).what = .mark close then return found
      let next ← p
      if ← Parser.accept last .comma then
        return (found ++ [next]) ++ (← Parser.values last p close bound)
      else return found ++ [next]) := by
  simp only [Parser.values,bind_assoc]
  refine bind_congr fun token => ?_
  split
  · rw [pure_bind,List.append_nil]
  rw [bind_assoc]
  refine bind_congr fun next => ?_
  rw [bind_assoc]
  refine bind_congr fun more => ?_
  split
  · rw [bind_assoc]
    refine bind_congr fun others => ?_
    rw [pure_bind,List.append_assoc]
    rfl
  · rw [pure_bind]

private theorem loop_entry (w : Walk Literal) (n : Nat) (found : List (Literal × Literal)) :
    loop (entry tokens w) (n + 1) found = (do
      if !(← accept tokens .comma) then return found
      if (← peek tokens).what = .mark .braceClose then return found
      let key ← w
      expect tokens .colon .noColon
      let content ← w
      loop (entry tokens w) n (found ++ [(key, content)])) := by
  rw [loop_succ]
  simp only [entry,bind_assoc]
  refine bind_congr fun more => ?_
  split
  · rw [pure_bind]
  rw [bind_assoc]
  refine bind_congr fun token => ?_
  split
  · rw [pure_bind]
  · simp only [bind_assoc,pure_bind]

private theorem entries_onto (p : Parser Literal) (bound : Nat) (found : List (Literal × Literal)) :
    (do return found ++ (← Parser.entries last p (bound + 1)) : Parser (List (Literal × Literal))) = (do
      if !(← Parser.accept last .comma) then return found
      if (← Parser.peek last).what = .mark .braceClose then return found
      let key ← p
      Parser.expect last .colon .noColon
      let content ← p
      return (found ++ [(key, content)]) ++ (← Parser.entries last p bound)) := by
  simp only [Parser.entries,bind_assoc]
  refine bind_congr fun more => ?_
  split
  · rw [pure_bind,List.append_nil]
  rw [bind_assoc]
  refine bind_congr fun token => ?_
  split
  · rw [pure_bind,List.append_nil]
  · simp only [bind_assoc,pure_bind,List.append_assoc,List.singleton_append]

variable {w : Walk Literal} {p : Parser Literal} (ends : tokens.getLast?.getD noToken = last)
  (values : Valued turns tokens last w p)
include ends values

omit ends in
private theorem comma_shorter {place after : Nat} {next : Literal} {left : List Token}
    (read : p (tokens.drop place) = .ok (next, tokens.drop after))
    (taken : Parser.accept last .comma (tokens.drop after) = .ok (true, left)) :
    left.length < (tokens.drop place).length := by
  have fewer := values.fewer place _ _ read
  obtain ⟨tail,comma⟩ := accept_taken .comma _ _ taken
  rw [tail,List.length_tail]
  cases here : tokens.drop after with
  | cons token rest =>
    rw [here] at fewer
    exact fewer
  | nil =>
    -- The comma is the last token, so that the value was not read where none is left.
    rw [here] at comma
    have some : tokens.drop place ≠ [] := fun none => values.comma comma _ (none ▸ read)
    exact List.length_pos_iff.mpr some

omit ends in
private theorem entry_shorter {start place after later : Nat} {key content : Literal} {left : List Token}
    (taken : Parser.accept last .comma (tokens.drop start) = .ok (true, tokens.drop place))
    (keyed : p (tokens.drop place) = .ok (key, tokens.drop after))
    (parted : Parser.expect last .colon .noColon (tokens.drop after) = .ok ((), tokens.drop later))
    (read : p (tokens.drop later) = .ok (content, left)) : left.length < (tokens.drop start).length := by
  have fewer := values.fewer place _ _ keyed
  have fewest := values.fewer later _ _ read
  obtain ⟨tail,comma⟩ := accept_taken .comma _ _ taken
  rw [expect_taken _ _ _ _ parted,List.length_tail] at fewest
  rw [tail] at fewer keyed
  rw [List.length_tail] at fewer
  have some : tokens.drop start ≠ [] := by
    intro none
    rw [none] at comma keyed
    exact values.comma comma _ keyed
  have := List.length_pos_iff.mpr some
  omega

private theorem items_agree (close : Mark) (n bound : Nat) (found : List Literal) (place : Nat)
    (enough : (tokens.drop place).length < n ∨ turns ≤ tokens.length) (short : (tokens.drop place).length < bound) :
    Agrees turns tokens (loop (item tokens w close) n found place)
      ((do return found ++ (← Parser.values last p close bound) : Parser (List Literal)) (tokens.drop place)) := by
  induction n generalizing bound found place with
  | zero => exact .short (enough.resolve_left (Nat.not_lt_zero _)) _
  | succ n ih =>
    obtain ⟨bound,rfl⟩ := Nat.exists_eq_succ_of_ne_zero (Nat.ne_of_gt (Nat.zero_lt_of_lt short))
    rw [loop_item,values_onto]
    refine (peek_same ends place).bind fun token after peeked => ?_
    obtain ⟨-,stood⟩ := Prod.mk.inj (Except.ok.inj peeked)
    rw [stood] at enough short
    split
    · exact .ok _ after
    refine (values.same after).bind fun next later read => ?_
    refine (accept_same ends .comma later).bind fun more further taken => ?_
    split
    · next yes =>
      subst yes
      have shorter := comma_shorter values read taken
      exact ih bound _ further (enough.imp_left (by omega)) (by omega)
    · exact .ok _ further

private theorem entries_agree (n bound : Nat) (found : List (Literal × Literal)) (place : Nat)
    (enough : (tokens.drop place).length < n ∨ turns ≤ tokens.length) (short : (tokens.drop place).length < bound) :
    Agrees turns tokens (loop (entry tokens w) n found place)
      ((do return found ++ (← Parser.entries last p bound) : Parser (List (Literal × Literal)))
        (tokens.drop place)) := by
  induction n generalizing bound found place with
  | zero => exact .short (enough.resolve_left (Nat.not_lt_zero _)) _
  | succ n ih =>
    obtain ⟨bound,rfl⟩ := Nat.exists_eq_succ_of_ne_zero (Nat.ne_of_gt (Nat.zero_lt_of_lt short))
    rw [loop_entry,entries_onto]
    refine (accept_same ends .comma place).bind fun more after taken => ?_
    split
    · exact .ok _ after
    next yes =>
    obtain rfl : more = true := by simpa using yes
    refine (peek_same ends after).bind fun token later peeked => ?_
    obtain ⟨-,stood⟩ := Prod.mk.inj (Except.ok.inj peeked)
    rw [stood] at taken
    split
    · exact .ok _ later
    refine (values.same later).bind fun key keyed read => ?_
    refine (expect_same ends .colon .noColon keyed).bind fun _ parted expected => ?_
    refine (values.same parted).bind fun content further reread => ?_
    have shorter := entry_shorter values taken read expected reread
    exact ih bound _ further (enough.imp_left (by omega)) (by omega)

/-! ### Containers -/

private theorem items_same (close : Mark) (what : Closing) :
    Same turns tokens (items turns tokens w close what) (Parser.items last p close what) := by
  intro place
  have agree := items_agree ends values close turns ((tokens.drop place).length + 2) [] place (turns_enough ..) (by omega)
  simp only [List.nil_append,bind_pure] at agree
  unfold items Parser.items
  rw [State.bind_of_ok _ _ _ _ _ (Parser.bound_run _)]
  refine agree.bind fun found after _ => ?_
  exact ((expect_same ends close _).bind fun _ => same_pure found) after

private theorem dict_same (key content : Literal) :
    Same turns tokens
      (do
        let found ← loop (entry tokens w) turns [(key, content)]
        expect tokens .braceClose (.notClosed .dict)
        return Literal.dict found)
      (do
        let others ← Parser.entries last p (← Parser.bound)
        Parser.expect last .braceClose (.notClosed .dict)
        return Literal.dict ((key, content) :: others)) := by
  intro place
  have agree := entries_agree ends values turns ((tokens.drop place).length + 2) [(key, content)] place
    (turns_enough ..) (by omega)
  have closed (found : List (Literal × Literal)) : Same turns tokens
      (do
        expect tokens .braceClose (.notClosed .dict)
        return Literal.dict found)
      (do
        Parser.expect last .braceClose (.notClosed .dict)
        return Literal.dict found) := (expect_same ends _ _).bind fun _ => same_pure _
  have joined := agree.bind fun found after _ => closed found after
  rw [bind_assoc] at joined
  simp only [pure_bind] at joined
  rw [State.bind_of_ok _ _ _ _ _ (Parser.bound_run _)]
  exact joined

private theorem list_same : Same turns tokens (list turns tokens w) (Parser.list last p) :=
  (advance_same ends).bind fun _ => (items_same ends values _ _).bind fun _ => same_pure _

private theorem paren_same : Same turns tokens (paren turns tokens w) (Parser.paren last p) := by
  refine (advance_same ends).bind fun _ => (accept_same ends _).bind fun empty => .branch _ (same_pure _) ?_
  refine values.same.bind fun first => (accept_same ends _).bind fun group => .branch _ (same_pure _) ?_
  exact (expect_same ends _ _).bind fun _ => (items_same ends values _ _).bind fun _ => same_pure _

private theorem brace_same : Same turns tokens (brace turns tokens w) (Parser.brace last p) := by
  refine (advance_same ends).bind fun _ => (accept_same ends _).bind fun empty => .branch _ (same_pure _) ?_
  refine values.same.bind fun first => (accept_same ends _).bind fun colon => .branch _ ?_ ?_
  · exact values.same.bind fun content => dict_same ends values first content
  · refine (accept_same ends _).bind fun comma => .branch _ ?_ ?_
    · exact (items_same ends values _ _).bind fun _ => same_pure _
    · exact (expect_same ends _ _).bind fun _ => same_pure _

private theorem call_same (name : String) : Same turns tokens (call tokens w name)
    (Parser.call last p name) := by
  refine (advance_same ends).bind fun callee => (advance_same ends).bind fun _ => ?_
  refine (accept_same ends _).bind fun empty => .branch _ (same_pure _) ?_
  refine values.same.bind fun argument => (accept_same ends _).bind fun _ => (expect_same ends _ _).bind fun _ => ?_
  exact (applied_judges name callee.span argument).same

private theorem construct_same (opening : Parser.Opening) :
    Same turns tokens (construct turns tokens w opening) (Parser.construct last p opening) := by
  cases opening with
  | list => exact list_same ends values
  | paren => exact paren_same ends values
  | brace => exact brace_same ends values
  | call name => exact call_same ends values name

end

/-! ### Values -/

section
variable {turns : Nat} {tokens : List Token} {last : Token} (ends : tokens.getLast?.getD noToken = last)
include ends

private theorem valueWith_same {nested : Parser.Opening → Walk Literal}
    {other : Parser.Opening → Parser Literal}
    (same : ∀ opening, Same turns tokens (nested opening) (other opening)) :
    Same turns tokens (valueWith turns tokens nested) (Parser.valueWith last other) := by
  refine (peek_same ends).bind fun token => ?_
  cases token.what with
  | null | bool b => exact (advance_same ends).bind fun _ => same_pure _
  | int n | float x => exact number_same ends
  | text s => exact texts_same ends
  | bytes b => exact byteStrings_same ends
  | ident name =>
    refine .branch _ (number_same ends) ((peekSecond_same ends).bind fun second => .branch _ (same _) ?_)
    exact same_fail _ _
  | mark sign =>
    cases sign with
    | plus | minus => exact number_same ends
    | listOpen => exact same .list
    | parenOpen => exact same .paren
    | braceOpen => exact same .brace
    | _ => exact same_fail _ _
  | finish => exact same_fail _ _

omit ends in
private theorem value_fewer (room place : Nat) (found : Literal) (others : List Token)
    (read : Parser.value last room (tokens.drop place) = .ok (found, others)) :
    others.length ≤ (tokens.drop place).length := by
  have stays : Parser.Stays last tokens (fun _ => True) (tokens.drop place) _ :=
    Parser.value_stays room (tokens.drop place) (List.drop_suffix place tokens)
  rw [read] at stays
  cases stays with
  | ok _ _ _ left => exact left.length_le

omit ends in
private theorem value_comma (room : Nat) (comma : last.what = .mark .comma) (outcome : Literal × List Token) :
    Parser.value last room [] ≠ .ok outcome := by
  have none (nested : Parser.Opening → Parser Literal) :
      Parser.valueWith last nested [] = .error (.fault ⟨.noValue (.mark .comma), last.span⟩) := by
    unfold Parser.valueWith
    rw [State.bind_of_ok _ _ _ _ _ (Parser.peek_run last []),List.headD_nil,comma]
    rfl
  unfold Parser.value
  split <;> simp [none]

/-- The deeper a value is nested, the less room is left in it. -/
theorem value_valued (room depth : Nat) (sum : depth + room = maxNesting) :
    Valued turns tokens last (value turns tokens depth) (Parser.value last room) := by
  refine ⟨?_,value_fewer room,fun comma => value_comma room comma⟩
  induction room generalizing depth with
  | zero =>
    unfold value
    refine valueWith_same ends fun opening => ?_
    rw [if_neg (by omega)]
    exact (peek_same ends).bind fun token => same_fail _ _
  | succ room ih =>
    unfold value
    refine valueWith_same ends fun opening => ?_
    rw [if_pos (by omega)]
    exact construct_same ends ⟨ih (depth + 1) (by omega),value_fewer room,fun comma => value_comma room comma⟩ opening

private theorem whole_same : Same turns tokens (whole turns tokens) (Parser.whole last) := by
  refine (value_valued ends maxNesting 0 (Nat.zero_add _)).same.bind fun found => (peek_same ends).bind fun token => ?_
  exact .branch _ (same_pure found) (same_fail _ _)

end

/-! ### Whole sequences -/

def outcome? : Except Halt Literal → Option (Except (Located ParseFault) Literal)
  | .ok found => some (.ok found)
  | .error (.fault found) => some (.error found)
  | .error .endless => none

private theorem parse_agrees (turns : Nat) (tokens : List Token) :
    parse turns tokens = outcome? (Literal.parse tokens) ∨ turns ≤ tokens.length ∧ parse turns tokens = none := by
  have same : Agrees turns tokens (whole turns tokens 0) (Parser.whole _ (tokens.drop 0)) := whole_same rfl 0
  rw [List.drop_zero] at same
  unfold parse Literal.parse StateT.run'
  change ((whole turns tokens 0).bind _ : Option _) = outcome? ((Parser.whole _ tokens).map _) ∨
    _ ∧ ((whole turns tokens 0).bind _ : Option _) = none
  generalize whole turns tokens 0 = walked at same
  generalize Parser.whole _ tokens = parsed at same
  cases same with
  | ok | fault | endless => exact .inl rfl
  | short few => exact .inr ⟨few,rfl⟩

theorem parse_enough (turns : Nat) (tokens : List Token) (enough : tokens.length < turns) :
    parse turns tokens = outcome? (Literal.parse tokens) :=
  (parse_agrees turns tokens).resolve_right fun few => Nat.not_le_of_lt enough few.1

theorem parse_some (turns : Nat) (tokens : List Token) (outcome : Except (Located ParseFault) Literal)
    (ended : parse turns tokens = some outcome) : outcome? (Literal.parse tokens) = some outcome := by
  rcases parse_agrees turns tokens with same | ⟨-,none⟩
  · rw [← same,ended]
  · rw [none] at ended
    cases ended

end Proctor.Literal.Walk
