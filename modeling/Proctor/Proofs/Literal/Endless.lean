import Proctor.Proofs.Literal.Agreement

/-! Which sequences are parsed for ever: those in which the parser gets past the last token, if that token is a sign or
a string, of which it then sees another one and another one. An end behind that token would have stopped it. -/
namespace Proctor.Literal

def ParseFault.found? : ParseFault → Option Kind
  | .trailing found => some found
  | .noValue found => some found
  | .noNumber found => some found
  | .notClosed _ found => some found
  | .noColon found => some found
  | _ => none

namespace Parser
open State

variable {α β : Type}

/-! ### A sequence with and without an end behind it -/

/-- What a parser comes to that has only the end left: it stays there, or complains of the end. -/
inductive Over (finish : Token) : Except Halt (α × List Token) → Prop
  | ok (a : α) : Over finish (.ok (a, [finish]))
  | fault (found : Located ParseFault) (atEnd : found.what.found? = some .finish) : Over finish (.error (.fault found))

/-- How a parser stops with some tokens left, and how it stops with an end behind them: in the same way as long as it
does not get past the last of them. Only if it does, which it `may`, the former is endless. -/
inductive Twins (last finish : Token) (may : Prop) (length : Nat) :
    Except Halt (α × List Token) → Except Halt (α × List Token) → Prop
  | inside (a : α) (rest : List Token) (fewer : rest.length ≤ length) (inner : Inner rest)
      (ends : rest.getLast? = some last) : Twins last finish may length (.ok (a, rest)) (.ok (a, rest ++ [finish]))
  | fault (found : Located ParseFault) (before : found.what.found? ≠ some .finish) :
      Twins last finish may length (.error (.fault found)) (.error (.fault found))
  | past {outcome : Except Halt (α × List Token)} (possible : may) (beyond : Over finish outcome) :
      Twins last finish may length (.error .endless) outcome

structure Within (last : Token) (rest : List Token) : Prop where
  inner : Inner rest
  ends : rest.getLast? = some last

/-- The two parsers, the second of which has the end as the last token, are twins wherever tokens are left. -/
def Twinned (last finish : Token) (may : Prop) (p q : Parser α) : Prop :=
  ∀ rest, Within last rest → Twins last finish may rest.length (p rest) (q (rest ++ [finish]))

section
variable {last finish : Token}

theorem Twins.within {may : Prop} {rest : List Token} (a : α) (within : Within last rest) :
    Twins last finish may rest.length (.ok (a, rest)) (.ok (a, rest ++ [finish])) :=
  .inside a rest (Nat.le_refl _) within.inner within.ends

theorem Twins.before {may : Prop} {n m : Nat} {left right : Except Halt (α × List Token)}
    (twins : Twins last finish may n left right) (fewer : n ≤ m) : Twins last finish True m left right := by
  cases twins with
  | inside a rest short inner ends => exact .inside a rest (Nat.le_trans short fewer) inner ends
  | fault found before => exact .fault found before
  | past possible beyond => exact .past trivial beyond

theorem Over.bind {q : Parser α} {g : α → Parser β} (first : Over finish (q [finish]))
    (next : ∀ a, Over finish (g a [finish])) : Over finish ((q >>= g) [finish]) := by
  generalize taken : q [finish] = outcome at first
  cases first with
  | ok a =>
    rw [bind_of_ok q g _ _ a taken]
    exact next a
  | fault found atEnd =>
    rw [bind_of_error q g _ _ taken]
    exact .fault found atEnd

theorem Twins.bind {may : Prop} {n : Nat} {rest others : List Token} {p q : Parser α} {f g : α → Parser β}
    (first : Twins last finish may n (p rest) (q others))
    (next : ∀ a left, Within last left → left.length ≤ n →
      Twins last finish True left.length (f a left) (g a (left ++ [finish])))
    (beyond : may → ∀ a, Over finish (g a [finish])) :
    Twins last finish True n ((p >>= f) rest) ((q >>= g) others) := by
  generalize taken : p rest = left at first
  generalize twin : q others = right at first
  cases first with
  | inside a rest fewer inner ends =>
    rw [bind_of_ok p f _ _ a taken,bind_of_ok q g _ _ a twin]
    exact (next a rest ⟨inner,ends⟩ fewer).before fewer
  | fault found before =>
    rw [bind_of_error p f _ _ taken,bind_of_error q g _ _ twin]
    exact .fault found before
  | past possible ended =>
    rw [bind_of_error p f _ _ taken]
    refine .past trivial ?_
    cases ended with
    | ok a =>
      rw [bind_of_ok q g _ _ a twin]
      exact beyond possible a
    | fault found atEnd =>
      rw [bind_of_error q g _ _ twin]
      exact .fault found atEnd

theorem Twinned.bind {p q : Parser α} {f g : α → Parser β} (first : Twinned last finish True p q)
    (next : ∀ a, Twinned last finish True (f a) (g a)) (beyond : ∀ a, Over finish (g a [finish])) :
    Twinned last finish True (p >>= f) (q >>= g) :=
  fun rest within => (first rest within).bind (fun a left inside _ => next a left inside) fun _ => beyond

theorem Twinned.step {p q : Parser α} {f g : α → Parser β} (first : Twinned last finish False p q)
    (next : ∀ a, Twinned last finish True (f a) (g a)) : Twinned last finish True (p >>= f) (q >>= g) :=
  fun rest within => (first rest within).bind (fun a left inside _ => next a left inside) False.elim

theorem Twinned.branch {p q p' q' : Parser α} (c : Prop) [Decidable c] (first : Twinned last finish True p q)
    (second : Twinned last finish True p' q') :
    Twinned last finish True (if c then p else p') (if c then q else q') := by
  split
  · exact first
  · exact second

private theorem twinned_pure (a : α) : Twinned last finish True (pure a)
    (pure a) := fun _ within => .within a within

private theorem twinned_fail (fault : ParseFault) (span : Span) (before : fault.found? ≠ some .finish) :
    Twinned last finish True (fail fault span : Parser α) (fail fault span) := fun _ _ => .fault _ before

/-! ### Single tokens -/

theorem Within.cons {rest : List Token} (within : Within last rest) :
    ∃ token others, rest = token :: others ∧ token.what ≠ .finish := by
  obtain ⟨token,others,rfl⟩ := List.exists_cons_of_ne_nil fun none : rest = [] => by simpa [none] using within.ends
  exact ⟨token,others,rfl,within.inner token List.mem_cons_self⟩

private theorem peek_twins {f g : Token → Parser β} {rest : List Token} (within : Within last rest)
    (next : ∀ token : Token, token.what ≠ .finish →
      Twins last finish True rest.length (f token rest) (g token (rest ++ [finish]))) :
    Twins last finish True rest.length ((peek last >>= f) rest) ((peek finish >>= g) (rest ++ [finish])) := by
  obtain ⟨token,others,rfl,inside⟩ := within.cons
  rw [bind_of_ok _ _ _ _ _ (peek_cons last token others),List.cons_append,
    bind_of_ok _ _ _ _ _ (peek_cons finish token (others ++ [finish]))]
  exact next token inside

private theorem twinned_peek {f g : Token → Parser β}
    (next : ∀ token : Token, token.what ≠ .finish → Twinned last finish True (f token) (g token)) :
    Twinned last finish True (peek last >>= f) (peek finish >>= g) :=
  fun rest within => peek_twins within fun token inside => next token inside rest within

section
variable (repeats : last.what.repeats = true)
include repeats

theorem Within.tail {token : Token} {rest : List Token} (within : Within last (token :: rest))
    (single : token.what.repeats = false) : Within last rest := by
  refine ⟨within.inner.tail,?_⟩
  cases rest with
  | nil =>
    obtain rfl : token = last := by simpa using within.ends
    rw [repeats] at single
    cases single
  | cons next rest => simpa using within.ends

private theorem advance_twins {f g : Token → Parser β} {token : Token} {rest : List Token}
    (within : Within last (token :: rest)) (single : token.what.repeats = false)
    (next : Within last rest → Twins last finish True rest.length (f token rest) (g token (rest ++ [finish]))) :
    Twins last finish True (token :: rest).length ((advance last >>= f) (token :: rest))
      ((advance finish >>= g) (token :: rest ++ [finish])) := by
  have inside := within.inner token List.mem_cons_self
  rw [List.cons_append,bind_of_ok _ _ _ _ _ (advance_cons last token rest inside),
    bind_of_ok _ _ _ _ _ (advance_cons finish token (rest ++ [finish]) inside)]
  exact (next (within.tail repeats single)).before (Nat.le_succ _)

private theorem accept_twins {f g : Bool → Parser β} {mark : Mark} (single : (Kind.mark mark).repeats = false)
    {rest : List Token} (within : Within last rest)
    (yes : ∀ left, Within last left → left.length < rest.length →
      Twins last finish True left.length (f true left) (g true (left ++ [finish])))
    (no : Twins last finish True rest.length (f false rest) (g false (rest ++ [finish]))) :
    Twins last finish True rest.length ((accept last mark >>= f) rest)
      ((accept finish mark >>= g) (rest ++ [finish])) := by
  obtain ⟨token,others,rfl,-⟩ := within.cons
  have taken := accept_cons last token others mark
  have twin := accept_cons finish token (others ++ [finish]) mark
  rw [← List.cons_append] at twin
  split at taken
  · next found =>
    rw [if_pos found] at twin
    rw [bind_of_ok _ _ _ _ _ taken,bind_of_ok _ _ _ _ _ twin]
    rw [← found] at single
    exact (yes others (within.tail repeats single) (Nat.lt_succ_self _)).before (Nat.le_succ _)
  · next other =>
    rw [if_neg other] at twin
    rwa [bind_of_ok _ _ _ _ _ taken,bind_of_ok _ _ _ _ _ twin]

private theorem twinned_accept {f g : Bool → Parser β} {mark : Mark} (single : (Kind.mark mark).repeats = false)
    (next : ∀ taken, Twinned last finish True (f taken) (g taken)) :
    Twinned last finish True (accept last mark >>= f) (accept finish mark >>= g) :=
  fun rest within => accept_twins repeats single within (fun left inside _ => next true left inside)
    (next false rest within)

private theorem expect_twins (mark : Mark) (fault : Kind → ParseFault)
    (single : (Kind.mark mark).repeats = false)
    (names : ∀ kind, (fault kind).found? = some kind) :
    Twinned last finish False (expect last mark fault) (expect finish mark fault) := by
  intro rest within
  obtain ⟨token,others,rfl,inside⟩ := within.cons
  rw [List.cons_append,expect_cons,expect_cons]
  split
  · next found =>
    rw [← found] at single
    have later := within.tail repeats single
    exact .inside () others (Nat.le_succ _) later.inner later.ends
  · exact .fault _ (by simpa [names] using inside)

end

private theorem over_peek {g : Token → Parser β} (next : Over finish (g finish [finish])) :
    Over finish ((peek finish >>= g) [finish]) := by
  rwa [bind_of_ok _ g _ _ _ (peek_cons finish finish [])]

section
variable (ended : finish.what = .finish)
include ended

private theorem over_accept {mark : Mark} {g : Bool → Parser β} (next : Over finish (g false [finish])) :
    Over finish ((accept finish mark >>= g) [finish]) := by
  have taken := accept_cons finish finish [] mark
  rw [if_neg (by simp [ended])] at taken
  rwa [bind_of_ok _ g _ _ _ taken]

private theorem over_expect {mark : Mark} {fault : Kind → ParseFault} {g : Unit → Parser β}
    (names : (fault .finish).found? = some .finish) : Over finish ((expect finish mark fault >>= g) [finish]) := by
  have failed := expect_cons finish finish [] mark fault
  rw [if_neg (by simp [ended])] at failed
  rw [bind_of_error _ g _ _ failed]
  exact .fault _ (by rwa [ended])

end

/-! ### Numbers and strings -/

section
variable {step? : Kind → Option (α → α)} (marks : ∀ kind, (step? kind).isSome → kind.repeats = true)
include marks

private theorem stops_at_end (ended : finish.what = .finish) (state : α) :
    Walk.takeAll finish step? state [finish] = .ok (state, [finish]) := by
  have none : step? finish.what = none := by
    rw [ended]
    exact Option.not_isSome_iff_eq_none.mp fun some => Bool.false_ne_true (marks _ some)
  simp only [Walk.takeAll,none]

private theorem takeAll_twins (ended : finish.what = .finish) (state : α) :
    Twinned last finish True (Walk.takeAll last step? state) (Walk.takeAll finish step? state) := by
  intro rest within
  induction rest generalizing state with
  | nil => simpa using within.ends
  | cons token rest ih =>
    unfold Walk.takeAll
    rw [List.cons_append]
    dsimp only
    cases isStep : step? token.what with
    | none => exact .within state within
    | some step =>
      cases rest with
      | nil =>
        -- The last token was taken, and will be again.
        obtain rfl : token = last := by simpa using within.ends
        have again : Walk.takeAll token step? (step state) [] = .error .endless := by simp [Walk.takeAll,isStep]
        dsimp only
        rw [again,List.nil_append,stops_at_end marks ended]
        exact .past trivial (.ok _)
      | cons next rest =>
        have later : Within last (next :: rest) := ⟨within.inner.tail,by simpa using within.ends⟩
        exact (ih (step state) later).before (Nat.le_succ _)

end

private theorem sign_repeats (kind : Kind) (isSign : (Walk.sign? kind).isSome) : kind.repeats = true := by
  unfold Walk.sign? at isSign
  split at isSign
  · rfl
  · rfl
  · cases isSign

private theorem onto_repeats {part? : Kind → Option α}
    (repeated : ∀ kind, (part? kind).isSome → kind.repeats = true)
    (kind : Kind) (isPart : (Walk.onto part? kind).isSome) : kind.repeats = true := by
  unfold Walk.onto at isPart
  rw [Option.isSome_map] at isPart
  exact repeated kind isPart

private theorem numeral_cases (negative : Bool) (token : Token) :
    (∃ found, numeral negative token = pure found ∧ token.what.repeats = false) ∨
      numeral negative token = fail (.noNumber token.what) token.span := by
  unfold numeral
  split
  · next isInt => exact .inl ⟨_,rfl,by rw [isInt]; rfl⟩
  · next isFloat => exact .inl ⟨_,rfl,by rw [isFloat]; rfl⟩
  · next isName =>
    split
    · exact .inl ⟨_,rfl,by rw [isName]; rfl⟩
    · exact .inr rfl
  · exact .inr rfl

section
variable (repeats : last.what.repeats = true) (ended : finish.what = .finish)
include repeats ended

private theorem number_twins : Twinned last finish True (number last) (number finish) := by
  unfold number
  rw [Walk.signs_eq,Walk.signs_eq]
  refine (takeAll_twins sign_repeats ended false).bind (fun negative rest within => ?_) fun negative => ?_
  · obtain ⟨token,others,rfl,inside⟩ := within.cons
    rw [bind_of_ok _ _ _ _ _ (advance_cons last token others inside),List.cons_append,
      bind_of_ok _ _ _ _ _ (advance_cons finish token (others ++ [finish]) inside)]
    rcases numeral_cases negative token with ⟨found,isNumber,single⟩ | failed
    · have later := within.tail repeats single
      rw [isNumber]
      exact .inside found others (Nat.le_succ _) later.inner later.ends
    · rw [failed]
      exact .fault _ (by simpa [ParseFault.found?] using inside)
  · have stays : advance finish [finish] = .ok (finish, [finish]) := by
      simp [advance,ended]
    rw [bind_of_ok _ _ _ _ _ stays]
    rcases numeral_cases negative finish with ⟨found,isNumber,-⟩ | failed
    · rw [isNumber]
      exact .ok found
    · rw [failed]
      exact .fault _ (by rw [ended]; rfl)

omit repeats in
private theorem parts_twins (part? : Kind → Option α)
    (repeated : ∀ kind, (part? kind).isSome → kind.repeats = true) :
    Twinned last finish True (parts last part?) (parts finish part?) := by
  have twins : Twinned last finish True (Walk.takeAll last _ []) (Walk.takeAll finish _ []) :=
    takeAll_twins (onto_repeats repeated) ended []
  rw [← Walk.parts_eq,← Walk.parts_eq] at twins
  simpa using twins

omit repeats in
private theorem texts_twins : Twinned last finish True (texts last) (texts finish) := by
  refine (parts_twins ended Kind.text? text_repeats).bind (fun found => ?_) fun found => over_peek ?_
  · exact twinned_peek fun token _ => .branch _ (twinned_fail _ _ nofun) (twinned_pure _)
  · rw [ended]
    exact .ok _

omit repeats in
private theorem byteStrings_twins : Twinned last finish True (byteStrings last) (byteStrings finish) := by
  refine (parts_twins ended Kind.bytes? bytes_repeats).bind (fun found => ?_) fun found => over_peek ?_
  · exact twinned_peek fun token _ => .branch _ (twinned_fail _ _ nofun) (twinned_pure _)
  · rw [ended]
    exact .ok _

end

/-! ### Containers -/

section
variable (repeats : last.what.repeats = true) (ended : finish.what = .finish) {p q : Parser Literal}
  (twins : Twinned last finish True p q)
include repeats ended twins

/-- The bounds are not reached, since each further value comes after a comma. -/
theorem values_twins (close : Mark) (bound other : Nat) (rest : List Token) (within : Within last rest)
    (short : rest.length < bound) (shorter : rest.length < other) :
    Twins last finish True rest.length (values last p close bound rest)
      (values finish q close other (rest ++ [finish])) := by
  induction bound generalizing other rest with
  | zero => omega
  | succ bound ih =>
    obtain ⟨other,rfl⟩ := Nat.exists_eq_succ_of_ne_zero (Nat.ne_of_gt (Nat.zero_lt_of_lt shorter))
    unfold values
    refine peek_twins within fun token _ => ?_
    split
    · exact .within [] within
    refine (twins rest within).bind (fun first left inside fewer => ?_) fun _ first => over_accept ended (.ok [first])
    refine accept_twins repeats rfl inside (fun others later fewest => ?_) (.within [first] inside)
    refine (ih other others later (by omega) (by omega)).bind (fun found left inside _ => ?_) fun _ found => .ok _
    exact .within (first :: found) inside

private theorem items_twins (close : Mark) (what : Closing) (single : (Kind.mark close).repeats = false) :
    Twinned last finish True (items last p close what) (items finish q close what) := by
  intro rest within
  unfold items
  rw [bind_of_ok _ _ _ _ _ (bound_run rest),bind_of_ok _ _ _ _ _ (bound_run (rest ++ [finish]))]
  have found := values_twins repeats ended twins close (rest.length + 2) ((rest ++ [finish]).length + 2) rest within
    (by omega) (by rw [List.length_append]; omega)
  refine found.bind (fun found left inside _ => ?_) fun _ found => over_expect ended rfl
  exact ((expect_twins repeats close _ single fun _ => rfl).step fun _ => twinned_pure found) left inside

omit repeats twins in
private theorem entries_over (bound : Nat) : Over finish (entries finish q bound [finish]) := by
  cases bound with
  | zero => exact .ok []
  | succ bound => exact over_accept ended (.ok [])

private theorem entries_twins (bound other : Nat) (rest : List Token) (within : Within last rest)
    (short : rest.length < bound) (shorter : rest.length < other) :
    Twins last finish True rest.length (entries last p bound rest) (entries finish q other (rest ++ [finish])) := by
  induction bound generalizing other rest with
  | zero => omega
  | succ bound ih =>
    obtain ⟨other,rfl⟩ := Nat.exists_eq_succ_of_ne_zero (Nat.ne_of_gt (Nat.zero_lt_of_lt shorter))
    unfold entries
    refine accept_twins repeats rfl within (fun others later fewest => ?_) (.within [] within)
    refine peek_twins later fun token _ => ?_
    split
    · exact .within [] later
    refine (twins others later).bind (fun key left inside keyed => ?_) fun _ key => over_expect ended rfl
    have colon : Twinned last finish False _ _ := expect_twins repeats .colon .noColon rfl fun _ => rfl
    refine (colon left inside).bind (fun _ left inside parted => ?_) False.elim
    refine (twins left inside).bind (fun content left inside valued => ?_) fun _ content => ?_
    · refine (ih other left inside (by omega) (by omega)).bind (fun found left inside _ => ?_) fun _ found => .ok _
      exact .within _ inside
    · exact (entries_over ended other).bind fun found => .ok _

private theorem dict_twins (key content : Literal) :
    Twinned last finish True
      (do
        let others ← entries last p (← bound)
        expect last .braceClose (.notClosed .dict)
        return Literal.dict ((key, content) :: others))
      (do
        let others ← entries finish q (← bound)
        expect finish .braceClose (.notClosed .dict)
        return Literal.dict ((key, content) :: others)) := by
  intro rest within
  rw [bind_of_ok _ _ _ _ _ (bound_run rest),bind_of_ok _ _ _ _ _ (bound_run (rest ++ [finish]))]
  have found := entries_twins repeats ended twins (rest.length + 2) ((rest ++ [finish]).length + 2) rest within
    (by omega) (by rw [List.length_append]; omega)
  refine found.bind (fun others left inside _ => ?_) fun _ others => over_expect ended rfl
  exact ((expect_twins repeats _ _ rfl fun _ => rfl).step fun _ => twinned_pure _) left inside

end

private theorem applied_twins (name : String) (span : Span) (argument : Literal) :
    Twinned last finish True (applied name span argument) (applied name span argument) := by
  unfold applied
  refine .branch _ ?_ ?_
  · cases argument with
    | dict found => exact twinned_pure _
    | _ => exact twinned_fail _ _ nofun
  · cases argument with
    | list found | tuple found | set found | dict found => exact twinned_pure _
    | _ => exact twinned_fail _ _ nofun

/-- The tokens that open a nested value are none that repeat. -/
inductive Opens : Opening → List Token → Prop
  | one (opening : Opening) (token : Token) (others : List Token) (single : token.what.repeats = false)
      (bare : ∀ name, opening ≠ .call name) : Opens opening (token :: others)
  | call (name : String) (callee paren : Token) (others : List Token) (single : callee.what.repeats = false)
      (bracket : paren.what.repeats = false) : Opens (.call name) (callee :: paren :: others)

section
variable (repeats : last.what.repeats = true) (ended : finish.what = .finish) {p q : Parser Literal}
  (twins : Twinned last finish True p q)
include repeats ended twins

private theorem list_twins {token : Token} {others : List Token} (within : Within last (token :: others))
    (single : token.what.repeats = false) : Twins last finish True (token :: others).length
      (list last p (token :: others)) (list finish q (token :: others ++ [finish])) := by
  refine advance_twins repeats within single fun later => ?_
  exact ((items_twins repeats ended twins _ _ rfl).bind (fun found => twinned_pure _) fun _ => .ok _) _ later

private theorem paren_twins {token : Token} {others : List Token} (within : Within last (token :: others))
    (single : token.what.repeats = false) : Twins last finish True (token :: others).length
      (paren last p (token :: others)) (paren finish q (token :: others ++ [finish])) := by
  refine advance_twins repeats within single fun later => ?_
  refine (twinned_accept repeats rfl fun empty => .branch _ (twinned_pure _) ?_) _ later
  refine twins.bind (fun first => ?_) fun first => over_accept ended (over_expect ended rfl)
  refine twinned_accept repeats rfl fun group => .branch _ (twinned_pure _) ?_
  refine (expect_twins repeats _ _ rfl fun _ => rfl).step fun _ => ?_
  exact (items_twins repeats ended twins _ _ rfl).bind (fun found => twinned_pure _) fun _ => .ok _

private theorem brace_twins {token : Token} {others : List Token} (within : Within last (token :: others))
    (single : token.what.repeats = false) : Twins last finish True (token :: others).length
      (brace last p (token :: others)) (brace finish q (token :: others ++ [finish])) := by
  refine advance_twins repeats within single fun later => ?_
  refine (twinned_accept repeats rfl fun empty => .branch _ (twinned_pure _) ?_) _ later
  refine twins.bind (fun first => ?_) fun first => over_accept ended (over_accept ended (over_expect ended rfl))
  refine twinned_accept repeats rfl fun colon => .branch _ ?_ ?_
  · refine twins.bind (fun content => dict_twins repeats ended twins first content) fun content => ?_
    rw [bind_of_ok _ _ _ _ _ (bound_run [finish])]
    exact (entries_over ended _).bind fun others => over_expect ended rfl
  refine twinned_accept repeats rfl fun comma => .branch _ ?_ ?_
  · exact (items_twins repeats ended twins _ _ rfl).bind (fun found => twinned_pure _) fun _ => .ok _
  · exact (expect_twins repeats _ _ rfl fun _ => rfl).step fun _ => twinned_pure _

private theorem call_twins (name : String) {callee paren : Token} {others : List Token}
    (within : Within last (callee :: paren :: others)) (single : callee.what.repeats = false)
    (bracket : paren.what.repeats = false) : Twins last finish True (callee :: paren :: others).length
      (call last p name (callee :: paren :: others)) (call finish q name (callee :: paren :: others ++ [finish])) := by
  refine advance_twins repeats within single fun later => advance_twins repeats later bracket fun inside => ?_
  refine (twinned_accept repeats rfl fun empty => .branch _ (twinned_pure _) ?_) _ inside
  refine twins.bind (fun argument => ?_) fun argument => over_accept ended (over_expect ended rfl)
  refine twinned_accept repeats rfl fun comma => (expect_twins repeats _ _ rfl fun _ => rfl).step fun _ => ?_
  exact applied_twins name callee.span argument

private theorem construct_twins (opening : Opening) (rest : List Token) (within : Within last rest)
    (opens : Opens opening rest) : Twins last finish True rest.length (construct last p opening rest)
      (construct finish q opening (rest ++ [finish])) := by
  cases opens with
  | one _ token others single bare =>
    cases opening with
    | list => exact list_twins repeats ended twins within single
    | paren => exact paren_twins repeats ended twins within single
    | brace => exact brace_twins repeats ended twins within single
    | call name => exact absurd rfl (bare name)
  | call name callee paren others single bracket => exact call_twins repeats ended twins name within single bracket

end

/-! ### Values -/

section
variable (repeats : last.what.repeats = true) (ended : finish.what = .finish)
include repeats ended

private theorem valueWith_twins {nested other : Opening → Parser Literal}
    (inside : ∀ opening rest, Within last rest → Opens opening rest →
      Twins last finish True rest.length (nested opening rest) (other opening (rest ++ [finish]))) :
    Twinned last finish True (valueWith last nested) (valueWith finish other) := by
  intro rest within
  obtain ⟨token,others,rfl,inner⟩ := within.cons
  unfold valueWith
  rw [bind_of_ok _ _ _ _ _ (peek_cons last token others),List.cons_append,
    bind_of_ok _ _ _ _ _ (peek_cons finish token (others ++ [finish])),← List.cons_append]
  have number := number_twins repeats ended (token :: others) within
  have opens (opening : Opening) (single : token.what.repeats = false) (bare : ∀ name, opening ≠ .call name) :=
    inside opening _ within (.one opening token others single bare)
  have refused (fault : ParseFault) (before : fault.found? ≠ some .finish) :
      Twins last finish True _ ((fail fault token.span : Parser Literal) _) _ :=
    twinned_fail fault token.span before _ within
  cases kind : token.what with
  | null | bool b =>
    exact advance_twins repeats within (by rw [kind]; rfl) fun later => .within _ later
  | int n | float x => exact number
  | text s => exact texts_twins ended _ within
  | bytes b => exact byteStrings_twins ended _ within
  | ident name =>
    dsimp only
    split
    · exact number
    have single : token.what.repeats = false := by rw [kind]; rfl
    -- A name is not the last token, so that both see the one behind it.
    obtain ⟨second,more,rfl,-⟩ := (within.tail repeats single).cons
    have seen (last : Token) (rest : List Token) :
        peekSecond last (token :: second :: rest) = .ok (second, token :: second :: rest) := rfl
    rw [bind_of_ok _ _ _ _ _ (seen last more),List.cons_append,List.cons_append,
      bind_of_ok _ _ _ _ _ (seen finish (more ++ [finish])),← List.cons_append,← List.cons_append]
    split
    · next called =>
      simp only [Bool.and_eq_true,decide_eq_true_eq] at called
      exact inside _ _ within (.call name token second more single (by rw [called.2]; rfl))
    · exact refused _ nofun
  | mark sign =>
    cases sign with
    | plus | minus => exact number
    | listOpen => exact opens .list (by rw [kind]; rfl) nofun
    | parenOpen => exact opens .paren (by rw [kind]; rfl) nofun
    | braceOpen => exact opens .brace (by rw [kind]; rfl) nofun
    | _ => exact refused _ (by simp [ParseFault.found?])
  | finish => exact absurd kind inner

private theorem value_twins (room : Nat) : Twinned last finish True (value last room) (value finish room) := by
  induction room with
  | zero =>
    refine valueWith_twins repeats ended fun opening rest within _ => ?_
    exact twinned_peek (fun token _ => twinned_fail .tooDeep token.span nofun) rest within
  | succ room ih => exact valueWith_twins repeats ended (construct_twins repeats ended ih)

/-- A value before the last token is complained of, and one behind it is there as soon as the end is. -/
theorem whole_twins (tokens : List Token) (within : Within last tokens) :
    (∃ found, found.what.found? ≠ some .finish ∧ whole last tokens = .error (.fault found) ∧
      whole finish (tokens ++ [finish]) = .error (.fault found)) ∨
    whole last tokens = .error .endless ∧ Over finish (whole finish (tokens ++ [finish])) := by
  have twins := value_twins repeats ended maxNesting tokens within
  unfold whole
  generalize taken : value last maxNesting tokens = left at twins
  generalize twin : value finish maxNesting (tokens ++ [finish]) = right at twins
  cases twins with
  | inside found rest fewer inner ends =>
    obtain ⟨token,others,rfl,inside⟩ := Within.cons ⟨inner,ends⟩
    refine .inl ⟨⟨.trailing token.what, token.span⟩,by simpa [ParseFault.found?] using inside,?_,?_⟩
    · rw [bind_of_ok _ _ _ _ _ taken,bind_of_ok _ _ _ _ _ (peek_cons last token others),if_neg inside]
      rfl
    · rw [bind_of_ok _ _ _ _ _ twin,List.cons_append,
        bind_of_ok _ _ _ _ _ (peek_cons finish token (others ++ [finish])),if_neg inside]
      rfl
  | fault found before =>
    exact .inl ⟨found,before,bind_of_error _ _ _ _ taken,bind_of_error _ _ _ _ twin⟩
  | past _ beyond =>
    refine .inr ⟨bind_of_error _ _ _ _ taken,?_⟩
    cases beyond with
    | ok found =>
      rw [bind_of_ok _ _ _ _ _ twin]
      refine over_peek ?_
      rw [if_pos ended]
      exact .ok found
    | fault found atEnd =>
      rw [bind_of_error _ _ _ _ twin]
      exact .fault found atEnd

end
end

/-! ### Whole sequences -/

inductive Exhausted : Except Halt Literal → Prop
  | accepted (found : Literal) : Exhausted (.ok found)
  | ended (found : Located ParseFault) (atEnd : found.what.found? = some .finish) :
      Exhausted (.error (.fault found))

/-- The sequence holds no end, and its last token is a sign or a string which the parser reaches, since with an end
behind it the sequence is read up to that. -/
structure Unending (tokens : List Token) : Prop where
  inner : Inner tokens
  repeats : (tokens.getLast?.getD noToken).what.repeats = true
  exhausted : Exhausted (parse (tokens ++ [noToken]))

private theorem parse_twins (tokens : List Token) (inner : Inner tokens)
    (repeats : (tokens.getLast?.getD noToken).what.repeats = true) :
    parse tokens = .error .endless ↔ Exhausted (parse (tokens ++ [noToken])) := by
  have ends : tokens.getLast? = some (tokens.getLast?.getD noToken) := by
    cases shown : tokens.getLast? with
    | none =>
      rw [shown] at repeats
      cases repeats
    | some last => rfl
  have ended : (tokens ++ [noToken]).getLast?.getD noToken = noToken := by simp
  have twins := whole_twins repeats (show noToken.what = .finish from rfl) tokens ⟨inner,ends⟩
  unfold parse StateT.run
  rw [ended]
  rcases twins with ⟨found,before,left,right⟩ | ⟨left,beyond⟩
  · rw [left,right]
    constructor
    · intro endless
      cases endless
    · intro exhausted
      cases exhausted with
      | ended _ atEnd => exact absurd atEnd before
  · rw [left]
    generalize Parser.whole noToken (tokens ++ [noToken]) = outcome at beyond
    refine iff_of_true rfl ?_
    cases beyond with
    | ok found => exact .accepted found
    | fault found atEnd => exact .ended found atEnd

private theorem parse_endless_iff (tokens : List Token) : parse tokens = .error .endless ↔ Unending tokens := by
  constructor
  · intro endless
    obtain ⟨repeats,inner⟩ := Parser.parse_endless tokens endless
    exact ⟨inner,repeats,(parse_twins tokens inner repeats).mp endless⟩
  · intro unending
    exact (parse_twins tokens unending.inner unending.repeats).mpr unending.exhausted

/-- A number of turns is found with which parsing comes to a literal or a complaint, except where a sign or a string
comes last, with no end, and is taken; and what parsing comes to with any number of turns is what the parser comes to. -/
theorem parsing_ends_iff (tokens : List Token) :
    ((∃ turns outcome, Walk.parse turns tokens = some outcome) ↔ ¬ Unending tokens) ∧
    ∀ turns outcome, Walk.parse turns tokens = some outcome → Walk.outcome? (parse tokens) = some outcome := by
  have ended (turns : Nat) (outcome : Except (Located ParseFault) Literal)
      (walked : Walk.parse turns tokens = some outcome) := Walk.parse_some turns tokens outcome walked
  rw [← parse_endless_iff]
  refine ⟨⟨?_,fun ends => ?_⟩,ended⟩
  · rintro ⟨turns,outcome,walked⟩ endless
    have same := ended turns outcome walked
    rw [endless] at same
    cases same
  · have walked := Walk.parse_enough (tokens.length + 1) tokens (Nat.lt_succ_self _)
    cases parsed : parse tokens with
    | ok found =>
      rw [parsed] at walked
      exact ⟨_,_,walked⟩
    | error halt =>
      cases halt with
      | fault found =>
        rw [parsed] at walked
        exact ⟨_,_,walked⟩
      | endless => exact absurd parsed ends

/-- A single sign is taken again and again, whatever the number of turns. -/
theorem sign_endless : ¬ ∃ turns outcome, Walk.parse turns [⟨.mark .minus, ⟨0, 1⟩⟩] = some outcome := by
  rintro ⟨turns,outcome,walked⟩
  have same := Walk.parse_some turns _ outcome walked
  cases same

end Parser
end Proctor.Literal
