import Proctor.Proofs.Literal.Taking

/-! Where parsers stop. What a parser leaves is the end of what it had, and what it complains of stands where a
token stood that it saw. Only a sign or a string that is the last token of all can keep it going for ever, and only
if no token marks the end. -/
namespace Proctor.Literal

def Kind.repeats : Kind → Bool
  | .mark .plus => true
  | .mark .minus => true
  | .text _ => true
  | .bytes _ => true
  | _ => false

namespace Parser
open State

variable {α β : Type}

def Seen (last : Token) (all : List Token) (token : Token) : Prop := token ∈ all ∨ token = last

/-- How a parser stops that had some tokens left of a sequence. -/
inductive Stays (last : Token) (all : List Token) (R : α → Prop) (tokens : List Token) :
    Except Halt (α × List Token) → Prop
  | ok (a : α) (rest : List Token) (result : R a) (left : rest <:+ tokens) (unended : Inner rest → Inner tokens) :
      Stays last all R tokens (.ok (a, rest))
  | fault (found : Located ParseFault) (token : Token) (seen : Seen last all token)
      (place : found.span = token.span) : Stays last all R tokens (.error (.fault found))
  | endless (repeats : last.what.repeats = true) (unended : Inner tokens) : Stays last all R tokens (.error .endless)

/-- Wherever in the sequence the parser is, it stops in one of these ways. -/
def Staying (last : Token) (all : List Token) (R : α → Prop) (p : Parser α) : Prop :=
  ∀ tokens, tokens <:+ all → Stays last all R tokens (p tokens)

section
variable {last : Token} {all : List Token}

theorem Stays.later {R : α → Prop} {token : Token} {rest : List Token} {outcome : Except Halt (α × List Token)}
    (stays : Stays last all R rest outcome) (inside : token.what ≠ .finish) :
    Stays last all R (token :: rest) outcome := by
  have inner : Inner rest → Inner (token :: rest) := fun others => List.forall_mem_cons.mpr ⟨inside,others⟩
  cases stays with
  | ok a others result left unended =>
    exact .ok a others result (left.trans (List.suffix_cons token rest)) fun ended => inner (unended ended)
  | fault found other seen place => exact .fault found other seen place
  | endless repeats unended => exact .endless repeats (inner unended)

private theorem staying_pure {R : α → Prop} {a : α} (result : R a) : Staying last all R (pure a) :=
  fun tokens _ => .ok a tokens result List.suffix_rfl id

private theorem staying_fail {R : α → Prop} (fault : ParseFault) (token : Token) (seen : Seen last all token) :
    Staying last all R (fail fault token.span) := fun _ _ => .fault _ token seen rfl

theorem Staying.bind {R : α → Prop} {S : β → Prop} {p : Parser α} {f : α → Parser β}
    (first : Staying last all R p) (next : ∀ a, R a → Staying last all S (f a)) : Staying last all S (p >>= f) := by
  intro tokens within
  have begun := first tokens within
  generalize taken : p tokens = outcome at begun
  cases begun with
  | ok a rest result left unended =>
    rw [bind_of_ok p f tokens rest a taken]
    have ended := next a result rest (left.trans within)
    generalize f a rest = outcome at ended
    cases ended with
    | ok b others result later inner =>
      exact .ok b others result (later.trans left) fun ended => unended (inner ended)
    | fault found token seen place => exact .fault found token seen place
    | endless repeats inner => exact .endless repeats (unended inner)
  | fault found token seen place =>
    rw [bind_of_error p f tokens _ taken]
    exact .fault found token seen place
  | endless repeats unended =>
    rw [bind_of_error p f tokens _ taken]
    exact .endless repeats unended

theorem Staying.after {R : α → Prop} {S : β → Prop} {p : Parser α} {f : α → Parser β}
    (first : Staying last all R p) (next : ∀ a, Staying last all S (f a)) : Staying last all S (p >>= f) :=
  first.bind fun a _ => next a

theorem Staying.branch {R : α → Prop} {yes no : Parser α} (c : Prop) [Decidable c] (left : Staying last all R yes)
    (right : Staying last all R no) : Staying last all R (if c then yes else no) := by
  split
  · exact left
  · exact right

/-! ### Single tokens -/

theorem peek_run (last : Token) (tokens : List Token) : peek last tokens = .ok (tokens.headD last, tokens) := rfl

private theorem headD_seen (last : Token) (tokens : List Token) (within : tokens <:+ all) :
    Seen last all (tokens.headD last) := by
  cases tokens with
  | nil => exact .inr rfl
  | cons token rest => exact .inl (within.subset List.mem_cons_self)

private theorem peek_stays : Staying last all (Seen last all) (peek last) :=
  fun tokens within => .ok _ tokens (headD_seen last tokens within) List.suffix_rfl id

private theorem peekSecond_stays : Staying last all (Seen last all) (peekSecond last) :=
  fun tokens within => .ok _ tokens (headD_seen last _ ((List.tail_suffix tokens).trans within)) List.suffix_rfl id

private theorem advance_stays : Staying last all (Seen last all) (advance last) := by
  intro tokens within
  have seen := headD_seen last tokens within
  unfold advance
  dsimp only
  split
  · exact .ok _ tokens seen List.suffix_rfl id
  · next inside =>
    refine .ok _ tokens.tail seen (List.tail_suffix tokens) fun inner => ?_
    cases tokens with
    | nil => exact inner
    | cons token rest => exact List.forall_mem_cons.mpr ⟨inside,inner⟩

private theorem accept_stays (mark : Mark) : Staying last all (fun _ => True) (accept last mark) := by
  refine peek_stays.after fun token => .branch _ ?_ (staying_pure trivial)
  exact advance_stays.after fun _ => staying_pure trivial

private theorem expect_stays (mark : Mark) (fault : Kind → ParseFault) :
    Staying last all (fun _ => True) (expect last mark fault) := by
  refine peek_stays.bind fun token seen => .branch _ ?_ (staying_fail _ token seen)
  exact advance_stays.after fun _ => staying_pure trivial

private theorem bound_stays : Staying last all (fun _ => True) bound :=
  fun tokens _ => .ok _ tokens trivial List.suffix_rfl id

/-! ### Numbers and strings -/

private theorem signs_stays (negative : Bool) : Staying last all (fun _ => True) (signs last negative) := by
  intro tokens
  induction tokens generalizing negative with
  | nil =>
    intro _
    unfold signs
    split
    · next sign =>
      refine .endless ?_ (List.forall_mem_nil _)
      rcases sign with same | same <;> rw [same] <;> rfl
    · exact .ok _ [] trivial List.suffix_rfl id
  | cons token rest ih =>
    intro within
    have later := (List.suffix_cons token rest).trans within
    unfold signs
    split
    · next minus => exact (ih _ later).later (by simp [minus])
    split
    · next plus => exact (ih _ later).later (by simp [plus])
    · exact .ok _ _ trivial List.suffix_rfl id

private theorem numeral_stays (negative : Bool) (token : Token) (seen : Seen last all token) :
    Staying last all (fun _ => True) (numeral negative token) := by
  unfold numeral
  split
  · exact staying_pure trivial
  · exact staying_pure trivial
  · split
    · exact staying_pure trivial
    · exact staying_fail _ token seen
  · exact staying_fail _ token seen

private theorem number_stays : Staying last all (fun _ => True) (number last) :=
  (signs_stays false).after fun negative => advance_stays.bind fun token seen => numeral_stays negative token seen

private theorem parts_stays (part? : Kind → Option α)
    (repeated : ∀ kind, (part? kind).isSome → kind.repeats = true) :
    Staying last all (fun _ => True) (parts last part?) := by
  intro tokens
  induction tokens with
  | nil =>
    intro _
    unfold parts
    split
    · next more => exact .endless (repeated _ more) (List.forall_mem_nil _)
    · exact .ok _ [] trivial List.suffix_rfl id
  | cons token rest ih =>
    intro within
    have later := ih ((List.suffix_cons token rest).trans within)
    unfold parts
    split
    · next part isPart =>
      have inside : token.what ≠ .finish := by
        intro ended
        have marks := repeated token.what (by simp [isPart])
        rw [ended] at marks
        cases marks
      generalize parts last part? rest = outcome at later
      cases later with
      | ok found others result left unended =>
        exact (Stays.ok (part :: found) others trivial left unended).later inside
      | fault found other seen place => exact .fault found other seen place
      | endless repeats unended => exact (Stays.endless repeats unended).later inside
    · exact .ok _ _ trivial List.suffix_rfl id

theorem text_repeats (kind : Kind) (isText : kind.text?.isSome) : kind.repeats = true := by
  cases kind with
  | text value => rfl
  | _ => cases isText

theorem bytes_repeats (kind : Kind) (isBytes : kind.bytes?.isSome) : kind.repeats = true := by
  cases kind with
  | bytes value => rfl
  | _ => cases isBytes

private theorem texts_stays : Staying last all (fun _ => True) (texts last) := by
  refine (parts_stays Kind.text? text_repeats).after fun found => ?_
  exact peek_stays.bind fun token seen => .branch _ (staying_fail _ token seen) (staying_pure trivial)

private theorem byteStrings_stays : Staying last all (fun _ => True) (byteStrings last) := by
  refine (parts_stays Kind.bytes? bytes_repeats).after fun found => ?_
  exact peek_stays.bind fun token seen => .branch _ (staying_fail _ token seen) (staying_pure trivial)

/-! ### Containers -/

section
variable {value : Parser Literal} (inside : Staying last all (fun _ => True) value)
include inside

private theorem values_stays (close : Mark) (bound : Nat) :
    Staying last all (fun _ => True) (values last value close bound) := by
  induction bound with
  | zero => exact staying_pure trivial
  | succ bound ih =>
    unfold values
    refine peek_stays.after fun token => .branch _ (staying_pure trivial) ?_
    refine inside.after fun first => (accept_stays .comma).after fun comma => .branch _ ?_ (staying_pure trivial)
    exact ih.after fun others => staying_pure trivial

private theorem items_stays (close : Mark) (what : Closing) :
    Staying last all (fun _ => True) (items last value close what) := by
  refine bound_stays.after fun bound => (values_stays inside close bound).after fun found => ?_
  exact (expect_stays close _).after fun _ => staying_pure trivial

private theorem list_stays : Staying last all (fun _ => True) (list last value) :=
  advance_stays.after fun _ => (items_stays inside _ _).after fun _ => staying_pure trivial

private theorem paren_stays : Staying last all (fun _ => True) (paren last value) := by
  refine advance_stays.after fun _ => (accept_stays _).after fun empty => .branch _ (staying_pure trivial) ?_
  refine inside.after fun first => (accept_stays _).after fun group => .branch _ (staying_pure trivial) ?_
  exact (expect_stays _ _).after fun _ => (items_stays inside _ _).after fun _ => staying_pure trivial

private theorem entries_stays (bound : Nat) : Staying last all (fun _ => True) (entries last value bound) := by
  induction bound with
  | zero => exact staying_pure trivial
  | succ bound ih =>
    unfold entries
    refine (accept_stays _).after fun comma => .branch _ (staying_pure trivial) ?_
    refine peek_stays.after fun token => .branch _ (staying_pure trivial) ?_
    refine inside.after fun key => (expect_stays _ _).after fun _ => inside.after fun content => ?_
    exact ih.after fun others => staying_pure trivial

private theorem brace_stays : Staying last all (fun _ => True) (brace last value) := by
  refine advance_stays.after fun _ => (accept_stays _).after fun empty => .branch _ (staying_pure trivial) ?_
  refine inside.after fun first => (accept_stays _).after fun colon => .branch _ ?_ ?_
  · refine inside.after fun content => bound_stays.after fun bound => ?_
    exact (entries_stays inside bound).after fun others => (expect_stays _ _).after fun _ => staying_pure trivial
  · refine (accept_stays _).after fun comma => .branch _ ?_ ((expect_stays _ _).after fun _ => staying_pure trivial)
    exact (items_stays inside _ _).after fun _ => staying_pure trivial

omit inside in
private theorem applied_stays (name : String) (callee : Token) (seen : Seen last all callee)
    (argument : Literal) :
    Staying last all (fun _ => True) (applied name callee.span argument) := by
  refine .branch _ ?_ ?_
  · cases argument with
    | dict found => exact staying_pure trivial
    | _ => exact staying_fail _ callee seen
  · cases argument with
    | list found | tuple found | set found | dict found => exact staying_pure trivial
    | _ => exact staying_fail _ callee seen

private theorem call_stays (name : String) : Staying last all (fun _ => True) (call last value name) := by
  refine advance_stays.bind fun callee seen => advance_stays.after fun _ => ?_
  refine (accept_stays _).after fun empty => .branch _ (staying_pure trivial) ?_
  refine inside.after fun argument => (accept_stays _).after fun comma => (expect_stays _ _).after fun _ => ?_
  exact applied_stays name callee seen argument

private theorem construct_stays (opening : Opening) :
    Staying last all (fun _ => True) (construct last value opening) := by
  cases opening with
  | list => exact list_stays inside
  | paren => exact paren_stays inside
  | brace => exact brace_stays inside
  | call name => exact call_stays inside name

end

/-! ### Values -/

private theorem valueWith_stays {nested : Opening → Parser Literal}
    (inside : ∀ opening, Staying last all (fun _ => True) (nested opening)) :
    Staying last all (fun _ => True) (valueWith last nested) := by
  refine peek_stays.bind fun token seen => ?_
  cases token.what with
  | null | bool b => exact advance_stays.after fun _ => staying_pure trivial
  | int n | float x => exact number_stays
  | text s => exact texts_stays
  | bytes b => exact byteStrings_stays
  | ident name =>
    refine .branch _ number_stays (peekSecond_stays.after fun second => .branch _ (inside _) ?_)
    exact staying_fail _ token seen
  | mark sign =>
    cases sign with
    | plus | minus => exact number_stays
    | listOpen => exact inside .list
    | parenOpen => exact inside .paren
    | braceOpen => exact inside .brace
    | _ => exact staying_fail _ token seen
  | finish => exact staying_fail _ token seen

theorem value_stays (room : Nat) : Staying last all (fun _ => True) (value last room) := by
  induction room with
  | zero => exact valueWith_stays fun opening => peek_stays.bind fun token seen => staying_fail _ token seen
  | succ room ih => exact valueWith_stays (construct_stays ih)

private theorem whole_stays (last : Token) (all : List Token) : Staying last all (fun _ => True)
    (whole last) := by
  refine (value_stays maxNesting).after fun found => ?_
  exact peek_stays.bind fun token seen => .branch _ (staying_pure trivial) (staying_fail _ token seen)

end

/-! ### Whole sequences -/

/-- A complaint is about a token of the sequence, or about the end of one that holds none. -/
theorem parse_fault (tokens : List Token) (found : Located ParseFault)
    (stopped : parse tokens = .error (.fault found)) :
    ∃ token, Seen (tokens.getLast?.getD noToken) tokens token ∧ found.span = token.span := by
  have stays := whole_stays (tokens.getLast?.getD noToken) tokens tokens List.suffix_rfl
  unfold parse StateT.run at stopped
  generalize whole (tokens.getLast?.getD noToken) tokens = outcome at stays stopped
  cases stays with
  | ok | endless => cases stopped
  | fault _ token seen place =>
    cases stopped
    exact ⟨token,seen,place⟩

/-- Only a sequence that ends in a sign or a string, with no end anywhere, is parsed for ever. -/
theorem parse_endless (tokens : List Token) (stopped : parse tokens = .error .endless) :
    (tokens.getLast?.getD noToken).what.repeats = true ∧ Inner tokens := by
  have stays := whole_stays (tokens.getLast?.getD noToken) tokens tokens List.suffix_rfl
  unfold parse StateT.run at stopped
  generalize whole (tokens.getLast?.getD noToken) tokens = outcome at stays stopped
  cases stays with
  | ok | fault => cases stopped
  | endless repeats unended => exact ⟨repeats,unended⟩

end Parser
end Proctor.Literal
