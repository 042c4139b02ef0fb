import Proctor.Literal.Diagnostic
import Proctor.Proofs.Literal.Taking

/-! Parsing does not depend on where tokens stand: on tokens of the same kinds it comes to the same value,
or to the same fault at another place. -/
namespace Proctor.Literal

def Halt.what? : Halt → Option ParseFault
  | .fault found => some found.what
  | .endless => none

namespace Parser
open State

variable {α β γ δ : Type}

/-! ### Outcomes -/

/-- Related values before tokens of the same kinds, or the same fault. -/
inductive Matching (R : α → β → Prop) :
    Except Halt (α × List Token) → Except Halt (β × List Token) → Prop
  | ok (a : α) (b : β) (rest others : List Token) (related : R a b) (left : kinds rest = kinds others) :
      Matching R (.ok (a, rest)) (.ok (b, others))
  | error (halt other : Halt) (same : halt.what? = other.what?) : Matching R (.error halt) (.error other)

/-- On tokens of the same kinds both parsers come to matching outcomes. -/
def Alike (R : α → β → Prop) (p : Parser α) (q : Parser β) : Prop :=
  ∀ tokens others, kinds tokens = kinds others → Matching R (p tokens) (q others)

private def SameKind (token other : Token) : Prop := token.what = other.what

private theorem alike_pure {R : α → β → Prop} {a : α} {b : β} (related : R a b) : Alike R (pure a) (pure b) :=
  fun tokens others same => .ok a b tokens others related same

private theorem alike_fail {R : α → β → Prop} (fault : ParseFault) (span other : Span) :
    Alike R (fail fault span) (fail fault other) :=
  fun _ _ _ => .error (.fault ⟨fault, span⟩) (.fault ⟨fault, other⟩) rfl

theorem Alike.bind {R : α → β → Prop} {S : γ → δ → Prop} {p : Parser α} {q : Parser β} {f : α → Parser γ}
    {g : β → Parser δ} (first : Alike R p q) (next : ∀ a b, R a b → Alike S (f a) (g b)) :
    Alike S (p >>= f) (q >>= g) := by
  intro tokens others same
  have outcomes := first tokens others same
  generalize taken : p tokens = outcome at outcomes
  generalize given : q others = twin at outcomes
  cases outcomes with
  | ok a b rest left related kept =>
    rw [bind_of_ok p f tokens rest a taken,bind_of_ok q g others left b given]
    exact next a b related rest left kept
  | error halt other fault =>
    rw [bind_of_error p f tokens halt taken,bind_of_error q g others other given]
    exact .error halt other fault

private theorem Alike.bind_eq {S : γ → δ → Prop} {p q : Parser α} {f : α → Parser γ} {g : α → Parser δ}
    (first : Alike Eq p q) (next : ∀ a, Alike S (f a) (g a)) : Alike S (p >>= f) (q >>= g) :=
  first.bind fun a _ same => same ▸ next a

theorem Alike.branch {R : α → β → Prop} {yes no : Parser α} {yes' no' : Parser β} {c d : Prop} [Decidable c]
    [Decidable d] (same : c ↔ d) (left : Alike R yes yes') (right : Alike R no no') :
    Alike R (if c then yes else no) (if d then yes' else no') := by
  by_cases holds : d
  · rw [if_pos holds,if_pos (same.mpr holds)]
    exact left
  · rw [if_neg holds,if_neg (mt same.mp holds)]
    exact right

/-! ### Single tokens -/

private theorem kinds_tail (tokens others : List Token) (same : kinds tokens = kinds others) :
    kinds tokens.tail = kinds others.tail := by
  rw [kinds,kinds,List.map_tail,List.map_tail]
  exact congrArg List.tail same

section
variable {last final : Token} (ends : SameKind last final)
include ends

private theorem headD_kind (tokens others : List Token) (same : kinds tokens = kinds others) :
    SameKind (tokens.headD last) (others.headD final) := by
  cases tokens with
  | nil =>
    obtain rfl := List.map_eq_nil_iff.mp same.symm
    exact ends
  | cons token rest =>
    obtain ⟨other,left,rfl,kind,_⟩ := split_cons same.symm
    exact kind.symm

private theorem peek_alike : Alike SameKind (peek last) (peek final) :=
  fun tokens others same => .ok _ _ tokens others (headD_kind ends tokens others same) same

private theorem peekSecond_alike : Alike SameKind (peekSecond last) (peekSecond final) :=
  fun tokens others same => .ok _ _ tokens others
    (headD_kind ends _ _ (kinds_tail tokens others same)) same

private theorem advance_alike : Alike SameKind (advance last) (advance final) := by
  intro tokens others same
  have first := headD_kind ends tokens others same
  refine .ok _ _ _ _ first ?_
  rw [← first]
  split
  · exact same
  · exact kinds_tail tokens others same

private theorem accept_alike (mark : Mark) : Alike Eq (accept last mark) (accept final mark) := by
  refine (peek_alike ends).bind fun token other kind => .branch (by rw [kind]) ?_ (alike_pure rfl)
  exact (advance_alike ends).bind fun _ _ _ => alike_pure rfl

private theorem expect_alike (mark : Mark) (fault : Kind → ParseFault) :
    Alike Eq (expect last mark fault) (expect final mark fault) := by
  refine (peek_alike ends).bind fun token other kind => .branch (by rw [kind]) ?_ ?_
  · exact (advance_alike ends).bind fun _ _ _ => alike_pure rfl
  · rw [kind]
    exact alike_fail _ _ _

omit ends in
private theorem bound_alike : Alike Eq bound bound := by
  intro tokens others same
  have length := congrArg List.length same
  simp only [kinds,List.length_map] at length
  exact .ok _ _ tokens others (by rw [length]) same

/-! ### Numbers and strings -/

private theorem signs_alike (negative : Bool) : Alike Eq (signs last negative) (signs final negative) := by
  intro tokens others same
  induction tokens generalizing others negative with
  | nil =>
    obtain rfl := List.map_eq_nil_iff.mp same.symm
    unfold signs
    rw [ends]
    split
    · exact .error .endless .endless rfl
    · exact .ok _ _ [] [] rfl rfl
  | cons token rest ih =>
    obtain ⟨other,left,rfl,kind,kept⟩ := split_cons same.symm
    unfold signs
    rw [kind]
    split
    · exact ih _ left kept.symm
    split
    · exact ih _ left kept.symm
    · exact .ok _ _ _ _ rfl same

omit ends in
private theorem numeral_alike (negative : Bool) (token other : Token) (kind : SameKind token other) :
    Alike Eq (numeral negative token) (numeral negative other) := by
  unfold numeral
  rw [← kind]
  cases token.what with
  | int n => exact alike_pure rfl
  | float x => exact alike_pure rfl
  | ident name =>
    dsimp only
    cases namedNumber? name with
    | some x => exact alike_pure rfl
    | none => exact alike_fail _ _ _
  | _ => exact alike_fail _ _ _

private theorem number_alike : Alike Eq (number last) (number final) := by
  refine (signs_alike ends false).bind_eq fun negative => ?_
  exact (advance_alike ends).bind fun token other kind => numeral_alike negative token other kind

private theorem parts_alike {α : Type} (part? : Kind → Option α) : Alike Eq (parts last part?)
    (parts final part?) := by
  intro tokens others same
  induction tokens generalizing others with
  | nil =>
    obtain rfl := List.map_eq_nil_iff.mp same.symm
    unfold parts
    rw [ends]
    split
    · exact .error .endless .endless rfl
    · exact .ok _ _ [] [] rfl rfl
  | cons token rest ih =>
    obtain ⟨other,left,rfl,kind,kept⟩ := split_cons same.symm
    unfold parts
    rw [kind]
    cases part? token.what with
    | none => exact .ok _ _ _ _ rfl same
    | some part =>
      have outcomes := ih left kept.symm
      dsimp only
      generalize parts last part? rest = outcome at *
      generalize parts final part? left = twin at *
      cases outcomes with
      | ok found _ rest others related kept =>
        subst related
        exact .ok _ _ _ _ rfl kept
      | error halt other fault => exact .error halt other fault

private theorem texts_alike : Alike Eq (texts last) (texts final) := by
  refine (parts_alike ends Kind.text?).bind_eq fun found => ?_
  refine (peek_alike ends).bind fun token other kind => .branch (by rw [kind]) ?_ (alike_pure rfl)
  exact alike_fail _ _ _

private theorem byteStrings_alike : Alike Eq (byteStrings last) (byteStrings final) := by
  refine (parts_alike ends Kind.bytes?).bind_eq fun found => ?_
  refine (peek_alike ends).bind fun token other kind => .branch (by rw [kind]) ?_ (alike_pure rfl)
  exact alike_fail _ _ _

/-! ### Containers -/

section
variable {value other : Parser Literal} (nested : Alike Eq value other)
include nested

private theorem values_alike (close : Mark) (bound : Nat) :
    Alike Eq (values last value close bound) (values final other close bound) := by
  induction bound with
  | zero => exact alike_pure rfl
  | succ bound ih =>
    unfold values
    refine (peek_alike ends).bind fun token twin kind => .branch (by rw [kind]) (alike_pure rfl) ?_
    refine nested.bind_eq fun first => ?_
    refine (accept_alike ends .comma).bind_eq fun comma => ?_
    exact .branch Iff.rfl (ih.bind_eq fun _ => alike_pure rfl) (alike_pure rfl)

private theorem items_alike (close : Mark) (what : Closing) :
    Alike Eq (items last value close what) (items final other close what) := by
  refine bound_alike.bind_eq fun bound => ?_
  refine (values_alike ends nested close bound).bind_eq fun found => ?_
  exact (expect_alike ends close _).bind fun _ _ _ => alike_pure rfl

private theorem list_alike : Alike Eq (list last value) (list final other) :=
  (advance_alike ends).bind fun _ _ _ =>
    (items_alike ends nested _ _).bind_eq fun _ => alike_pure rfl

private theorem paren_alike : Alike Eq (paren last value) (paren final other) := by
  refine (advance_alike ends).bind fun _ _ _ => (accept_alike ends _).bind_eq fun empty => ?_
  refine .branch Iff.rfl (alike_pure rfl) (nested.bind_eq fun first => ?_)
  refine (accept_alike ends _).bind_eq fun group => ?_
  refine .branch Iff.rfl (alike_pure rfl) ((expect_alike ends _ _).bind fun _ _ _ => ?_)
  exact (items_alike ends nested _ _).bind_eq fun _ => alike_pure rfl

private theorem entries_alike (bound : Nat) : Alike Eq (entries last value bound)
    (entries final other bound) := by
  induction bound with
  | zero => exact alike_pure rfl
  | succ bound ih =>
    unfold entries
    refine (accept_alike ends .comma).bind_eq fun comma => ?_
    refine .branch Iff.rfl (alike_pure rfl) ?_
    refine (peek_alike ends).bind fun token twin kind => .branch (by rw [kind]) (alike_pure rfl) ?_
    refine nested.bind_eq fun key => ?_
    refine (expect_alike ends _ _).bind fun _ _ _ => nested.bind_eq fun content => ?_
    exact ih.bind_eq fun _ => alike_pure rfl

private theorem brace_alike : Alike Eq (brace last value) (brace final other) := by
  refine (advance_alike ends).bind fun _ _ _ => (accept_alike ends _).bind_eq fun empty => ?_
  refine .branch Iff.rfl (alike_pure rfl) (nested.bind_eq fun first => ?_)
  refine (accept_alike ends _).bind_eq fun colon => ?_
  refine .branch Iff.rfl ?_ ?_
  · refine nested.bind_eq fun content => ?_
    refine bound_alike.bind_eq fun bound => ?_
    refine (entries_alike ends nested bound).bind_eq fun others => ?_
    exact (expect_alike ends _ _).bind fun _ _ _ => alike_pure rfl
  · refine (accept_alike ends _).bind_eq fun comma => ?_
    refine .branch Iff.rfl ?_ ((expect_alike ends _ _).bind fun _ _ _ => alike_pure rfl)
    exact (items_alike ends nested _ _).bind_eq fun _ => alike_pure rfl

omit ends nested in
private theorem applied_alike (name : String) (span twin : Span) (argument : Literal) :
    Alike Eq (applied name span argument) (applied name twin argument) := by
  refine .branch Iff.rfl ?_ ?_
  · cases argument with
    | dict found => exact alike_pure rfl
    | _ => exact alike_fail _ _ _
  · cases argument with
    | list found | tuple found | set found | dict found => exact alike_pure rfl
    | _ => exact alike_fail _ _ _

private theorem call_alike (name : String) : Alike Eq (call last value name) (call final other name) := by
  refine (advance_alike ends).bind fun callee twin _ => (advance_alike ends).bind fun _ _ _ => ?_
  refine (accept_alike ends _).bind_eq fun empty => ?_
  refine .branch Iff.rfl (alike_pure rfl) (nested.bind_eq fun argument => ?_)
  refine (accept_alike ends _).bind fun _ _ _ => (expect_alike ends _ _).bind fun _ _ _ => ?_
  exact applied_alike name callee.span twin.span argument

private theorem construct_alike (opening : Opening) :
    Alike Eq (construct last value opening) (construct final other opening) := by
  cases opening with
  | list => exact list_alike ends nested
  | paren => exact paren_alike ends nested
  | brace => exact brace_alike ends nested
  | call name => exact call_alike ends nested name

end

/-! ### Values -/

private theorem valueWith_alike {nested other : Opening → Parser Literal}
    (inside : ∀ opening, Alike Eq (nested opening) (other opening)) :
    Alike Eq (valueWith last nested) (valueWith final other) := by
  refine (peek_alike ends).bind fun token twin kind => ?_
  rw [← kind]
  cases token.what with
  | null => exact (advance_alike ends).bind fun _ _ _ => alike_pure rfl
  | bool b => exact (advance_alike ends).bind fun _ _ _ => alike_pure rfl
  | int n => exact number_alike ends
  | float x => exact number_alike ends
  | text s => exact texts_alike ends
  | bytes b => exact byteStrings_alike ends
  | ident name =>
    refine .branch Iff.rfl (number_alike ends) ?_
    refine (peekSecond_alike ends).bind fun second third kind => ?_
    exact .branch (by rw [kind]) (inside _) (alike_fail _ _ _)
  | mark sign =>
    cases sign with
    | plus | minus => exact number_alike ends
    | listOpen => exact inside .list
    | parenOpen => exact inside .paren
    | braceOpen => exact inside .brace
    | _ => exact alike_fail _ _ _
  | finish => exact alike_fail _ _ _

private theorem value_alike (room : Nat) : Alike Eq (value last room) (value final room) := by
  induction room with
  | zero =>
    -- Without room each bracket is refused where it opens.
    refine valueWith_alike ends fun _ => (peek_alike ends).bind fun _ _ _ => alike_fail _ _ _
  | succ room ih => exact valueWith_alike ends (construct_alike ends ih)

private theorem whole_alike : Alike Eq (whole last) (whole final) := by
  refine (value_alike ends maxNesting).bind_eq fun found => ?_
  refine (peek_alike ends).bind fun token twin kind => .branch (by rw [kind]) (alike_pure rfl) ?_
  rw [kind]
  exact alike_fail _ _ _

end

end Parser

/-! ### Whole sequences -/

private theorem last_kind (tokens others : List Token) (same : Parser.kinds tokens = Parser.kinds others) :
    Parser.SameKind (tokens.getLast?.getD noToken) (others.getLast?.getD noToken) := by
  have lasts := congrArg List.getLast? same
  simp only [Parser.kinds,List.getLast?_map] at lasts
  cases first : tokens.getLast? <;> cases second : others.getLast? <;>
    simp_all [Parser.SameKind]

theorem parse_alike (tokens others : List Token) (same : Parser.kinds tokens = Parser.kinds others) :
    (parse tokens).mapError Halt.what? = (parse others).mapError Halt.what? := by
  have outcomes := Parser.whole_alike (last_kind tokens others same) tokens others same
  unfold parse StateT.run
  generalize Parser.whole (tokens.getLast?.getD noToken) tokens = outcome at *
  generalize Parser.whole (others.getLast?.getD noToken) others = twin at *
  cases outcomes with
  | ok a b rest left related _ =>
    subst related
    rfl
  | error halt other fault =>
    exact congrArg Except.error fault

end Proctor.Literal
