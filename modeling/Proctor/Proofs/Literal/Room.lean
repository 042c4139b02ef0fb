import Proctor.Proofs.Literal.Parsing

/-! How much room a parser has for nested values decides one thing only: whether it complains that they
nest too deep. -/
namespace Proctor.Literal.Parser
open Grammar State

variable {α β : Type}

/-- The same outcome, unless the first parser finds that values nest too deep. -/
private def Refines (p q : Parser α) : Prop :=
  ∀ tokens, p tokens = q tokens ∨ ∃ span, p tokens = .error (.fault ⟨.tooDeep, span⟩)

theorem Refines.refl (p : Parser α) : Refines p p := fun _ => .inl rfl

theorem Refines.bind {p q : Parser α} {f g : α → Parser β} (first : Refines p q)
    (next : ∀ a, Refines (f a) (g a)) : Refines (p >>= f) (q >>= g) := by
  intro tokens
  rcases first tokens with same | ⟨span,deep⟩
  · cases result : q tokens with
    | error halt =>
      left
      rw [bind_of_error p f tokens halt (same.trans result),bind_of_error q g tokens halt result]
    | ok pair =>
      obtain ⟨a,rest⟩ := pair
      rw [bind_of_ok p f tokens rest a (same.trans result),bind_of_ok q g tokens rest a result]
      exact next a rest
  · exact .inr ⟨span,bind_of_error p f tokens _ deep⟩

theorem Refines.after (p : Parser α) {f g : α → Parser β} (next : ∀ a, Refines (f a) (g a)) :
    Refines (p >>= f) (p >>= g) :=
  (Refines.refl p).bind next

theorem Refines.branch {yes yes' no no' : Parser α} (c : Prop) [Decidable c] (left : Refines yes yes')
    (right : Refines no no') : Refines (if c then yes else no) (if c then yes' else no') := by
  split
  · exact left
  · exact right

section
variable (last : Token) {value more : Parser Literal} (refines : Refines value more)
include refines

private theorem values_refines (close : Mark) (bound : Nat) :
    Refines (values last value close bound) (values last more close bound) := by
  induction bound with
  | zero => exact .refl _
  | succ bound ih =>
    unfold values
    refine .after _ fun token => .branch _ (.refl _) ?_
    refine .bind refines fun first => .after _ fun comma => .branch _ ?_ (.refl _)
    exact .bind ih fun others => .refl _

private theorem items_refines (close : Mark) (what : Closing) :
    Refines (items last value close what) (items last more close what) :=
  .after _ fun _ => .bind (values_refines last refines close _) fun _ => .refl _

private theorem list_refines : Refines (list last value) (list last more) :=
  .after _ fun _ => .bind (items_refines last refines _ _) fun _ => .refl _

private theorem paren_refines : Refines (paren last value) (paren last more) := by
  refine .after _ fun _ => .after _ fun empty => .branch _ (.refl _) ?_
  refine .bind refines fun first => .after _ fun group => .branch _ (.refl _) ?_
  exact .after _ fun _ => .bind (items_refines last refines _ _) fun _ => .refl _

private theorem entries_refines (bound : Nat) :
    Refines (entries last value bound) (entries last more bound) := by
  induction bound with
  | zero => exact .refl _
  | succ bound ih =>
    unfold entries
    refine .after _ fun comma => .branch _ (.refl _) ?_
    refine .after _ fun token => .branch _ (.refl _) ?_
    refine .bind refines fun key => .after _ fun _ => .bind refines fun content => ?_
    exact .bind ih fun others => .refl _

private theorem brace_refines : Refines (brace last value) (brace last more) := by
  refine .after _ fun _ => .after _ fun empty => .branch _ (.refl _) ?_
  refine .bind refines fun first => .after _ fun colon => .branch _ ?_ ?_
  · refine .bind refines fun content => .after _ fun bound => ?_
    exact .bind (entries_refines last refines bound) fun others => .refl _
  · refine .after _ fun comma => .branch _ ?_ (.refl _)
    exact .bind (items_refines last refines _ _) fun others => .refl _

private theorem call_refines (name : String) : Refines (call last value name) (call last more name) := by
  refine .after _ fun callee => .after _ fun _ => .after _ fun empty => .branch _ (.refl _) ?_
  exact .bind refines fun argument => .refl _

private theorem construct_refines (opening : Opening) :
    Refines (construct last value opening) (construct last more opening) := by
  cases opening with
  | list => exact list_refines last refines
  | paren => exact paren_refines last refines
  | brace => exact brace_refines last refines
  | call name => exact call_refines last refines name

end

private theorem valueWith_refines (last : Token) {nested more : Opening → Parser Literal}
    (refines : ∀ opening, Refines (nested opening) (more opening)) :
    Refines (valueWith last nested) (valueWith last more) := by
  refine .after _ fun token => ?_
  cases token.what with
  | null => exact .refl _
  | bool b => exact .refl _
  | int n => exact .refl _
  | float x => exact .refl _
  | text s => exact .refl _
  | bytes b => exact .refl _
  | ident name =>
    refine .branch _ (.refl _) (.after _ fun second => .branch _ (refines _) (.refl _))
  | mark sign =>
    cases sign with
    | listOpen => exact refines .list
    | parenOpen => exact refines .paren
    | braceOpen => exact refines .brace
    | _ => exact .refl _
  | finish => exact .refl _

private theorem value_refines (last : Token) (room more : Nat) (le : room ≤ more) :
    Refines (value last room) (value last more) := by
  induction room generalizing more with
  | zero =>
    have deep (p : Parser Literal) : Refines (do fail .tooDeep (← peek last).span) p :=
      fun tokens => .inr ⟨_,rfl⟩
    cases more with
    | zero => exact .refl _
    | succ more => exact valueWith_refines last fun opening => deep _
  | succ room ih =>
    cases more with
    | zero => omega
    | succ more => exact valueWith_refines last (construct_refines last (ih more (by omega)))

/-- Tokens that denote a value, but with too many constructs open at once, are refused for that. -/
theorem parse_tooDeep (tokens : List Token) (finish : Token) (inner : Inner tokens)
    (ended : finish.what = .finish) (a : Literal) (room : Nat) (derived : Value room (kinds tokens) a)
    (deep : ¬ Value maxNesting (kinds tokens) a) :
    ∃ span, parse (tokens ++ [finish]) = .error (.fault ⟨.tooDeep, span⟩) := by
  have le : maxNesting ≤ room :=
    Nat.le_of_not_le fun less => deep (value_mono room maxNesting less _ a derived)
  have taken := value_complete finish room tokens [finish] a derived (ready_finish finish ended)
  rcases value_refines finish maxNesting room le (tokens ++ [finish]) with same | ⟨span,refused⟩
  · have parsed := parse_of_taken tokens finish ended a (same.trans taken)
    exact absurd (value_of_parse tokens finish inner ended a parsed) deep
  · refine ⟨span,?_⟩
    have all : whole finish (tokens ++ [finish]) = .error (.fault ⟨.tooDeep, span⟩) :=
      bind_of_error _ _ _ _ refused
    unfold parse
    rw [List.getLast?_concat,Option.getD_some,StateT.run,all]
    rfl

end Proctor.Literal.Parser
