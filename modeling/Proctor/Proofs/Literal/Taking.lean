import Proctor.Proofs.Literal.Grammar
import Proctor.Proofs.State

/-! Running parsers on tokens, and what it means that a parser follows the grammar: what it takes is
derivable, and it takes what is derivable. -/
namespace Proctor.Literal.Parser
open Grammar State

variable {α β : Type}

/-! ### Running a parser -/

@[simp] theorem fail_run (fault : ParseFault) (span : Span) (tokens : List Token) :
    (fail fault span : Parser α) tokens = .error (.fault ⟨fault, span⟩) := rfl

@[simp] theorem bound_run (tokens : List Token) :
    bound tokens = .ok (tokens.length + 2, tokens) := rfl

@[simp] theorem peek_cons (last token : Token) (rest : List Token) :
    peek last (token :: rest) = .ok (token, token :: rest) := rfl

theorem advance_cons (last token : Token) (rest : List Token) (inside : token.what ≠ .finish) :
    advance last (token :: rest) = .ok (token, rest) := by
  simp [advance, inside]

theorem accept_cons (last token : Token) (rest : List Token) (mark : Mark) :
    accept last mark (token :: rest) =
      if token.what = .mark mark then .ok (true, rest) else .ok (false, token :: rest) := by
  unfold accept
  rw [bind_of_ok _ _ _ _ _ (peek_cons last token rest)]
  split
  · next found =>
    rw [bind_of_ok _ _ _ _ _ (advance_cons last token rest (by simp [found]))]
    rfl
  · rfl

theorem expect_cons (last token : Token) (rest : List Token) (mark : Mark)
    (fault : Kind → ParseFault) :
    expect last mark fault (token :: rest) =
      if token.what = .mark mark then .ok ((), rest)
      else .error (.fault ⟨fault token.what, token.span⟩) := by
  unfold expect
  rw [bind_of_ok _ _ _ _ _ (peek_cons last token rest)]
  split
  · next found =>
    rw [bind_of_ok _ _ _ _ _ (advance_cons last token rest (by simp [found]))]
    rfl
  · rfl

/-! ### Sequences that end -/

def Inner (tokens : List Token) : Prop := ∀ token ∈ tokens, token.what ≠ .finish

theorem Inner.right {front rest : List Token} (inner : Inner (front ++ rest)) : Inner rest :=
  fun token member => inner token (List.mem_append_right _ member)

theorem Inner.tail {token : Token} {rest : List Token} (inner : Inner (token :: rest)) :
    Inner rest :=
  fun other member => inner other (List.mem_cons_of_mem _ member)

def kinds (tokens : List Token) : List Kind := tokens.map (·.what)

@[simp] theorem kinds_nil : kinds [] = [] := rfl

@[simp] theorem kinds_cons (token : Token) (rest : List Token) :
    kinds (token :: rest) = token.what :: kinds rest := rfl

@[simp] theorem kinds_append (front rest : List Token) :
    kinds (front ++ rest) = kinds front ++ kinds rest := List.map_append

/-- Whatever the parser takes from before the end is derivable. -/
def Sound (last : Token) (p : Parser α) (derivable : List Kind → α → Prop) : Prop :=
  ∀ front a out, Inner front → p (front ++ [last]) = .ok (a, out) →
    ∃ used rest, front = used ++ rest ∧ out = rest ++ [last] ∧ derivable (kinds used) a

def Ready (tokens : List Token) : Prop :=
  ∃ token rest, tokens = token :: rest ∧ token.what.text? = none ∧ token.what.bytes? = none

/-- The parser takes whatever is derivable. -/
def Complete (p : Parser α) (derivable : List Kind → α → Prop) : Prop :=
  ∀ used tail a, derivable (kinds used) a → Ready tail → p (used ++ tail) = .ok (a, tail)

theorem split_append {tokens : List Token} {first second : List Kind}
    (same : kinds tokens = first ++ second) :
    ∃ front rest, tokens = front ++ rest ∧ kinds front = first ∧ kinds rest = second :=
  List.map_eq_append_iff.mp same

theorem split_cons {tokens : List Token} {kind : Kind} {others : List Kind}
    (same : kinds tokens = kind :: others) :
    ∃ token rest, tokens = token :: rest ∧ token.what = kind ∧ kinds rest = others :=
  List.map_eq_cons_iff.mp same

theorem kinds_one {tokens : List Token} {kind : Kind} (same : kinds tokens = [kind]) :
    ∃ token, tokens = [token] ∧ token.what = kind := by
  obtain ⟨token,rest,rfl,rfl,empty⟩ := split_cons same
  obtain rfl := List.map_eq_nil_iff.mp empty
  exact ⟨token,rfl,rfl⟩

theorem split_pair {tokens : List Token} {first second : Kind} (same : kinds tokens = [first, second]) :
    ∃ opening closing, tokens = [opening, closing] ∧ opening.what = first ∧ closing.what = second := by
  obtain ⟨opening,rest,rfl,opens,same⟩ := split_cons same
  obtain ⟨closing,rfl,closes⟩ := kinds_one same
  exact ⟨opening,closing,rfl,opens,closes⟩

theorem split_enclosed {tokens : List Token} {first last : Kind} {inner : List Kind}
    (same : kinds tokens = first :: (inner ++ [last])) :
    ∃ opening middle closing, tokens = opening :: (middle ++ [closing]) ∧ opening.what = first ∧
      kinds middle = inner ∧ closing.what = last := by
  obtain ⟨opening,rest,rfl,opens,same⟩ := split_cons same
  obtain ⟨middle,close,rfl,inner_eq,same⟩ := split_append same
  obtain ⟨closing,rfl,closes⟩ := kinds_one same
  exact ⟨opening,middle,closing,rfl,opens,inner_eq,closes⟩

/-! ### Constructs and numbers -/

theorem isCallable_cases (name : String) (callable : isCallable name = true) :
    IsSet name ∨ name = "dict" := by
  simpa [isCallable,IsSet] using callable

def Opening.kinds : Opening → List Kind
  | .list => [.mark .listOpen]
  | .paren => [.mark .parenOpen]
  | .brace => [.mark .braceOpen]
  | .call name => [.ident name, .mark .parenOpen]

def Opening.Known : Opening → Prop
  | .call name => isCallable name = true
  | _ => True

def SoundAt (last : Token) (opens : List Kind) (p : Parser Literal)
    (derivable : List Kind → Literal → Prop) : Prop :=
  ∀ opened front a out, kinds opened = opens → Inner front →
    p (opened ++ (front ++ [last])) = .ok (a, out) →
    ∃ used rest, front = used ++ rest ∧ out = rest ++ [last] ∧ derivable (opens ++ kinds used) a

def Reads (part? : Kind → Option α) (make : α → Kind) : Prop :=
  ∀ kind a, part? kind = some a ↔ kind = make a

theorem reads_text : Reads Kind.text? .text := by
  intro kind a
  cases kind <;> simp [Kind.text?]

theorem reads_bytes : Reads Kind.bytes? .bytes := by
  intro kind a
  cases kind <;> simp [Kind.bytes?]

theorem negated_eq_opposite (n : Int) : negated n = opposite (.int n) := by
  have same : (-n ≤ maxInt) ↔ ¬ n < -maxInt := by omega
  unfold negated opposite
  simp only [same]
  by_cases beyond : n < -maxInt
  · have negative : n < 0 := by
      simp only [maxInt] at beyond
      omega
    have positive : ¬ 0 < n := by omega
    simp [beyond,Binary64.ofInt,Binary64.neg_ofRatio,negative,positive]
  · simp [beyond]

end Proctor.Literal.Parser
