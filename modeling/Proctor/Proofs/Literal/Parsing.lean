import Proctor.Proofs.Literal.Soundness
import Proctor.Proofs.Literal.Completeness

/-! Parsing a whole sequence of tokens accepts exactly the grammar of literals. -/
namespace Proctor.Literal.Parser
open Grammar State

theorem value_of_parse (tokens : List Token) (finish : Token) (inner : Inner tokens)
    (ended : finish.what = .finish) (a : Literal) (parsed : parse (tokens ++ [finish]) = .ok a) :
    Value maxNesting (kinds tokens) a := by
  unfold parse at parsed
  rw [List.getLast?_concat,Option.getD_some] at parsed
  cases taken : (whole finish).run (tokens ++ [finish]) with
  | error halt => simp [taken,Except.map] at parsed
  | ok pair =>
    rw [taken] at parsed
    cases parsed
    obtain ⟨found,_,valued,rest⟩ := (bind_ok _ _ _ _).mp taken
    obtain ⟨used,left,rfl,rfl,derived⟩ := value_sound ended maxNesting _ _ _ inner valued
    obtain ⟨token,_,peeked,rest⟩ := (bind_ok _ _ _ _).mp rest
    cases peeked
    split at rest
    · next isFinish =>
      cases rest
      cases left with
      | nil => simpa using derived
      | cons token left => exact absurd isFinish (inner.right token (by simp))
    · simp at rest

theorem ready_finish (finish : Token) (ended : finish.what = .finish) : Ready [finish] :=
  ⟨finish,[],rfl,by simp [ended,Kind.text?],by simp [ended,Kind.bytes?]⟩

theorem parse_of_taken (tokens : List Token) (finish : Token) (ended : finish.what = .finish)
    (a : Literal) (taken : Parser.value finish maxNesting (tokens ++ [finish]) = .ok (a, [finish])) :
    parse (tokens ++ [finish]) = .ok a := by
  have all : whole finish (tokens ++ [finish]) = .ok (a, [finish]) := by
    unfold whole
    rw [bind_of_ok _ _ _ _ _ taken,bind_of_ok _ _ _ _ _ (peek_cons finish finish []),
      if_pos ended]
    rfl
  unfold parse
  rw [List.getLast?_concat,Option.getD_some,StateT.run,all]
  rfl

theorem parse_of_value (tokens : List Token) (finish : Token) (ended : finish.what = .finish)
    (a : Literal) (derived : Value maxNesting (kinds tokens) a) :
    parse (tokens ++ [finish]) = .ok a :=
  parse_of_taken tokens finish ended a
    (value_complete finish maxNesting tokens [finish] a derived (ready_finish finish ended))

/-- A sequence of kinds denotes one value, however much room its derivations take. -/
theorem value_unique (kinds : List Kind) (room more : Nat) (a b : Literal)
    (first : Value room kinds a) (second : Value more kinds b) : a = b := by
  let finish : Token := ⟨.finish, ⟨0, 0⟩⟩
  let tokens : List Token := kinds.map (⟨·, ⟨0, 0⟩⟩)
  have same : Parser.kinds tokens = kinds := by
    simp [tokens,Parser.kinds,Function.comp_def]
  have ready := ready_finish finish rfl
  have left := value_complete finish (max room more) tokens [finish] a
    (same ▸ value_mono _ _ (Nat.le_max_left _ _) _ _ first) ready
  have right := value_complete finish (max room more) tokens [finish] b
    (same ▸ value_mono _ _ (Nat.le_max_right _ _) _ _ second) ready
  rw [left] at right
  cases right
  rfl

/-- Parsing accepts exactly the grammar, with at most 256 constructs open at once, and returns the
value that the derivation denotes. -/
theorem parse_ok_iff_value (tokens : List Token) (finish : Token)
    (inner : ∀ token ∈ tokens, token.what ≠ .finish) (ended : finish.what = .finish) (a : Literal) :
    (parse (tokens ++ [finish]) = .ok a ↔ Value 256 (tokens.map (·.what)) a) ∧
      ∀ room more b c, Value room (tokens.map (·.what)) b → Value more (tokens.map (·.what)) c →
        b = c :=
  ⟨⟨value_of_parse tokens finish inner ended a,parse_of_value tokens finish ended a⟩,
    fun room more b c => value_unique _ room more b c⟩

/-- The tokens of `{1: set([2]),}` are derivable since they parse. -/
theorem dict_of_set_parses :
    let tokens : List Token := [.mark .braceOpen, .int 1, .mark .colon, .ident "set",
      .mark .parenOpen, .mark .listOpen, .int 2, .mark .listClose, .mark .parenClose, .mark .comma,
      .mark .braceClose].map (⟨·, ⟨0, 0⟩⟩)
    let a : Literal := .dict [(.int 1, .set [.int 2])]
    parse (tokens ++ [⟨.finish, ⟨0, 0⟩⟩]) = .ok a ∧ Value 256 (tokens.map (·.what)) a := by
  intro tokens a
  have parsed : parse (tokens ++ [⟨.finish, ⟨0, 0⟩⟩]) = .ok a := by rfl
  have inner : ∀ token ∈ tokens, token.what ≠ .finish := by simp [tokens]
  exact ⟨parsed,(parse_ok_iff_value tokens ⟨.finish, ⟨0, 0⟩⟩ inner rfl a).1.mp parsed⟩

end Proctor.Literal.Parser
