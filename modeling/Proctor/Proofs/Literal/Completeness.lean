import Proctor.Proofs.Literal.Taking

/-! Every parser takes whatever the grammar derives, up to a token that no string continues. -/
namespace Proctor.Literal.Parser
open Grammar State

variable {α : Type} (last : Token) {value : Parser Literal} {One : List Kind → Literal → Prop}

private def Closes (sign : Mark) : Prop := sign ∈ [Mark.parenClose, .listClose, .braceClose]

private theorem Closes.not_starts {sign : Mark} (closes : Closes sign) : ¬ Starts (.mark sign) := by
  simp only [Closes,List.mem_cons,List.not_mem_nil,or_false] at closes
  rcases closes with rfl | rfl | rfl <;> simp [Starts]

private theorem Closes.not_comma {sign : Mark} (closes : Closes sign) : sign ≠ .comma := by
  simp only [Closes,List.mem_cons,List.not_mem_nil,or_false] at closes
  rcases closes with rfl | rfl | rfl <;> simp

private theorem ready_mark (token : Token) (rest : List Token) (sign : Mark)
    (marked : token.what = .mark sign) : Ready (token :: rest) :=
  ⟨token,rest,rfl,by simp [marked,Kind.text?],by simp [marked,Kind.bytes?]⟩

private theorem headed_token (headed : Headed One) (used : List Token) (a : Literal)
    (one : One (kinds used) a) :
    ∃ token rest, used = token :: rest ∧ Starts token.what := by
  obtain ⟨kind,others,same,starts⟩ := headed _ _ one
  obtain ⟨token,rest,rfl,rfl,_⟩ := split_cons same
  exact ⟨token,rest,rfl,starts⟩

private theorem accept_before (headed : Headed One) (sign : Mark) (absent : ¬ Starts (.mark sign))
    (used rest : List Token) (a : Literal) (one : One (kinds used) a) :
    accept last sign (used ++ rest) = .ok (false, used ++ rest) := by
  obtain ⟨token,others,rfl,starts⟩ := headed_token headed used a one
  have other : token.what ≠ .mark sign := fun same => absent (same ▸ starts)
  rw [List.cons_append,accept_cons,if_neg other]

private theorem accept_mark (sign : Mark) (token : Token) (rest : List Token)
    (marked : token.what = .mark sign) : accept last sign (token :: rest) = .ok (true, rest) := by
  rw [accept_cons,if_pos marked]

private theorem accept_other (sign other : Mark) (different : other ≠ sign) (token : Token)
    (rest : List Token) (marked : token.what = .mark other) :
    accept last sign (token :: rest) = .ok (false, token :: rest) := by
  rw [accept_cons,if_neg (by simp [marked,different])]

private theorem expect_mark (sign : Mark) (fault : Kind → ParseFault) (token : Token) (rest : List Token)
    (marked : token.what = .mark sign) : expect last sign fault (token :: rest) = .ok ((), rest) := by
  rw [expect_cons,if_pos marked]

private theorem peek_before (headed : Headed One) (sign : Mark) (absent : ¬ Starts (.mark sign))
    (used rest : List Token) (a : Literal) (one : One (kinds used) a) :
    ∃ token, peek last (used ++ rest) = .ok (token, used ++ rest) ∧ token.what ≠ .mark sign := by
  obtain ⟨token,others,rfl,starts⟩ := headed_token headed used a one
  exact ⟨token,rfl,fun same => absent (same ▸ starts)⟩

private theorem values_complete (complete : Complete value One) (headed : Headed One) (close : Mark)
    (closes : Closes close) (run : List Kind) (found : List Literal)
    (listing : Listing One run found) : ∀ (used : List Token) (closing : Token) (rest : List Token)
      (bound : Nat), kinds used = run → closing.what = .mark close → found.length < bound →
      values last value close bound (used ++ closing :: rest) = .ok (found, closing :: rest) := by
  induction listing with
  | none =>
    intro used closing rest bound same isClose enough
    obtain rfl := List.map_eq_nil_iff.mp same
    obtain ⟨bound,rfl⟩ := Nat.exists_eq_succ_of_ne_zero (by omega : bound ≠ 0)
    rw [values,bind_of_ok _ _ _ _ _ rfl]
    simp [isClose]
  | last run a first =>
    intro used closing rest bound same isClose enough
    obtain ⟨bound,rfl⟩ := Nat.exists_eq_succ_of_ne_zero (by omega : bound ≠ 0)
    have one : One (kinds used) a := same ▸ first
    obtain ⟨token,peeked,other⟩ := peek_before last headed close closes.not_starts used
      (closing :: rest) a one
    rw [values,bind_of_ok _ _ _ _ _ peeked,if_neg other,
      bind_of_ok _ _ _ _ _ (complete used _ a one (ready_mark _ _ _ isClose)),
      branch_false _ _ _ _ _ (accept_other last .comma close closes.not_comma closing _ isClose)]
    rfl
  | more run a others rest first tail ih =>
    intro used closing after bound same isClose enough
    obtain ⟨bound,rfl⟩ := Nat.exists_eq_succ_of_ne_zero (by omega : bound ≠ 0)
    obtain ⟨used,more,rfl,first_eq,tail_eq⟩ := split_append same
    obtain ⟨comma,more,rfl,isComma,rest_eq⟩ := split_cons tail_eq
    have one : One (kinds used) a := first_eq ▸ first
    have parsed := ih more closing after bound rest_eq isClose (by simpa using enough)
    rw [List.append_assoc,List.cons_append]
    obtain ⟨token,peeked,other⟩ := peek_before last headed close closes.not_starts used
      (comma :: (more ++ closing :: after)) a one
    rw [values,bind_of_ok _ _ _ _ _ peeked,if_neg other,
      bind_of_ok _ _ _ _ _ (complete used _ a one (ready_mark _ _ _ isComma)),
      branch_true _ _ _ _ _ (accept_mark last .comma comma _ isComma),
      bind_of_ok _ _ _ _ _ parsed]
    rfl

private theorem items_complete (complete : Complete value One) (headed : Headed One) (close : Mark)
    (closes : Closes close) (what : Closing) (used : List Token) (found : List Literal)
    (listing : Listing One (kinds used) found) (closing : Token) (rest : List Token)
    (isClose : closing.what = .mark close) :
    items last value close what (used ++ closing :: rest) = .ok (found, rest) := by
  have parsed := values_complete last complete headed close closes _ _ listing used
    closing rest ((used ++ closing :: rest).length + 2) rfl isClose (by
      have enough := listing.length_le headed
      simp only [kinds,List.length_map] at enough
      simp only [List.length_append]
      omega)
  unfold items
  rw [bind_of_ok _ _ _ _ _ (bound_run _),bind_of_ok _ _ _ _ _ parsed,
    bind_of_ok _ _ _ _ _ (expect_mark last close _ closing rest isClose)]
  rfl

private theorem ready_others {α : Type} {One : List Kind → α → Prop} (more : List Token) (closing : Token)
    (rest : List Token) (close : Mark) (isClose : closing.what = .mark close) (found : List α)
    (others : Others One (kinds more) found) : Ready (more ++ closing :: rest) := by
  generalize same : kinds more = run at others
  cases others with
  | none comma trailing =>
    cases trailing with
    | absent =>
      obtain rfl := List.map_eq_nil_iff.mp same
      exact ready_mark _ _ _ isClose
    | present =>
      obtain ⟨token,rfl,isComma⟩ := kinds_one same
      exact ready_mark _ _ _ isComma
  | some run a others found next tail =>
    obtain ⟨token,more,rfl,isComma,_⟩ := split_cons same
    exact ready_mark _ _ _ isComma

private theorem entries_complete (complete : Complete value One) (headed : Headed One) (run : List Kind)
    (found : List (Literal × Literal)) (others : Others (Entry One) run found) :
    ∀ (used : List Token) (closing : Token) (rest : List Token) (bound : Nat), kinds used = run →
      closing.what = .mark .braceClose → found.length < bound →
      entries last value bound (used ++ closing :: rest) = .ok (found, closing :: rest) := by
  induction others with
  | none comma trailing =>
    intro used closing rest bound same isClose enough
    obtain ⟨bound,rfl⟩ := Nat.exists_eq_succ_of_ne_zero (by omega : bound ≠ 0)
    cases trailing with
    | absent =>
      obtain rfl := List.map_eq_nil_iff.mp same
      rw [entries,List.nil_append,
        bind_of_ok _ _ _ _ _ (accept_other last .comma .braceClose (by simp) closing _ isClose)]
      rfl
    | present =>
      obtain ⟨comma,rfl,isComma⟩ := kinds_one same
      rw [entries,List.cons_append,List.nil_append,
        bind_of_ok _ _ _ _ _ (accept_mark last .comma comma _ isComma)]
      simp only [Bool.not_true,Bool.false_eq_true,if_false]
      rw [bind_of_ok _ _ _ _ _ (peek_cons last closing rest),if_pos isClose]
      rfl
  | some run entry others rest next tail ih =>
    intro used closing after bound same isClose enough
    obtain ⟨bound,rfl⟩ := Nat.exists_eq_succ_of_ne_zero (by omega : bound ≠ 0)
    cases next with
    | pair keyKinds key contentKinds content first second =>
      obtain ⟨comma,used,rfl,isComma,tail_eq⟩ := split_cons same
      obtain ⟨used,more,rfl,entry_eq,others_eq⟩ := split_append tail_eq
      obtain ⟨used,held,rfl,key_eq,held_eq⟩ := split_append entry_eq
      obtain ⟨colon,held,rfl,isColon,content_eq⟩ := split_cons held_eq
      have parsed := ih more closing after bound others_eq isClose (by simpa using enough)
      have keyOne : One (kinds used) key := key_eq ▸ first
      have contentOne : One (kinds held) content := content_eq ▸ second
      have content_ready := ready_others more closing after .braceClose isClose rest
        (others_eq ▸ tail)
      simp only [List.append_assoc,List.cons_append]
      obtain ⟨token,peeked,other⟩ := peek_before last headed .braceClose
        (by simp [Starts]) used (colon :: (held ++ (more ++ closing :: after))) key keyOne
      rw [entries,bind_of_ok _ _ _ _ _ (accept_mark last .comma comma _ isComma)]
      simp only [Bool.not_true,Bool.false_eq_true,if_false]
      rw [bind_of_ok _ _ _ _ _ peeked,if_neg other,
        bind_of_ok _ _ _ _ _ (complete used _ key keyOne (ready_mark _ _ _ isColon)),
        bind_of_ok _ _ _ _ _ (expect_mark last .colon _ colon _ isColon),
        bind_of_ok _ _ _ _ _ (complete held _ content contentOne content_ready),
        bind_of_ok _ _ _ _ _ parsed]
      rfl

private theorem list_complete (complete : Complete value One) (headed : Headed One) (opening closing : Token)
    (used tail : List Token) (found : List Literal) (opens : opening.what = .mark .listOpen)
    (derived : Items One (kinds used) found) (isClose : closing.what = .mark .listClose) :
    list last value (opening :: (used ++ closing :: tail)) = .ok (.list found, tail) := by
  unfold list
  rw [bind_of_ok _ _ _ _ _ (advance_cons last opening _ (by simp [opens])),
    bind_of_ok _ _ _ _ _ (items_complete last complete headed .listClose (by simp [Closes]) .list used
      found derived.listing closing tail isClose)]
  rfl

private theorem unit_complete (opening closing : Token) (tail : List Token)
    (opens : opening.what = .mark .parenOpen) (isClose : closing.what = .mark .parenClose) :
    paren last value (opening :: closing :: tail) = .ok (.tuple [], tail) := by
  unfold paren
  rw [bind_of_ok _ _ _ _ _ (advance_cons last opening _ (by simp [opens])),
    branch_true _ _ _ _ _ (accept_mark last .parenClose closing _ isClose)]
  rfl

private theorem group_complete (complete : Complete value One) (headed : Headed One)
    (opening closing : Token) (used tail : List Token) (a : Literal)
    (opens : opening.what = .mark .parenOpen) (one : One (kinds used) a)
    (isClose : closing.what = .mark .parenClose) :
    paren last value (opening :: (used ++ closing :: tail)) = .ok (a, tail) := by
  unfold paren
  rw [bind_of_ok _ _ _ _ _ (advance_cons last opening _ (by simp [opens])),
    branch_false _ _ _ _ _ (accept_before last headed .parenClose (by simp [Starts]) used _ a one),
    bind_of_ok _ _ _ _ _ (complete used _ a one (ready_mark _ _ _ isClose)),
    branch_true _ _ _ _ _ (accept_mark last .parenClose closing _ isClose)]
  rfl

private theorem tuple_complete (complete : Complete value One) (headed : Headed One)
    (opening comma closing : Token) (used others tail : List Token) (a : Literal)
    (rest : List Literal) (opens : opening.what = .mark .parenOpen) (one : One (kinds used) a)
    (isComma : comma.what = .mark .comma) (derived : Items One (kinds others) rest)
    (isClose : closing.what = .mark .parenClose) :
    paren last value (opening :: (used ++ comma :: (others ++ closing :: tail))) =
      .ok (.tuple (a :: rest), tail) := by
  unfold paren
  rw [bind_of_ok _ _ _ _ _ (advance_cons last opening _ (by simp [opens])),
    branch_false _ _ _ _ _ (accept_before last headed .parenClose (by simp [Starts]) used _ a one),
    bind_of_ok _ _ _ _ _ (complete used _ a one (ready_mark _ _ _ isComma)),
    branch_false _ _ _ _ _ (accept_other last .parenClose .comma (by simp) comma _ isComma),
    bind_of_ok _ _ _ _ _ (expect_mark last .comma _ comma _ isComma),
    bind_of_ok _ _ _ _ _ (items_complete last complete headed .parenClose (by simp [Closes]) .tuple
      others rest derived.listing closing tail isClose)]
  rfl

private theorem empty_complete (opening closing : Token) (tail : List Token)
    (opens : opening.what = .mark .braceOpen) (isClose : closing.what = .mark .braceClose) :
    brace last value (opening :: closing :: tail) = .ok (.dict [], tail) := by
  unfold brace
  rw [bind_of_ok _ _ _ _ _ (advance_cons last opening _ (by simp [opens])),
    branch_true _ _ _ _ _ (accept_mark last .braceClose closing _ isClose)]
  rfl

private theorem dict_complete (complete : Complete value One) (headed : Headed One)
    (opening colon closing : Token) (used held others tail : List Token) (key content : Literal)
    (rest : List (Literal × Literal)) (opens : opening.what = .mark .braceOpen)
    (keyOne : One (kinds used) key) (isColon : colon.what = .mark .colon)
    (contentOne : One (kinds held) content) (derived : Others (Entry One) (kinds others) rest)
    (isClose : closing.what = .mark .braceClose) :
    brace last value (opening :: (used ++ colon :: (held ++ (others ++ closing :: tail)))) =
      .ok (.dict ((key, content) :: rest), tail) := by
  have parsed := entries_complete last complete headed _ _ derived others closing tail
    ((others ++ closing :: tail).length + 2) rfl isClose (by
      have enough := derived.length_le
      simp only [kinds,List.length_map] at enough
      simp only [List.length_append]
      omega)
  unfold brace
  rw [bind_of_ok _ _ _ _ _ (advance_cons last opening _ (by simp [opens])),
    branch_false _ _ _ _ _ (accept_before last headed .braceClose (by simp [Starts]) used _ key keyOne),
    bind_of_ok _ _ _ _ _ (complete used _ key keyOne (ready_mark _ _ _ isColon)),
    branch_true _ _ _ _ _ (accept_mark last .colon colon _ isColon),
    bind_of_ok _ _ _ _ _ (complete held _ content contentOne
      (ready_others others closing tail .braceClose isClose rest derived)),
    bind_of_ok _ _ _ _ _ (bound_run _),bind_of_ok _ _ _ _ _ parsed,
    bind_of_ok _ _ _ _ _ (expect_mark last .braceClose _ closing _ isClose)]
  rfl

private theorem set_complete (complete : Complete value One) (headed : Headed One) (opening closing : Token)
    (used tail : List Token) (a : Literal) (rest : List Literal)
    (opens : opening.what = .mark .braceOpen) (listing : Listing One (kinds used) (a :: rest))
    (isClose : closing.what = .mark .braceClose) :
    brace last value (opening :: (used ++ closing :: tail)) = .ok (.set (a :: rest), tail) := by
  unfold brace
  rw [bind_of_ok _ _ _ _ _ (advance_cons last opening _ (by simp [opens]))]
  generalize same : kinds used = run at listing
  cases listing with
  | last _ _ first =>
    have one : One (kinds used) a := same ▸ first
    rw [branch_false _ _ _ _ _ (accept_before last headed .braceClose (by simp [Starts]) used _ a one),
      bind_of_ok _ _ _ _ _ (complete used _ a one (ready_mark _ _ _ isClose)),
      branch_false _ _ _ _ _ (accept_other last .colon .braceClose (by simp) closing _ isClose),
      branch_false _ _ _ _ _ (accept_other last .comma .braceClose (by simp) closing _ isClose),
      bind_of_ok _ _ _ _ _ (expect_mark last .braceClose _ closing _ isClose)]
    rfl
  | more run _ others _ first tail_ok =>
    obtain ⟨used,more,rfl,first_eq,tail_eq⟩ := split_append same
    obtain ⟨comma,more,rfl,isComma,others_eq⟩ := split_cons tail_eq
    have one : One (kinds used) a := first_eq ▸ first
    simp only [List.append_assoc,List.cons_append]
    rw [branch_false _ _ _ _ _ (accept_before last headed .braceClose (by simp [Starts]) used _ a one),
      bind_of_ok _ _ _ _ _ (complete used _ a one (ready_mark _ _ _ isComma)),
      branch_false _ _ _ _ _ (accept_other last .colon .comma (by simp) comma _ isComma),
      branch_true _ _ _ _ _ (accept_mark last .comma comma _ isComma),
      bind_of_ok _ _ _ _ _ (items_complete last complete headed .braceClose (by simp [Closes]) .set more
        rest (others_eq ▸ tail_ok) closing tail isClose)]
    rfl

private theorem callable_set (name : String) (isSet : IsSet name) : isCallable name = true := by
  rcases isSet with rfl | rfl <;> decide

private theorem callNone_complete (name : String) (callee opening closing : Token) (tail : List Token)
    (named : callee.what = .ident name) (opens : opening.what = .mark .parenOpen)
    (isClose : closing.what = .mark .parenClose) :
    call last value name (callee :: opening :: closing :: tail) =
      .ok (if name = "dict" then .dict [] else .set [], tail) := by
  unfold call
  rw [bind_of_ok _ _ _ _ _ (advance_cons last callee _ (by simp [named])),
    bind_of_ok _ _ _ _ _ (advance_cons last opening _ (by simp [opens])),
    branch_true _ _ _ _ _ (accept_mark last .parenClose closing _ isClose)]
  rfl

private theorem call_complete (complete : Complete value One) (headed : Headed One) (name : String)
    (callee opening closing : Token) (used comma tail : List Token) (a : Literal)
    (named : callee.what = .ident name) (opens : opening.what = .mark .parenOpen)
    (one : One (kinds used) a) (trailing : Trailing (kinds comma))
    (isClose : closing.what = .mark .parenClose) :
    call last value name (callee :: opening :: (used ++ (comma ++ closing :: tail))) =
      applied name callee.span a tail := by
  unfold call
  rw [bind_of_ok _ _ _ _ _ (advance_cons last callee _ (by simp [named])),
    bind_of_ok _ _ _ _ _ (advance_cons last opening _ (by simp [opens])),
    branch_false _ _ _ _ _ (accept_before last headed .parenClose (by simp [Starts]) used _ a one)]
  generalize same : kinds comma = run at trailing
  cases trailing with
  | absent =>
    obtain rfl := List.map_eq_nil_iff.mp same
    rw [List.nil_append,bind_of_ok _ _ _ _ _ (complete used _ a one (ready_mark _ _ _ isClose)),
      bind_of_ok _ _ _ _ _ (accept_other last .comma .parenClose (by simp) closing _ isClose),
      bind_of_ok _ _ _ _ _ (expect_mark last .parenClose _ closing _ isClose)]
  | present =>
    obtain ⟨token,rfl,isComma⟩ := kinds_one same
    rw [List.cons_append,List.nil_append,
      bind_of_ok _ _ _ _ _ (complete used _ a one (ready_mark _ _ _ isComma)),
      bind_of_ok _ _ _ _ _ (accept_mark last .comma token _ isComma),
      bind_of_ok _ _ _ _ _ (expect_mark last .parenClose _ closing _ isClose)]

private theorem applied_members (name : String) (isSet : IsSet name) (span : Span) (a : Literal)
    (items : List Literal) (held : members? a = some items) (tokens : List Token) :
    applied name span a tokens = .ok (.set items, tokens) := by
  have notDict : name ≠ "dict" := by rcases isSet with rfl | rfl <;> decide
  cases a <;> simp_all [members?,applied]

def Taken (last : Token) (value : Parser Literal) (used tail : List Token) (a : Literal) : Prop :=
  ∃ opening : Opening, opening.Known ∧ (∃ rest, kinds used = opening.kinds ++ rest) ∧
    construct last value opening (used ++ tail) = .ok (a, tail)

private theorem construct_complete (complete : Complete value One) (headed : Headed One)
    (used tail : List Token) (a : Literal) (derived : Construct One (kinds used) a) :
    Taken last value used tail a := by
  generalize same : kinds used = run at derived
  have opened := same
  cases derived with
  | list inner items inside =>
    obtain ⟨opening,used,closing,rfl,opens,inner_eq,isClose⟩ := split_enclosed same
    refine ⟨.list,trivial,⟨_,opened⟩,?_⟩
    simpa [construct] using list_complete last complete headed opening closing used tail items opens
      (inner_eq ▸ inside) isClose
  | unit =>
    obtain ⟨opening,closing,rfl,opens,isClose⟩ := split_pair same
    exact ⟨.paren,trivial,⟨_,opened⟩,unit_complete last opening closing tail opens isClose⟩
  | group inner _ inside =>
    obtain ⟨opening,used,closing,rfl,opens,inner_eq,isClose⟩ := split_enclosed same
    refine ⟨.paren,trivial,⟨_,opened⟩,?_⟩
    simpa [construct] using group_complete last complete headed opening closing used tail a opens
      (inner_eq ▸ inside) isClose
  | tuple inner first others rest one items =>
    obtain ⟨opening,used,closing,rfl,opens,inner_eq,isClose⟩ := split_enclosed same
    obtain ⟨used,others,rfl,first_eq,others_eq⟩ := split_append inner_eq
    obtain ⟨comma,others,rfl,isComma,others_eq⟩ := split_cons others_eq
    refine ⟨.paren,trivial,⟨_,opened⟩,?_⟩
    simpa [construct] using tuple_complete last complete headed opening comma closing used others tail
      first rest opens (first_eq ▸ one) isComma (others_eq ▸ items) isClose
  | empty =>
    obtain ⟨opening,closing,rfl,opens,isClose⟩ := split_pair same
    exact ⟨.brace,trivial,⟨_,opened⟩,empty_complete last opening closing tail opens isClose⟩
  | dict inner entries comma series trailing =>
    obtain ⟨first,entry,others,rest,split_eq,rfl,one,others_ok⟩ := series.others _ _ _ trailing
    rw [List.cons_append,split_eq] at same
    obtain ⟨opening,used,closing,rfl,opens,inner_eq,isClose⟩ := split_enclosed same
    obtain ⟨used,others,rfl,first_eq,others_eq⟩ := split_append inner_eq
    cases one with
    | pair _ key _ content keyOne contentOne =>
      obtain ⟨used,held,rfl,key_eq,held_eq⟩ := split_append first_eq
      obtain ⟨colon,held,rfl,isColon,held_eq⟩ := split_cons held_eq
      refine ⟨.brace,trivial,⟨_,opened⟩,?_⟩
      simpa [construct] using dict_complete last complete headed opening colon closing used held others
        tail key content rest opens (key_eq ▸ keyOne) isColon (held_eq ▸ contentOne)
        (others_eq ▸ others_ok) isClose
  | set inner items comma series trailing =>
    obtain ⟨first,rest,rfl⟩ : ∃ first rest, items = first :: rest := by
      cases series <;> exact ⟨_,_,rfl⟩
    obtain ⟨opening,used,closing,rfl,opens,inner_eq,isClose⟩ := split_enclosed same
    refine ⟨.brace,trivial,⟨_,opened⟩,?_⟩
    simpa [construct] using set_complete last complete headed opening closing used tail first rest opens
      (inner_eq ▸ series.listing _ _ _ trailing) isClose
  | setOfNone name isSet =>
    obtain ⟨callee,used,rfl,named,same⟩ := split_cons same
    obtain ⟨opening,closing,rfl,opens,isClose⟩ := split_pair same
    refine ⟨.call name,callable_set name isSet,⟨_,opened⟩,?_⟩
    have notDict : name ≠ "dict" := by rcases isSet with rfl | rfl <;> decide
    have called : call last value name (callee :: opening :: closing :: tail) = _ :=
      callNone_complete last name callee opening closing tail named opens isClose
    simpa [construct,notDict] using called
  | setOf name isSet inner argument comma items one trailing held =>
    obtain ⟨callee,used,rfl,named,same⟩ := split_cons same
    obtain ⟨opening,used,closing,rfl,opens,inner_eq,isClose⟩ := split_enclosed same
    obtain ⟨used,comma,rfl,inner_eq,comma_eq⟩ := split_append inner_eq
    refine ⟨.call name,callable_set name isSet,⟨_,opened⟩,?_⟩
    have called := call_complete last complete headed name callee opening closing used
      comma tail argument named opens (inner_eq ▸ one) (comma_eq ▸ trailing) isClose
    rw [applied_members name isSet _ _ _ held] at called
    simpa [construct] using called
  | dictOfNone =>
    obtain ⟨callee,used,rfl,named,same⟩ := split_cons same
    obtain ⟨opening,closing,rfl,opens,isClose⟩ := split_pair same
    exact ⟨.call "dict",(by decide : isCallable "dict" = true),⟨_,opened⟩,
      callNone_complete last "dict" callee opening closing tail named opens isClose⟩
  | dictOf inner entries comma one trailing =>
    obtain ⟨callee,used,rfl,named,same⟩ := split_cons same
    obtain ⟨opening,used,closing,rfl,opens,inner_eq,isClose⟩ := split_enclosed same
    obtain ⟨used,comma,rfl,inner_eq,comma_eq⟩ := split_append inner_eq
    refine ⟨.call "dict",(by decide : isCallable "dict" = true),⟨_,opened⟩,?_⟩
    have called := call_complete last complete headed "dict" callee opening closing used
      comma tail _ named opens (inner_eq ▸ one) (comma_eq ▸ trailing) isClose
    simpa [construct,applied] using called

/-! ### Scalars -/

private theorem signs_complete (marks : List Mark) (inside : ∀ sign ∈ marks, sign = .plus ∨ sign = .minus)
    (token : Token) (tail : List Token) (other : token.what ≠ .mark .plus ∧ token.what ≠ .mark .minus) :
    ∀ (used : List Token) (before : Bool), kinds used = marks.map .mark →
      signs last before (used ++ token :: tail) =
        .ok (before != (marks.count .minus % 2 == 1), token :: tail) := by
  induction marks with
  | nil =>
    intro used before same
    obtain rfl := List.map_eq_nil_iff.mp same
    simp [signs,other.1,other.2]
  | cons sign marks ih =>
    intro used before same
    obtain ⟨first,used,rfl,isSign,others⟩ := split_cons same
    have rest := ih (fun sign member => inside sign (by simp [member])) used
    rcases inside sign (by simp) with rfl | rfl
    · rw [List.cons_append,signs,if_neg (by simp [isSign]),if_pos isSign,rest before others]
      simp
    · rw [List.cons_append,signs,if_pos isSign,rest (!before) others]
      rcases Nat.mod_two_eq_zero_or_one (marks.count .minus) with even | odd
      · have next : (marks.count .minus + 1) % 2 = 1 := by omega
        simp [even,next]
      · have next : (marks.count .minus + 1) % 2 = 0 := by omega
        simp [odd,next]

theorem numeral_complete (negative : Bool) (marks : List Mark)
    (parity : negative = (marks.count .minus % 2 == 1)) (token : Token) (unsigned : Literal)
    (isNumeral : Numeral token.what unsigned) (tail : List Token) :
    numeral negative token tail = .ok (Grammar.signed marks unsigned, tail) := by
  generalize kind : token.what = what at isNumeral
  subst parity
  unfold numeral Grammar.signed
  cases isNumeral with
  | int n => simp [kind,negated_eq_opposite]
  | float x =>
    simp only [kind,pure_run]
    split <;> simp_all [opposite]
  | infinity name spelled =>
    have named : namedNumber? name = some (.infinity false) := by simp [namedNumber?,spelled]
    simp only [kind,named,pure_run]
    split <;> simp_all [opposite]
  | nan name spelled =>
    have named : namedNumber? name = some .nan := by
      rcases spelled with rfl | rfl <;> decide
    simp only [kind,named,pure_run]
    split <;> simp_all [opposite]

theorem number_complete (marks : List Mark)
    (inside : ∀ sign ∈ marks, sign = .plus ∨ sign = .minus) (used : List Token) (token : Token)
    (tail : List Token) (unsigned : Literal) (same : kinds used = marks.map .mark)
    (isNumeral : Numeral token.what unsigned) :
    number last (used ++ token :: tail) = .ok (Grammar.signed marks unsigned, tail) := by
  have other : token.what ≠ .mark .plus ∧ token.what ≠ .mark .minus ∧ token.what ≠ .finish := by
    generalize token.what = what at isNumeral
    cases isNumeral <;> simp
  unfold number
  rw [bind_of_ok _ _ _ _ _
      (signs_complete last marks inside token tail ⟨other.1,other.2.1⟩ used false same),
    bind_of_ok _ _ _ _ _ (advance_cons last token tail other.2.2)]
  exact numeral_complete _ marks (by simp) token unsigned isNumeral tail

private theorem parts_complete {part? : Kind → Option α} {make : α → Kind} (reads : Reads part? make)
    (token : Token) (tail : List Token) (other : part? token.what = none) (found : List α) :
    ∀ used, kinds used = found.map make →
      parts last part? (used ++ token :: tail) = .ok (found, token :: tail) := by
  induction found with
  | nil =>
    intro used same
    obtain rfl := List.map_eq_nil_iff.mp same
    simp [parts,other]
  | cons part found ih =>
    intro used same
    obtain ⟨first,used,rfl,made,same⟩ := split_cons same
    simp only [List.cons_append,parts,(reads _ _).mpr made,ih used same]
    rfl

private theorem texts_complete (found : List String) (used tail : List Token) (ready : Ready tail)
    (same : kinds used = found.map .text) :
    texts last (used ++ tail) = .ok (.text (String.join found), tail) := by
  obtain ⟨token,rest,rfl,notText,notBytes⟩ := ready
  unfold texts
  rw [bind_of_ok _ _ _ _ _ (parts_complete last reads_text token rest notText found used same),
    bind_of_ok _ _ _ _ _ (peek_cons last token rest),if_neg (by simp [notBytes])]
  rfl

private theorem byteStrings_complete (found : List (List UInt8)) (used tail : List Token)
    (ready : Ready tail) (same : kinds used = found.map .bytes) :
    byteStrings last (used ++ tail) = .ok (.bytes found.flatten, tail) := by
  obtain ⟨token,rest,rfl,notText,notBytes⟩ := ready
  unfold byteStrings
  rw [bind_of_ok _ _ _ _ _ (parts_complete last reads_bytes token rest notBytes found used same),
    bind_of_ok _ _ _ _ _ (peek_cons last token rest),if_neg (by simp [notText])]
  rfl

/-! ### Values -/

def Numeric (kind : Kind) : Prop :=
  kind = .mark .plus ∨ kind = .mark .minus ∨ ∃ unsigned, Numeral kind unsigned

theorem valueWith_number (nested : Opening → Parser Literal) (token : Token) (tail : List Token)
    (numeric : Numeric token.what) :
    valueWith last nested (token :: tail) = number last (token :: tail) := by
  unfold valueWith
  rw [bind_of_ok _ _ _ _ _ (peek_cons last token tail)]
  rcases numeric with plus | minus | ⟨unsigned,isNumeral⟩
  · simp only [plus]
  · simp only [minus]
  · generalize kind : token.what = what at isNumeral
    cases isNumeral with
    | int n => rfl
    | float x => rfl
    | infinity name spelled => rcases spelled with rfl | rfl <;> rfl
    | nan name spelled => rcases spelled with rfl | rfl <;> rfl

private theorem scalar_complete (nested : Opening → Parser Literal) :
    Complete (valueWith last nested) Scalar := by
  intro used tail a scalar ready
  generalize same : kinds used = run at scalar
  cases scalar with
  | null =>
    obtain ⟨token,rfl,isNull⟩ := kinds_one same
    rw [List.cons_append,List.nil_append]
    unfold valueWith
    rw [bind_of_ok _ _ _ _ _ (peek_cons last token tail)]
    simp only [isNull]
    rw [bind_of_ok _ _ _ _ _ (advance_cons last token tail (by simp [isNull]))]
    rfl
  | bool b =>
    obtain ⟨token,rfl,isBool⟩ := kinds_one same
    rw [List.cons_append,List.nil_append]
    unfold valueWith
    rw [bind_of_ok _ _ _ _ _ (peek_cons last token tail)]
    simp only [isBool]
    rw [bind_of_ok _ _ _ _ _ (advance_cons last token tail (by simp [isBool]))]
    rfl
  | number marks inside kind unsigned isNumeral =>
    obtain ⟨used,numeral,rfl,marks_eq,same⟩ := split_append same
    obtain ⟨token,rfl,rfl⟩ := kinds_one same
    have taken := number_complete last marks inside used token tail unsigned marks_eq isNumeral
    rw [List.append_assoc,List.cons_append,List.nil_append,← taken]
    cases marks with
    | nil =>
      obtain rfl := List.map_eq_nil_iff.mp marks_eq
      exact valueWith_number last nested token tail (.inr (.inr ⟨unsigned,isNumeral⟩))
    | cons sign marks =>
      obtain ⟨first,used,rfl,isSign,_⟩ := split_cons marks_eq
      apply valueWith_number last nested first
      rcases inside sign (by simp) with rfl | rfl
      · exact .inl isSign
      · exact .inr (.inl isSign)
  | text parts some =>
    rw [← texts_complete last parts used tail ready same]
    cases parts with
    | nil => exact absurd rfl some
    | cons part parts =>
      obtain ⟨token,used,rfl,isText,_⟩ := split_cons same
      unfold valueWith
      rw [List.cons_append,bind_of_ok _ _ _ _ _ (peek_cons last token _)]
      simp only [isText]
  | bytes parts some =>
    rw [← byteStrings_complete last parts used tail ready same]
    cases parts with
    | nil => exact absurd rfl some
    | cons part parts =>
      obtain ⟨token,used,rfl,isBytes,_⟩ := split_cons same
      unfold valueWith
      rw [List.cons_append,bind_of_ok _ _ _ _ _ (peek_cons last token _)]
      simp only [isBytes]

theorem valueWith_opening (nested : Opening → Parser Literal) (opening : Opening)
    (known : opening.Known) (used tail : List Token)
    (opens : ∃ rest, kinds used = opening.kinds ++ rest) :
    valueWith last nested (used ++ tail) = nested opening (used ++ tail) := by
  obtain ⟨rest,opens⟩ := opens
  cases opening with
  | call name =>
    obtain ⟨callee,used,rfl,named,same⟩ := split_cons opens
    obtain ⟨opening,used,rfl,opens,_⟩ := split_cons same
    unfold valueWith
    rw [List.cons_append,bind_of_ok _ _ _ _ _ (peek_cons last callee _)]
    have unnamed : (namedNumber? name).isSome = false := by
      rcases isCallable_cases name known with (rfl | rfl) | rfl <;> decide
    simp only [named,unnamed,Bool.false_eq_true,if_false]
    rw [bind_of_ok _ _ _ _ opening rfl,if_pos (by simp [opens,show isCallable name = true from known])]
  | _ =>
    obtain ⟨token,used,rfl,opens,_⟩ := split_cons opens
    unfold valueWith
    rw [List.cons_append,bind_of_ok _ _ _ _ _ (peek_cons last token _)]
    simp only [opens]

theorem value_complete (room : Nat) : Complete (Parser.value last room) (Value room) := by
  induction room with
  | zero => exact scalar_complete last _
  | succ room ih =>
    rintro used tail a (scalar | derived) ready
    · exact scalar_complete last _ used tail a scalar ready
    · obtain ⟨opening,known,opens,taken⟩ :=
        construct_complete last ih (value_headed room) used tail a derived
      rw [← taken]
      exact valueWith_opening last _ opening known used tail opens

end Proctor.Literal.Parser
