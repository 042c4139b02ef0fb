import Proctor.Proofs.Literal.Taking

/-! Every parser takes only what the grammar derives, and returns the value of the derivation. -/
namespace Proctor.Literal.Parser
open Grammar State

variable {α : Type} {last : Token}

private theorem accept_cases (ended : last.what = .finish) (front out : List Token) (mark : Mark)
    (found : Bool) (taken : accept last mark (front ++ [last]) = .ok (found, out)) :
    (found = true ∧ ∃ token rest, front = token :: rest ∧ token.what = .mark mark ∧
      out = rest ++ [last]) ∨ (found = false ∧ out = front ++ [last]) := by
  cases front with
  | nil =>
    simp only [List.nil_append,accept_cons,ended,reduceCtorEq,if_false,Except.ok.injEq,
      Prod.mk.injEq] at taken
    exact Or.inr ⟨taken.1.symm,taken.2.symm⟩
  | cons token rest =>
    simp only [List.cons_append,accept_cons] at taken
    split at taken
    · next same =>
      simp only [Except.ok.injEq,Prod.mk.injEq] at taken
      exact Or.inl ⟨taken.1.symm,token,rest,rfl,same,taken.2.symm⟩
    · simp only [Except.ok.injEq,Prod.mk.injEq] at taken
      exact Or.inr ⟨taken.1.symm,taken.2.symm⟩

theorem expect_taken (ended : last.what = .finish) (front out : List Token) (mark : Mark)
    (fault : Kind → ParseFault) (u : Unit)
    (taken : expect last mark fault (front ++ [last]) = .ok (u, out)) :
    ∃ token rest, front = token :: rest ∧ token.what = .mark mark ∧ out = rest ++ [last] := by
  cases front with
  | nil => simp [expect_cons,ended] at taken
  | cons token rest =>
    simp only [List.cons_append,expect_cons] at taken
    split at taken
    · next same =>
      simp only [Except.ok.injEq,Prod.mk.injEq] at taken
      exact ⟨token,rest,rfl,same,taken.2.symm⟩
    · simp at taken

private theorem advance_taken (front out : List Token) (token taken : Token)
    (inside : token.what ≠ .finish)
    (advanced : advance last (token :: front ++ [last]) = .ok (taken, out)) :
    taken = token ∧ out = front ++ [last] := by
  rw [List.cons_append,advance_cons last token _ inside] at advanced
  simp only [Except.ok.injEq,Prod.mk.injEq] at advanced
  exact ⟨advanced.1.symm,advanced.2.symm⟩

variable {value : Parser Literal} {One : List Kind → Literal → Prop}

private theorem values_sound (ended : last.what = .finish) (sound : Sound last value One) (close : Mark)
    (bound : Nat) : Sound last (values last value close bound) (Items One) := by
  induction bound with
  | zero =>
    intro front items out inner taken
    cases taken
    exact ⟨[],front,rfl,rfl,.none⟩
  | succ bound ih =>
    intro front items out inner taken
    obtain ⟨next,_,peeked,taken⟩ := (bind_ok _ _ _ _).mp taken
    cases peeked
    split at taken
    · cases taken
      exact ⟨[],front,rfl,rfl,.none⟩
    obtain ⟨a,_,first,taken⟩ := (bind_ok _ _ _ _).mp taken
    obtain ⟨used,rest,rfl,rfl,one⟩ := sound _ _ _ inner first
    obtain ⟨found,_,accepted,taken⟩ := (bind_ok _ _ _ _).mp taken
    rcases accept_cases ended _ _ _ _ accepted with ⟨rfl,comma,after,rfl,isComma,rfl⟩ | ⟨rfl,rfl⟩
    · obtain ⟨others,_,tail,taken⟩ := (bind_ok _ _ _ _).mp taken
      obtain ⟨more,left,rfl,rfl,items_ok⟩ := ih _ _ _ (inner.right.tail) tail
      cases taken
      refine ⟨used ++ comma :: more,left,by simp,rfl,?_⟩
      simpa [isComma] using Items.cons _ _ _ _ one items_ok
    · cases taken
      refine ⟨used,rest,rfl,rfl,?_⟩
      simpa using Items.some _ _ _ (Series.one _ _ one) .absent

private theorem items_sound (ended : last.what = .finish) (sound : Sound last value One) (close : Mark)
    (what : Closing) (front out : List Token) (found : List Literal) (inner : Inner front)
    (taken : items last value close what (front ++ [last]) = .ok (found, out)) :
    ∃ used closing rest, front = used ++ closing :: rest ∧ out = rest ++ [last] ∧
      closing.what = .mark close ∧ Items One (kinds used) found := by
  obtain ⟨n,_,bounded,taken⟩ := (bind_ok _ _ _ _).mp taken
  cases bounded
  obtain ⟨listed,_,parsed,taken⟩ := (bind_ok _ _ _ _).mp taken
  obtain ⟨used,rest,rfl,rfl,items_ok⟩ := values_sound ended sound close _ _ _ _ inner parsed
  obtain ⟨_,_,closed,taken⟩ := (bind_ok _ _ _ _).mp taken
  obtain ⟨closing,left,rfl,isClose,rfl⟩ := expect_taken ended _ _ _ _ _ closed
  cases taken
  exact ⟨used,closing,left,rfl,rfl,isClose,items_ok⟩

private theorem list_sound (ended : last.what = .finish) (sound : Sound last value One) :
    SoundAt last [.mark .listOpen] (list last value) (Construct One) := by
  intro opened front a out same inner taken
  obtain ⟨token,rfl,opens⟩ := kinds_one same
  obtain ⟨_,_,advanced,taken⟩ := (bind_ok _ _ _ _).mp taken
  obtain ⟨rfl,rfl⟩ := advance_taken _ _ _ _ (by simp [opens]) advanced
  obtain ⟨found,_,parsed,taken⟩ := (bind_ok _ _ _ _).mp taken
  obtain ⟨used,closing,rest,rfl,rfl,isClose,items_ok⟩ :=
    items_sound ended sound _ _ _ _ _ inner parsed
  cases taken
  refine ⟨used ++ [closing],rest,by simp,rfl,?_⟩
  simpa [isClose] using Construct.list _ _ items_ok

private theorem paren_sound (ended : last.what = .finish) (sound : Sound last value One) :
    SoundAt last [.mark .parenOpen] (paren last value) (Construct One) := by
  intro opened front a out same inner taken
  obtain ⟨token,rfl,opens⟩ := kinds_one same
  obtain ⟨_,_,advanced,taken⟩ := (bind_ok _ _ _ _).mp taken
  obtain ⟨rfl,rfl⟩ := advance_taken _ _ _ _ (by simp [opens]) advanced
  obtain ⟨found,_,accepted,taken⟩ := (bind_ok _ _ _ _).mp taken
  rcases accept_cases ended _ _ _ _ accepted with ⟨rfl,closing,rest,rfl,isClose,rfl⟩ | ⟨rfl,rfl⟩
  · cases taken
    exact ⟨[closing],rest,rfl,rfl,by simpa [isClose] using Construct.unit⟩
  obtain ⟨first,_,parsed,taken⟩ := (bind_ok _ _ _ _).mp taken
  obtain ⟨used,front,rfl,rfl,one⟩ := sound _ _ _ inner parsed
  obtain ⟨found,_,accepted,taken⟩ := (bind_ok _ _ _ _).mp taken
  rcases accept_cases ended _ _ _ _ accepted with ⟨rfl,closing,rest,rfl,isClose,rfl⟩ | ⟨rfl,rfl⟩
  · cases taken
    refine ⟨used ++ [closing],rest,by simp,rfl,?_⟩
    simpa [isClose] using Construct.group _ _ one
  obtain ⟨_,_,expected,taken⟩ := (bind_ok _ _ _ _).mp taken
  obtain ⟨comma,after,rfl,isComma,rfl⟩ := expect_taken ended _ _ _ _ _ expected
  obtain ⟨others,_,parsed,taken⟩ := (bind_ok _ _ _ _).mp taken
  obtain ⟨more,closing,rest,rfl,rfl,isClose,items_ok⟩ :=
    items_sound ended sound _ _ _ _ _ inner.right.tail parsed
  cases taken
  refine ⟨used ++ comma :: more ++ [closing],rest,by simp,rfl,?_⟩
  simpa [isClose,isComma] using Construct.tuple _ _ _ _ one items_ok

private theorem entries_sound (ended : last.what = .finish) (sound : Sound last value One) (bound : Nat) :
    Sound last (entries last value bound) (Others (Entry One)) := by
  induction bound with
  | zero =>
    intro front found out inner taken
    cases taken
    exact ⟨[],front,rfl,rfl,.none _ .absent⟩
  | succ bound ih =>
    intro front found out inner taken
    obtain ⟨isNext,_,accepted,taken⟩ := (bind_ok _ _ _ _).mp taken
    rcases accept_cases ended _ _ _ _ accepted with ⟨rfl,comma,front,rfl,isComma,rfl⟩ | ⟨rfl,rfl⟩
    · obtain ⟨next,_,peeked,taken⟩ := (bind_ok _ _ _ _).mp taken
      cases peeked
      split at taken
      · cases taken
        exact ⟨[comma],front,rfl,rfl,by simpa [isComma] using Others.none _ .present⟩
      obtain ⟨key,_,parsed,taken⟩ := (bind_ok _ _ _ _).mp taken
      obtain ⟨used,front,rfl,rfl,keyOne⟩ := sound _ _ _ inner.tail parsed
      obtain ⟨_,_,expected,taken⟩ := (bind_ok _ _ _ _).mp taken
      obtain ⟨colon,front,rfl,isColon,rfl⟩ := expect_taken ended _ _ _ _ _ expected
      obtain ⟨content,_,parsed,taken⟩ := (bind_ok _ _ _ _).mp taken
      obtain ⟨held,front,rfl,rfl,contentOne⟩ := sound _ _ _ inner.tail.right.tail parsed
      obtain ⟨others,_,parsed,taken⟩ := (bind_ok _ _ _ _).mp taken
      obtain ⟨more,rest,rfl,rfl,tail⟩ := ih _ _ _ inner.tail.right.tail.right parsed
      cases taken
      refine ⟨comma :: used ++ colon :: held ++ more,rest,by simp,rfl,?_⟩
      have entry := Entry.pair _ _ _ _ keyOne contentOne
      simpa [isComma,isColon] using Others.some _ _ _ _ entry tail
    · cases taken
      exact ⟨[],front,rfl,rfl,.none _ .absent⟩

private theorem brace_sound (ended : last.what = .finish) (sound : Sound last value One) :
    SoundAt last [.mark .braceOpen] (brace last value) (Construct One) := by
  intro opened front a out same inner taken
  obtain ⟨token,rfl,opens⟩ := kinds_one same
  obtain ⟨_,_,advanced,taken⟩ := (bind_ok _ _ _ _).mp taken
  obtain ⟨rfl,rfl⟩ := advance_taken _ _ _ _ (by simp [opens]) advanced
  obtain ⟨found,_,accepted,taken⟩ := (bind_ok _ _ _ _).mp taken
  rcases accept_cases ended _ _ _ _ accepted with ⟨rfl,closing,rest,rfl,isClose,rfl⟩ | ⟨rfl,rfl⟩
  · cases taken
    exact ⟨[closing],rest,rfl,rfl,by simpa [isClose] using Construct.empty⟩
  obtain ⟨first,_,parsed,taken⟩ := (bind_ok _ _ _ _).mp taken
  obtain ⟨used,front,rfl,rfl,one⟩ := sound _ _ _ inner parsed
  obtain ⟨found,_,accepted,taken⟩ := (bind_ok _ _ _ _).mp taken
  rcases accept_cases ended _ _ _ _ accepted with ⟨rfl,colon,front,rfl,isColon,rfl⟩ | ⟨rfl,rfl⟩
  · obtain ⟨content,_,parsed,taken⟩ := (bind_ok _ _ _ _).mp taken
    obtain ⟨held,front,rfl,rfl,contentOne⟩ := sound _ _ _ inner.right.tail parsed
    obtain ⟨n,_,bounded,taken⟩ := (bind_ok _ _ _ _).mp taken
    cases bounded
    obtain ⟨others,_,parsed,taken⟩ := (bind_ok _ _ _ _).mp taken
    obtain ⟨more,front,rfl,rfl,tail⟩ :=
      entries_sound ended sound _ _ _ _ inner.right.tail.right parsed
    obtain ⟨_,_,expected,taken⟩ := (bind_ok _ _ _ _).mp taken
    obtain ⟨closing,rest,rfl,isClose,rfl⟩ := expect_taken ended _ _ _ _ _ expected
    cases taken
    obtain ⟨series,comma,same,series_ok,trailing⟩ :=
      tail.series _ _ _ _ (Entry.pair _ _ _ _ one contentOne)
    refine ⟨used ++ colon :: held ++ more ++ [closing],rest,by simp,rfl,?_⟩
    have whole := Construct.dict _ _ _ series_ok trailing
    rw [List.cons_append,← same] at whole
    simpa [isColon,isClose] using whole
  obtain ⟨found,_,accepted,taken⟩ := (bind_ok _ _ _ _).mp taken
  rcases accept_cases ended _ _ _ _ accepted with ⟨rfl,comma,front,rfl,isComma,rfl⟩ | ⟨rfl,rfl⟩
  · obtain ⟨others,_,parsed,taken⟩ := (bind_ok _ _ _ _).mp taken
    obtain ⟨more,closing,rest,rfl,rfl,isClose,items_ok⟩ :=
      items_sound ended sound _ _ _ _ _ inner.right.tail parsed
    cases taken
    obtain ⟨series,last,same,series_ok,trailing⟩ :=
      (Items.cons _ _ _ _ one items_ok).series
    refine ⟨used ++ comma :: more ++ [closing],rest,by simp,rfl,?_⟩
    have whole := Construct.set _ _ _ series_ok trailing
    rw [List.cons_append,← same] at whole
    simpa [isComma,isClose] using whole
  · obtain ⟨_,_,expected,taken⟩ := (bind_ok _ _ _ _).mp taken
    obtain ⟨closing,rest,rfl,isClose,rfl⟩ := expect_taken ended _ _ _ _ _ expected
    cases taken
    refine ⟨used ++ [closing],rest,by simp,rfl,?_⟩
    simpa [isClose] using Construct.set _ _ _ (.one _ _ one) .absent

private theorem applied_set (name : String) (isSet : IsSet name) (span : Span) (argument a : Literal)
    (tokens out : List Token) (taken : applied name span argument tokens = .ok (a, out)) :
    out = tokens ∧ ∃ items, members? argument = some items ∧ a = .set items := by
  have notDict : name ≠ "dict" := by rcases isSet with rfl | rfl <;> decide
  cases argument <;> simp only [applied,notDict,if_false,fail_run,reduceCtorEq] at taken
  all_goals
    cases taken
    exact ⟨rfl,_,rfl,rfl⟩

private theorem applied_dict (span : Span) (argument a : Literal) (tokens out : List Token)
    (taken : applied "dict" span argument tokens = .ok (a, out)) :
    out = tokens ∧ ∃ entries, argument = .dict entries ∧ a = .dict entries := by
  cases argument <;> simp only [applied,if_true,fail_run,reduceCtorEq] at taken
  cases taken
  exact ⟨rfl,_,rfl,rfl⟩

private theorem call_sound (ended : last.what = .finish) (sound : Sound last value One) (name : String)
    (callable : isCallable name = true) :
    SoundAt last [.ident name, .mark .parenOpen] (call last value name) (Construct One) := by
  intro opened front a out same inner taken
  obtain ⟨token,after,rfl,named,same⟩ := split_cons same
  obtain ⟨opening,rfl,opens⟩ := kinds_one same
  obtain ⟨callee,_,advanced,taken⟩ := (bind_ok _ _ _ _).mp taken
  obtain ⟨rfl,rfl⟩ := advance_taken (opening :: front) _ _ _ (by simp [named]) advanced
  obtain ⟨_,_,advanced,taken⟩ := (bind_ok _ _ _ _).mp taken
  obtain ⟨rfl,rfl⟩ := advance_taken _ _ _ _ (by simp [opens]) advanced
  obtain ⟨found,_,accepted,taken⟩ := (bind_ok _ _ _ _).mp taken
  rcases accept_cases ended _ _ _ _ accepted with ⟨rfl,closing,rest,rfl,isClose,rfl⟩ | ⟨rfl,rfl⟩
  · cases taken
    refine ⟨[closing],rest,rfl,rfl,?_⟩
    rcases isCallable_cases name callable with isSet | rfl
    · have notDict : name ≠ "dict" := by rcases isSet with rfl | rfl <;> decide
      simpa [isClose,notDict] using Construct.setOfNone name isSet
    · simpa [isClose] using Construct.dictOfNone
  obtain ⟨argument,_,parsed,taken⟩ := (bind_ok _ _ _ _).mp taken
  obtain ⟨used,front,rfl,rfl,one⟩ := sound _ _ _ inner parsed
  obtain ⟨found,_,accepted,taken⟩ := (bind_ok _ _ _ _).mp taken
  have closes : ∃ comma after, front = comma ++ after ∧ Trailing (kinds comma) ∧
      (do expect last .parenClose (.notClosed (.call name)); applied name callee.span argument :
        Parser Literal) (after ++ [last]) = .ok (a, out) := by
    rcases accept_cases ended _ _ _ _ accepted with ⟨rfl,comma,rest,rfl,isComma,rfl⟩ | ⟨rfl,rfl⟩
    · exact ⟨[comma],rest,rfl,by simpa [isComma] using Trailing.present,taken⟩
    · exact ⟨[],front,rfl,.absent,taken⟩
  obtain ⟨comma,front,rfl,trailing,taken⟩ := closes
  obtain ⟨_,_,expected,taken⟩ := (bind_ok _ _ _ _).mp taken
  obtain ⟨closing,rest,rfl,isClose,rfl⟩ := expect_taken ended _ _ _ _ _ expected
  refine ⟨used ++ comma ++ [closing],rest,by simp,?_⟩
  rcases isCallable_cases name callable with isSet | rfl
  · obtain ⟨rfl,items,held,rfl⟩ := applied_set name isSet _ _ _ _ _ taken
    exact ⟨rfl,by simpa [isClose] using Construct.setOf name isSet _ _ _ _ one trailing held⟩
  · obtain ⟨rfl,entries,rfl,rfl⟩ := applied_dict _ _ _ _ _ taken
    exact ⟨rfl,by simpa [isClose] using Construct.dictOf _ _ _ one trailing⟩

private theorem construct_sound (ended : last.what = .finish) (sound : Sound last value One)
    (opening : Opening) (known : opening.Known) :
    SoundAt last opening.kinds (construct last value opening) (Construct One) := by
  cases opening with
  | list => exact list_sound ended sound
  | paren => exact paren_sound ended sound
  | brace => exact brace_sound ended sound
  | call name => exact call_sound ended sound name known

/-! ### Scalars -/

private theorem signs_sound (ended : last.what = .finish) (front : List Token) (before negative : Bool)
    (out : List Token) (taken : signs last before (front ++ [last]) = .ok (negative, out)) :
    ∃ (marks : List Mark) (used rest : List Token), front = used ++ rest ∧ out = rest ++ [last] ∧
      kinds used = marks.map .mark ∧ (∀ mark ∈ marks, mark = Mark.plus ∨ mark = Mark.minus) ∧
      negative = (before != (marks.count .minus % 2 == 1)) := by
  induction front generalizing before with
  | nil =>
    simp [signs,ended] at taken
    obtain ⟨rfl,rfl⟩ := taken
    exact ⟨[],[],[],rfl,rfl,rfl,by simp,by simp⟩
  | cons token front ih =>
    simp only [List.cons_append,signs] at taken
    split at taken
    · next isMinus =>
      obtain ⟨marks,used,rest,rfl,rfl,same,inside,parity⟩ := ih _ taken
      refine ⟨.minus :: marks,token :: used,rest,rfl,rfl,?_,?_,?_⟩
      · simpa [isMinus] using same
      · simpa using inside
      · rw [parity]
        rcases Nat.mod_two_eq_zero_or_one (marks.count .minus) with even | odd
        · have : (marks.count .minus + 1) % 2 = 1 := by omega
          simp [even,this]
        · have : (marks.count .minus + 1) % 2 = 0 := by omega
          simp [odd,this]
    split at taken
    · next isPlus =>
      obtain ⟨marks,used,rest,rfl,rfl,same,inside,parity⟩ := ih _ taken
      refine ⟨.plus :: marks,token :: used,rest,rfl,rfl,?_,?_,?_⟩
      · simpa [isPlus] using same
      · simpa using inside
      · simpa using parity
    · cases taken
      exact ⟨[],[],token :: front,rfl,rfl,rfl,by simp,by simp⟩

private theorem numeral_named (name : String) (x : Binary64) (named : namedNumber? name = some x) :
    Numeral (.ident name) (.float x) := by
  unfold namedNumber? at named
  split at named
  · next spelled =>
    cases named
    exact .infinity name spelled
  split at named
  · next spelled =>
    cases named
    exact .nan name spelled
  · simp at named

private theorem numeral_sound (negative : Bool) (marks : List Mark)
    (parity : negative = (marks.count .minus % 2 == 1)) (token : Token) (tokens out : List Token)
    (a : Literal)
    (taken : numeral negative token tokens = .ok (a, out)) :
    out = tokens ∧ ∃ unsigned, Numeral token.what unsigned ∧ a = Grammar.signed marks unsigned := by
  have float_case (x : Binary64) :
      Literal.float (if negative then x.neg else x) = Grammar.signed marks (.float x) := by
    rw [parity,Grammar.signed]
    split <;> simp_all [opposite]
  unfold numeral at taken
  cases kind : token.what with
  | int n =>
    simp only [kind] at taken
    cases taken
    refine ⟨rfl,_,.int n,?_⟩
    rw [parity,Grammar.signed,negated_eq_opposite]
    simp
  | float x =>
    simp only [kind] at taken
    cases taken
    exact ⟨rfl,_,.float x,float_case x⟩
  | ident name =>
    simp only [kind] at taken
    cases named : namedNumber? name with
    | some x =>
      simp only [named] at taken
      cases taken
      exact ⟨rfl,_,numeral_named name x named,float_case x⟩
    | none => simp [named] at taken
  | _ =>
    simp only [kind,fail_run,reduceCtorEq] at taken

private theorem number_sound (ended : last.what = .finish) : Sound last (number last) Scalar := by
  intro front a out inner taken
  obtain ⟨negative,_,signed,taken⟩ := (bind_ok _ _ _ _).mp taken
  obtain ⟨marks,used,rest,rfl,rfl,same,inside,parity⟩ := signs_sound ended _ _ _ _ signed
  obtain ⟨token,_,advanced,taken⟩ := (bind_ok _ _ _ _).mp taken
  have sign : negative = (marks.count .minus % 2 == 1) := by simpa using parity
  obtain ⟨rfl,unsigned,isNumeral,rfl⟩ := numeral_sound negative marks sign _ _ _ _ taken
  cases rest with
  | nil =>
    simp only [List.nil_append,advance,List.headD_cons,Except.ok.injEq,Prod.mk.injEq] at advanced
    rw [← advanced.1,ended] at isNumeral
    cases isNumeral
  | cons next rest =>
    obtain ⟨rfl,rfl⟩ := advance_taken _ _ _ _ (inner.right next (by simp)) advanced
    refine ⟨used ++ [token],rest,by simp,rfl,?_⟩
    simpa [same] using Scalar.number marks inside _ _ isNumeral

private theorem parts_sound {part? : Kind → Option α} {make : α → Kind} (reads : Reads part? make)
    (ended : part? last.what = none) (front out : List Token) (found : List α)
    (taken : parts last part? (front ++ [last]) = .ok (found, out)) :
    ∃ used rest, front = used ++ rest ∧ out = rest ++ [last] ∧ kinds used = found.map make ∧
      ∀ token ∈ rest.head?, part? token.what = none := by
  induction front generalizing found out with
  | nil =>
    simp only [List.nil_append,parts,ended] at taken
    cases taken
    exact ⟨[],[],rfl,rfl,rfl,by simp⟩
  | cons token front ih =>
    simp only [List.cons_append,parts] at taken
    cases kind : part? token.what with
    | none =>
      rw [kind] at taken
      cases taken
      exact ⟨[],token :: front,rfl,rfl,rfl,by simpa using kind⟩
    | some part =>
      rw [kind] at taken
      cases tail : parts last part? (front ++ [last]) with
      | error halt => simp [tail,bind,Except.bind] at taken
      | ok pair =>
        rw [tail] at taken
        cases taken
        obtain ⟨used,rest,rfl,same,parsed,next⟩ := ih _ _ tail
        refine ⟨token :: used,rest,rfl,same,?_,next⟩
        simp [(reads _ _).mp kind,parsed]

private theorem parts_some {part? : Kind → Option α} {make : α → Kind} (reads : Reads part? make)
    (ended : part? last.what = none) (token : Token) (front out : List Token) (part : α)
    (starts : part? token.what = some part) (found : List α)
    (taken : parts last part? (token :: front ++ [last]) = .ok (found, out)) :
    ∃ used rest, token :: front = used ++ rest ∧ out = rest ++ [last] ∧
      kinds used = found.map make ∧ found ≠ [] := by
  obtain ⟨used,rest,same,rfl,parsed,next⟩ := parts_sound reads ended _ _ _ taken
  refine ⟨used,rest,same,rfl,parsed,?_⟩
  rintro rfl
  cases used with
  | nil =>
    have none := next token (by simp [show rest = token :: front from same.symm])
    simp [starts] at none
  | cons first used => simp at parsed

private theorem texts_sound (ended : last.what = .finish) (token : Token) (front out : List Token)
    (part : String) (isText : token.what = .text part) (a : Literal)
    (taken : texts last (token :: front ++ [last]) = .ok (a, out)) :
    ∃ used rest, token :: front = used ++ rest ∧ out = rest ++ [last] ∧ Scalar (kinds used) a := by
  obtain ⟨found,_,parsed,taken⟩ := (bind_ok _ _ _ _).mp taken
  obtain ⟨used,rest,same,rfl,parts_ok,some⟩ := parts_some reads_text
    (by simp [ended,Kind.text?]) token front _ part (by simp [isText,Kind.text?]) _ parsed
  obtain ⟨next,_,peeked,taken⟩ := (bind_ok _ _ _ _).mp taken
  cases peeked
  split at taken
  · simp at taken
  · cases taken
    exact ⟨used,rest,same,rfl,parts_ok ▸ .text found some⟩

private theorem byteStrings_sound (ended : last.what = .finish) (token : Token) (front out : List Token)
    (part : List UInt8) (isBytes : token.what = .bytes part) (a : Literal)
    (taken : byteStrings last (token :: front ++ [last]) = .ok (a, out)) :
    ∃ used rest, token :: front = used ++ rest ∧ out = rest ++ [last] ∧ Scalar (kinds used) a := by
  obtain ⟨found,_,parsed,taken⟩ := (bind_ok _ _ _ _).mp taken
  obtain ⟨used,rest,same,rfl,parts_ok,some⟩ := parts_some reads_bytes
    (by simp [ended,Kind.bytes?]) token front _ part (by simp [isBytes,Kind.bytes?]) _ parsed
  obtain ⟨next,_,peeked,taken⟩ := (bind_ok _ _ _ _).mp taken
  cases peeked
  split at taken
  · simp at taken
  · cases taken
    exact ⟨used,rest,same,rfl,parts_ok ▸ .bytes found some⟩

/-! ### Values -/

theorem valueWith_sound (ended : last.what = .finish) (nested : Opening → Parser Literal)
    (scalars : ∀ kinds a, Scalar kinds a → One kinds a)
    (constructs : ∀ opening : Opening, opening.Known →
      SoundAt last opening.kinds (nested opening) One) :
    Sound last (valueWith last nested) One := by
  intro front a out inner taken
  obtain ⟨token,_,peeked,taken⟩ := (bind_ok _ _ _ _).mp taken
  cases peeked
  cases front with
  | nil => simp [ended] at taken
  | cons token front =>
    simp only [List.cons_append,List.headD_cons] at taken
    have single (b : Literal) (scalar : Scalar [token.what] b)
        (parsed : (do let _ ← advance last; return b : Parser Literal)
          (token :: (front ++ [last])) = .ok (a, out)) :
        ∃ used rest, token :: front = used ++ rest ∧ out = rest ++ [last] ∧ One (kinds used) a := by
      obtain ⟨_,_,advanced,taken⟩ := (bind_ok _ _ _ _).mp parsed
      obtain ⟨_,rfl⟩ := advance_taken _ _ _ _ (inner token (by simp)) advanced
      cases taken
      exact ⟨[token],front,rfl,rfl,scalars _ _ scalar⟩
    have numeric (parsed : number last (token :: (front ++ [last])) = .ok (a, out)) :
        ∃ used rest, token :: front = used ++ rest ∧ out = rest ++ [last] ∧ One (kinds used) a := by
      obtain ⟨used,rest,same,rest_eq,scalar⟩ := number_sound ended _ _ _ inner parsed
      exact ⟨used,rest,same,rest_eq,scalars _ _ scalar⟩
    have opened (opening : Opening) (known : opening.Known) (opens : opening.kinds = [token.what])
        (parsed : nested opening (token :: (front ++ [last])) = .ok (a, out)) :
        ∃ used rest, token :: front = used ++ rest ∧ out = rest ++ [last] ∧ One (kinds used) a := by
      obtain ⟨used,rest,rfl,rest_eq,derived⟩ := constructs opening known [token] front a out
        (by simp [opens]) inner.tail parsed
      exact ⟨token :: used,rest,rfl,rest_eq,by simpa [opens] using derived⟩
    -- The first token tells what is read: a scalar, a number with its sign, or a construct.
    cases kind : token.what with
    | null =>
      simp only [kind] at taken
      exact single _ (kind ▸ .null) taken
    | bool b =>
      simp only [kind] at taken
      exact single _ (kind ▸ .bool b) taken
    | int n => exact numeric (by simpa only [kind] using taken)
    | float x => exact numeric (by simpa only [kind] using taken)
    | text s =>
      simp only [kind] at taken
      obtain ⟨used,rest,same,rest_eq,scalar⟩ := texts_sound ended _ _ _ s kind _ taken
      exact ⟨used,rest,same,rest_eq,scalars _ _ scalar⟩
    | bytes b =>
      simp only [kind] at taken
      obtain ⟨used,rest,same,rest_eq,scalar⟩ := byteStrings_sound ended _ _ _ b kind _ taken
      exact ⟨used,rest,same,rest_eq,scalars _ _ scalar⟩
    | ident name =>
      simp only [kind] at taken
      split at taken
      · exact numeric taken
      obtain ⟨second,_,peeked,taken⟩ := (bind_ok _ _ _ _).mp taken
      cases peeked
      split at taken
      · next called =>
        simp only [Bool.and_eq_true,decide_eq_true_eq] at called
        cases front with
        | nil => simp [ended] at called
        | cons opening front =>
          obtain ⟨used,rest,rfl,rest_eq,derived⟩ := constructs (.call name) called.1
            [token,opening] front a out (by simpa [kind,Opening.kinds] using called.2)
            inner.tail.tail taken
          have opens : opening.what = .mark .parenOpen := by simpa using called.2
          exact ⟨token :: opening :: used,rest,rfl,rest_eq,by
            simpa [kind,opens,Opening.kinds] using derived⟩
      · simp at taken
    | mark sign =>
      cases sign with
      | plus => exact numeric (by simpa only [kind] using taken)
      | minus => exact numeric (by simpa only [kind] using taken)
      | listOpen =>
        exact opened .list trivial (by simp [kind,Opening.kinds]) (by simpa only [kind] using taken)
      | parenOpen =>
        exact opened .paren trivial (by simp [kind,Opening.kinds]) (by simpa only [kind] using taken)
      | braceOpen =>
        exact opened .brace trivial (by simp [kind,Opening.kinds]) (by simpa only [kind] using taken)
      | _ => simp [kind] at taken
    | finish => exact absurd kind (inner token (by simp))

theorem value_sound (ended : last.what = .finish) (room : Nat) :
    Sound last (Parser.value last room) (Value room) := by
  induction room with
  | zero =>
    apply valueWith_sound ended
    · exact fun _ _ scalar => scalar
    · intro opening known opened front a out same inner taken
      obtain ⟨_,_,_,taken⟩ := (bind_ok _ _ _ _).mp taken
      simp at taken
  | succ room ih =>
    apply valueWith_sound ended
    · exact fun _ _ scalar => .inl scalar
    · intro opening known opened front a out same inner taken
      obtain ⟨used,rest,front_eq,rest_eq,derived⟩ :=
        construct_sound ended ih opening known opened front a out same inner taken
      exact ⟨used,rest,front_eq,rest_eq,.inr derived⟩

end Proctor.Literal.Parser
