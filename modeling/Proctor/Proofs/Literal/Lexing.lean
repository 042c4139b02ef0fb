import Proctor.Literal.Lexer
import Proctor.Proofs.Literal.Taking
import Proctor.Proofs.Number.Digits
import Proctor.Json.Printer
import Mathlib

/-! Cutting texts into tokens of known kinds, from the end of a text to its front: gaps, marks, words
and quoted strings before a text whose tokens are known. -/
namespace Proctor.Literal

/-! ### Places -/

namespace Cursor

theorem rest_skip (front rest : List Char) (cursor : Cursor) (here : cursor.rest = front ++ rest) :
    (cursor.skip front.length).rest = rest := by
  induction front generalizing cursor with
  | nil => exact here
  | cons c front ih =>
    apply ih cursor.next
    simp [next,here]

theorem rest_next (c : Char) (rest : List Char) (cursor : Cursor) (here : cursor.rest = c :: rest) :
    cursor.next.rest = rest := by
  simp [next,here]

theorem run_eq (p : Char → Bool) (front rest : List Char) (cursor : Cursor)
    (here : cursor.rest = front ++ rest) (inside : ∀ c ∈ front, p c = true)
    (stops : ∀ c ∈ rest.head?, p c = false) : cursor.run p = front := by
  unfold run
  rw [here,List.takeWhile_append_of_pos inside]
  cases rest with
  | nil => simp
  | cons c rest => simp [stops c (by simp)]

theorem rest_pass (p : Char → Bool) (front rest : List Char) (cursor : Cursor)
    (here : cursor.rest = front ++ rest) (inside : ∀ c ∈ front, p c = true)
    (stops : ∀ c ∈ rest.head?, p c = false) : (cursor.pass p).rest = rest := by
  unfold pass
  rw [run_eq p front rest cursor here inside stops]
  exact rest_skip front rest cursor here

theorem upTo_eq (front rest : List Char) (start stop : Cursor) (here : start.rest = front ++ rest)
    (after : stop.rest = rest) : start.upTo stop = front := by
  rw [upTo,here,after,List.length_append,Nat.add_sub_cancel]
  exact List.take_left

end Cursor

/-! ### Texts and their tokens -/

/-- A text is cut into tokens of the given kinds and nothing else, wherever it stands. -/
def Lexes (text : List Char) (found : List Kind) : Prop :=
  ∀ offset steps, text.length < steps → ∃ tokens finish,
    scanAll steps ⟨offset, text⟩ = (tokens ++ [finish], []) ∧ finish.what = .finish ∧
      Parser.kinds tokens = found

/-- A scan finds one token without faults and stops before the given text. -/
structure Reads (scan : Scan) (kind : Kind) (rest : List Char) : Prop where
  kind : scan.kind? = some kind
  clean : scan.faults = []
  after : scan.after.rest = rest

theorem reads_token (kind : Kind) (after : Cursor) : Reads (.token kind after) kind after.rest :=
  ⟨rfl,rfl,rfl⟩

theorem lex_of_lexes (source : String) (found : List Kind) (lexes : Lexes source.toList found) :
    ∃ tokens finish, lex source = .ok (tokens ++ [finish]) ∧ finish.what = .finish ∧
      Parser.kinds tokens = found := by
  obtain ⟨tokens,finish,scanned,ended,same⟩ := lexes 0 _ (Nat.lt_succ_self _)
  refine ⟨tokens,finish,?_,ended,same⟩
  unfold lex
  rw [scanned]

theorem lexes_nil : Lexes [] [] := by
  intro offset steps enough
  refine ⟨[],⟨.finish, ⟨offset, offset⟩⟩,?_,rfl,rfl⟩
  cases steps <;> rfl

theorem lexes_gap (c : Char) (rest : List Char) (found : List Kind) (gap : isGap c = true)
    (lexes : Lexes rest found) : Lexes (c :: rest) found := by
  intro offset steps enough
  cases steps with
  | zero => simp at enough
  | succ steps =>
    obtain ⟨tokens,finish,scanned,ended,same⟩ := lexes (offset + c.utf8Size) steps (by simpa using enough)
    refine ⟨tokens,finish,?_,ended,same⟩
    simp only [scanAll,gap,↓reduceIte,Cursor.next]
    exact scanned

theorem lexes_gaps (gaps rest : List Char) (found : List Kind) (all : ∀ c ∈ gaps, isGap c = true)
    (lexes : Lexes rest found) : Lexes (gaps ++ rest) found := by
  induction gaps with
  | nil => exact lexes
  | cons c gaps ih =>
    exact lexes_gap c _ found (all c (by simp)) (ih fun d member => all d (List.mem_cons_of_mem _ member))

theorem lexes_token (c : Char) (front rest : List Char) (kind : Kind) (others : List Kind)
    (solid : isGap c = false)
    (reads : ∀ offset, Reads (scanToken ⟨offset, c :: front ++ rest⟩ c) kind rest)
    (lexes : Lexes rest others) : Lexes (c :: front ++ rest) (kind :: others) := by
  intro offset steps enough
  cases steps with
  | zero => simp at enough
  | succ steps =>
    obtain ⟨isKind,clean,after⟩ := reads offset
    simp only [List.cons_append,List.length_cons,List.length_append] at enough
    generalize scanned : scanToken ⟨offset, c :: front ++ rest⟩ c = scan at *
    have moved : scan.after = ⟨scan.after.offset, rest⟩ := by rw [← after]
    obtain ⟨tokens,finish,more,ended,same⟩ := lexes scan.after.offset steps (by omega)
    refine ⟨⟨kind,⟨offset,scan.after.offset⟩⟩ :: tokens,finish,?_,ended,by simp [same]⟩
    rw [← moved] at more
    simp only [List.cons_append] at scanned
    simp only [List.cons_append,scanAll,solid,Bool.false_eq_true,↓reduceIte,scanned,more,isKind,clean]
    rfl

/-! ### The end of the tokens -/

private theorem keyword_inner (name : String) : Kind.keyword? name ≠ some .finish := by
  intro found
  obtain ⟨pair,isFound,same⟩ := Option.map_eq_some_iff.mp found
  have member := List.mem_of_find?_eq_some isFound
  simp only [Kind.keywords,List.mem_cons,List.not_mem_nil,or_false] at member
  rcases member with rfl | rfl | rfl | rfl | rfl | rfl <;> cases same

private theorem scanString_inner (quote : Char) (style : Style) (cursor : Cursor) :
    (scanString quote style cursor).kind? ≠ some .finish := by
  unfold scanString
  cases style.bytes <;> simp

private theorem finishNumber_inner (kind : Kind) (cursor : Cursor) (inner : kind ≠ .finish) :
    (finishNumber kind cursor).kind? ≠ some .finish := by
  unfold finishNumber
  repeat' split
  all_goals simp [Scan.fault,Scan.token,inner]

private theorem scanNumber_inner (cursor : Cursor) : (scanNumber cursor).kind? ≠ some .finish := by
  have decimal : (scanDecimal cursor).kind? ≠ some .finish := by
    unfold scanDecimal
    dsimp only
    repeat' split
    all_goals first
      | exact finishNumber_inner _ _ (by simp)
      | simp [Scan.fault]
  have radix (start : Cursor) (base : Nat) : (scanRadix cursor start base).kind? ≠ some .finish := by
    unfold scanRadix
    dsimp only
    repeat' split
    all_goals simp [Scan.fault,Scan.token]
  unfold scanNumber
  repeat' split
  · exact radix _ _
  · exact decimal
  · exact decimal

private theorem scanName_inner (cursor : Cursor) : (scanName cursor).kind? ≠ some .finish := by
  unfold scanName
  dsimp only
  split
  · exact scanString_inner _ _ _
  · cases found : Kind.keyword? (String.ofList (cursor.run isNamePart)) with
    | none => simp [Scan.token]
    | some kind =>
      have inner := keyword_inner (String.ofList (cursor.run isNamePart))
      rw [found] at inner
      simpa [Scan.token] using inner

theorem scanToken_inner (cursor : Cursor) (c : Char) : (scanToken cursor c).kind? ≠ some .finish := by
  unfold scanToken
  split
  · simp [Scan.token]
  repeat' split
  · exact scanString_inner _ _ _
  · exact scanNumber_inner cursor
  · exact scanName_inner cursor
  · simp [Scan.fault]

private theorem scanAll_ends (steps : Nat) (cursor : Cursor) : ∃ tokens finish,
    (scanAll steps cursor).1 = tokens ++ [finish] ∧ Parser.Inner tokens ∧ finish.what = .finish := by
  have none_inner : Parser.Inner [] := by simp [Parser.Inner]
  induction steps generalizing cursor with
  | zero => exact ⟨[],_,rfl,none_inner,rfl⟩
  | succ steps ih =>
    unfold scanAll
    split
    · exact ⟨[],_,rfl,none_inner,rfl⟩
    · next c rest here =>
      split
      · exact ih _
      · obtain ⟨tokens,finish,same,inner,ended⟩ := ih (scanToken cursor c).after
        refine ⟨(scanToken cursor c).kind?.toList.map (fun kind =>
          ⟨kind,⟨cursor.offset,(scanToken cursor c).after.offset⟩⟩) ++ tokens,finish,?_,?_,ended⟩
        · simp only [same,List.append_assoc]
        · intro token member
          rcases List.mem_append.mp member with here | later
          · obtain ⟨kind,isKind,rfl⟩ := List.mem_map.mp here
            rintro rfl
            exact scanToken_inner cursor c (Option.mem_toList.mp isKind)
          · exact inner token later

theorem lex_ends (source : String) (tokens : List Token) (cut : lex source = .ok tokens) :
    ∃ front finish, tokens = front ++ [finish] ∧ Parser.Inner front ∧ finish.what = .finish := by
  obtain ⟨front,finish,same,inner,ended⟩ :=
    scanAll_ends (source.toList.length + 1) ⟨0, source.toList⟩
  refine ⟨front,finish,?_,inner,ended⟩
  unfold lex at cut
  split at cut
  · next scanned =>
    cases cut
    rw [← same,scanned]
  · cases cut

/-! ### What may follow a token -/

def delimiters : List Char := [',', ':', ']', ')', '\x7d', ' ', '\t', '\n', '\r', '\x0c']

def Delimited (rest : List Char) : Prop := ∀ c ∈ rest.head?, c ∈ delimiters

theorem delimited_nil : Delimited [] := by
  rintro c ⟨⟩

theorem delimited_cons (c : Char) (rest : List Char) (delimiter : c ∈ delimiters) :
    Delimited (c :: rest) := by
  rintro d ⟨⟩
  exact delimiter

theorem Delimited.stops {rest : List Char} (delimited : Delimited rest) (p : Char → Bool)
    (outside : ∀ c ∈ delimiters, p c = false) : ∀ c ∈ rest.head?, p c = false :=
  fun c first => outside c (delimited c first)

theorem lexes_mark (mark : Mark) (rest : List Char) (others : List Kind) (lexes : Lexes rest others) :
    Lexes (mark.char :: rest) (.mark mark :: others) := by
  apply lexes_token mark.char [] rest (.mark mark) others
  · cases mark <;> rfl
  · intro offset
    have known : Mark.ofChar? mark.char = some mark := by cases mark <;> rfl
    simp only [scanToken,known]
    exact reads_token _ _
  · exact lexes

/-! ### Words -/

theorem lexes_word (c : Char) (word rest : List Char) (kind : Kind) (others : List Kind)
    (starts : isNameStart c = true)
    (solid : isGap c = false ∧ Mark.ofChar? c = none ∧ isQuote c = false ∧ isDecimalDigit c = false)
    (letters : ∀ d ∈ c :: word, isNamePart d = true)
    (known : (Kind.keyword? (String.ofList (c :: word))).getD (.ident (String.ofList (c :: word))) = kind)
    (stops : ∀ d ∈ rest.head?, isNamePart d = false) (free : ∀ d ∈ rest.head?, isQuote d = false)
    (lexes : Lexes rest others) : Lexes (c :: word ++ rest) (kind :: others) := by
  obtain ⟨noGap,noMark,noQuote,noDigit⟩ := solid
  apply lexes_token c word rest kind others noGap _ lexes
  intro offset
  have run := Cursor.run_eq isNamePart (c :: word) rest ⟨offset, c :: word ++ rest⟩ rfl letters stops
  have after := Cursor.rest_pass isNamePart (c :: word) rest ⟨offset, c :: word ++ rest⟩ rfl letters stops
  have noString :
      (((⟨offset, c :: word ++ rest⟩ : Cursor).pass isNamePart).peek?.filter isQuote) = none := by
    unfold Cursor.peek?
    rw [after]
    cases rest with
    | nil => rfl
    | cons d rest => simp [free d (by simp)]
  simp only [scanToken,noMark,noQuote,noDigit,starts,Bool.false_eq_true,↓reduceIte,scanName,noString,run,
    known]
  exact ⟨rfl,rfl,after⟩

end Proctor.Literal
