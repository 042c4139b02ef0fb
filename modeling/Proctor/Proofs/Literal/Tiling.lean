import Proctor.Proofs.Literal.Moving
import Mathlib

/-! The tokens of a source tile it: each stands for the characters in its span, one after another, with
nothing but gaps between them, and the end comes after the last character. -/
namespace Proctor.Literal
open Text.Utf8 (encode encode_append utf8ByteSize_eq getElem?_encode)
open Cursor

/-! ### Courses of reading -/

/-- From the place to the end of the source gaps are passed and these tokens are read. -/
inductive Cut : Cursor → List Token → Prop
  | finish (cursor : Cursor) (ended : cursor.rest = []) :
      Cut cursor [⟨.finish, ⟨cursor.offset, cursor.offset⟩⟩]
  | gap (cursor : Cursor) (c : Char) (tokens : List Token) (passed : Passes cursor [c] cursor.next)
      (gap : isGap c = true) (others : Cut cursor.next tokens) : Cut cursor tokens
  | token (cursor after : Cursor) (c : Char) (word : List Char) (kind : Kind) (tokens : List Token)
      (passed : Passes cursor (c :: word) after) (solid : isGap c = false)
      (read : scanToken cursor c = .token kind after) (others : Cut after tokens) :
      Cut cursor (⟨kind, ⟨cursor.offset, after.offset⟩⟩ :: tokens)

private theorem scanAll_cut (steps : Nat) (cursor : Cursor) (tokens : List Token)
    (scanned : scanAll steps cursor = (tokens, [])) (enough : cursor.rest.length < steps) :
    Cut cursor tokens := by
  -- Each step passes a character at least, so that the steps last to the end of the text.
  induction steps generalizing cursor tokens with
  | zero => omega
  | succ steps ih =>
    unfold scanAll at scanned
    split at scanned
    · next ended =>
      cases scanned
      exact .finish cursor ended
    · next c rest here =>
      have first := cursor.passes_next c rest here
      have shorter : cursor.next.rest.length < steps := by
        rw [first.rest] at enough
        simpa using enough
      split at scanned
      · next gap => exact .gap cursor c tokens first gap (ih cursor.next tokens scanned shorter)
      · next solid =>
        obtain ⟨⟨used,moved⟩,told⟩ := scanToken_moves cursor c rest here
        rcases read : scanToken cursor c with ⟨kind?,faults,after⟩
        rw [read] at moved told
        dsimp only at moved told
        have fewer : after.rest.length < steps := by
          rw [moved.rest,List.length_append] at shorter
          omega
        rcases later : scanAll steps after with ⟨more,others⟩
        simp only [read,later,Prod.mk.injEq,List.append_eq_nil_iff,List.map_eq_nil_iff] at scanned
        obtain ⟨rfl,clean,rfl⟩ := scanned
        obtain ⟨kind,isKind⟩ := Option.ne_none_iff_exists'.mp fun none => told none clean
        subst clean isKind
        exact .token cursor after c used kind more (first.trans moved) (by simpa using solid) read
          (ih after more later fewer)

theorem lex_cut (source : String) (tokens : List Token) (cut : lex source = .ok tokens) :
    Cut ⟨0, source.toList⟩ tokens := by
  unfold lex at cut
  split at cut
  · next scanned =>
    cases cut
    exact scanAll_cut _ ⟨0, source.toList⟩ tokens scanned (Nat.lt_succ_self _)
  · cases cut

/-! ### Tilings -/

/-- From an offset on, the text is made of gaps and of the tokens, each with its characters in its span. -/
inductive Tiling : Nat → List Char → List Token → Prop
  | finish (offset : Nat) : Tiling offset [] [⟨.finish, ⟨offset, offset⟩⟩]
  | gap (offset : Nat) (c : Char) (rest : List Char) (tokens : List Token) (gap : isGap c = true)
      (others : Tiling (offset + (encode [c]).length) rest tokens) : Tiling offset (c :: rest) tokens
  | token (offset : Nat) (kind : Kind) (word rest : List Char) (tokens : List Token)
      (inner : kind ≠ .finish) (some : word ≠ [])
      (others : Tiling (offset + (encode word).length) rest tokens) :
      Tiling offset (word ++ rest) (⟨kind, ⟨offset, offset + (encode word).length⟩⟩ :: tokens)

theorem Cut.tiling {cursor : Cursor} {tokens : List Token} (cut : Cut cursor tokens) :
    Tiling cursor.offset cursor.rest tokens := by
  induction cut with
  | finish cursor ended =>
    rw [ended]
    exact .finish cursor.offset
  | gap cursor c tokens passed gap _ ih =>
    rw [passed.offset] at ih
    rw [passed.rest]
    exact .gap cursor.offset c _ tokens gap ih
  | token cursor after c word kind tokens passed _ read _ ih =>
    rw [passed.offset] at ih ⊢
    rw [passed.rest]
    refine .token cursor.offset kind (c :: word) _ tokens ?_ (List.cons_ne_nil c word) ih
    rintro rfl
    have inner := scanToken_inner cursor c
    rw [read] at inner
    exact inner rfl

theorem lex_tiling (source : String) (tokens : List Token) (cut : lex source = .ok tokens) :
    Tiling 0 source.toList tokens := (lex_cut source tokens cut).tiling

/-! ### What a tiling says of spans -/

section Tiling
variable {offset : Nat} {text : List Char} {tokens : List Token}

theorem Tiling.ends (tiling : Tiling offset text tokens) : ∃ front,
    tokens = front ++ [⟨.finish, ⟨offset + (encode text).length, offset + (encode text).length⟩⟩] ∧
      ∀ token ∈ front, token.what ≠ .finish ∧ token.span.start < token.span.stop := by
  induction tiling with
  | finish offset => exact ⟨[],rfl,by simp⟩
  | gap offset c rest tokens _ _ ih =>
    obtain ⟨front,same,inner⟩ := ih
    refine ⟨front,?_,inner⟩
    rw [same,← List.singleton_append (l := rest),encode_append,List.length_append,Nat.add_assoc]
  | token offset kind word rest tokens inner some _ ih =>
    obtain ⟨front,same,others⟩ := ih
    refine ⟨⟨kind, ⟨offset, offset + (encode word).length⟩⟩ :: front,?_,?_⟩
    · rw [same,encode_append,List.length_append,Nat.add_assoc,List.cons_append]
    · have bytes : 0 < (encode word).length :=
        List.length_pos_iff.mpr fun none => some ((Text.Utf8.encode_nil_iff word).mp none)
      exact List.forall_mem_cons.mpr ⟨⟨inner,Nat.lt_add_of_pos_right bytes⟩,others⟩

theorem Tiling.starts (tiling : Tiling offset text tokens) :
    ∀ token ∈ tokens, offset ≤ token.span.start := by
  induction tiling with
  | finish offset => simp
  | gap offset c rest tokens _ _ ih =>
    exact fun token inside => Nat.le_trans (Nat.le_add_right _ _) (ih token inside)
  | token offset kind word rest tokens _ _ _ ih =>
    exact List.forall_mem_cons.mpr ⟨Nat.le_refl _,
      fun token inside => Nat.le_trans (Nat.le_add_right _ _) (ih token inside)⟩

theorem Tiling.ordered (tiling : Tiling offset text tokens) :
    tokens.Pairwise fun token later => token.span.stop ≤ later.span.start := by
  induction tiling with
  | finish offset => exact List.pairwise_singleton _ _
  | gap offset c rest tokens _ _ ih => exact ih
  | token offset kind word rest tokens _ _ others ih => exact List.pairwise_cons.mpr ⟨others.starts,ih⟩

/-- The place lies between two characters of the text, or at one of its ends. -/
def Between (offset : Nat) (text : List Char) (place : Nat) : Prop :=
  ∃ before after, text = before ++ after ∧ place = offset + (encode before).length

theorem Between.after {word rest : List Char} {place : Nat}
    (between : Between (offset + (encode word).length) rest place) :
    Between offset (word ++ rest) place := by
  obtain ⟨before,after,rfl,rfl⟩ := between
  exact ⟨word ++ before,after,(List.append_assoc _ _ _).symm,
    by rw [encode_append,List.length_append,Nat.add_assoc]⟩

theorem Tiling.between (tiling : Tiling offset text tokens) : ∀ token ∈ tokens,
    Between offset text token.span.start ∧ Between offset text token.span.stop := by
  induction tiling with
  | finish offset =>
    intro token inside
    rw [List.mem_singleton.mp inside]
    exact ⟨⟨[],[],rfl,rfl⟩,⟨[],[],rfl,rfl⟩⟩
  | gap offset c rest tokens _ _ ih =>
    intro token inside
    obtain ⟨start,stop⟩ := ih token inside
    exact ⟨start.after,stop.after⟩
  | token offset kind word rest tokens _ _ _ ih =>
    refine List.forall_mem_cons.mpr ⟨⟨⟨[],_,rfl,rfl⟩,⟨word,rest,rfl,rfl⟩⟩,fun token inside => ?_⟩
    obtain ⟨start,stop⟩ := ih token inside
    exact ⟨start.after,stop.after⟩

def gapBytes : List UInt8 := [0x20, 0x09, 0x0a, 0x0d, 0x0c]

private theorem encode_gap (c : Char) (gap : isGap c = true) : ∃ b ∈ gapBytes, encode [c] = [b] := by
  simp only [isGap,Bool.or_eq_true,beq_iff_eq] at gap
  rcases gap with (((rfl | rfl) | rfl) | rfl) | rfl
  · exact ⟨0x20,by decide,rfl⟩
  · exact ⟨0x09,by decide,rfl⟩
  · exact ⟨0x0a,by decide,rfl⟩
  · exact ⟨0x0d,by decide,rfl⟩
  · exact ⟨0x0c,by decide,rfl⟩

theorem Tiling.outside (tiling : Tiling offset text tokens) (i : Nat) (b : UInt8)
    (byte : (encode text)[i]? = some b)
    (apart : ∀ token ∈ tokens, offset + i < token.span.start ∨ token.span.stop ≤ offset + i) :
    b ∈ gapBytes := by
  induction tiling generalizing i with
  | finish offset => simp [encode] at byte
  | gap offset c rest tokens gap _ ih =>
    obtain ⟨g,known,single⟩ := encode_gap c gap
    rw [← List.singleton_append (l := rest),encode_append,single,List.singleton_append] at byte
    cases i with
    | zero =>
      cases byte
      exact known
    | succ i =>
      rw [List.getElem?_cons_succ] at byte
      refine ih i byte fun token inside => ?_
      rw [single,List.length_singleton,Nat.add_assoc,Nat.add_comm 1 i]
      exact apart token inside
  | token offset kind word rest tokens _ _ _ ih =>
    obtain ⟨first,others⟩ := List.forall_mem_cons.mp apart
    have behind : (encode word).length ≤ i := by
      dsimp only at first
      omega
    obtain ⟨j,rfl⟩ := Nat.exists_eq_add_of_le behind
    rw [encode_append,List.getElem?_append_right behind,Nat.add_sub_cancel_left] at byte
    refine ih j byte fun token inside => ?_
    rw [Nat.add_assoc]
    exact others token inside

end Tiling

/-! ### Sources -/

theorem valid_of_between (source : String) (place : Nat) (between : Between 0 source.toList place) :
    (⟨place⟩ : String.Pos.Raw).IsValid source := by
  obtain ⟨before,after,same,rfl⟩ := between
  refine String.Pos.Raw.isValid_iff_exists_append.mpr ⟨String.ofList before,String.ofList after,?_,?_⟩
  · rw [← String.ofList_append,← same,String.ofList_toList]
  · rw [Nat.zero_add,← utf8ByteSize_eq]
    rfl

/-- The tokens of an accepted source tile it. The last one alone is the end, after the last byte, the others
have spans that are not empty, follow one another and lie between characters, and a byte that no span covers
is a space, a tab, a newline, a carriage return or a form feed. -/
theorem tokens_tile_source (source : String) (tokens : List Token) (cut : lex source = .ok tokens) :
    Tiling 0 source.toList tokens ∧
    (∃ front, tokens = front ++ [⟨.finish, ⟨source.utf8ByteSize, source.utf8ByteSize⟩⟩] ∧
      ∀ token ∈ front, token.what ≠ .finish ∧ token.span.start < token.span.stop) ∧
    tokens.Pairwise (fun token later => token.span.stop ≤ later.span.start) ∧
    (∀ token ∈ tokens, (⟨token.span.start⟩ : String.Pos.Raw).IsValid source ∧
      (⟨token.span.stop⟩ : String.Pos.Raw).IsValid source) ∧
    ∀ (i : Nat) (inside : i < source.toByteArray.size),
      (∀ token ∈ tokens, i < token.span.start ∨ token.span.stop ≤ i) →
      source.toByteArray[i] ∈ gapBytes := by
  have tiling := lex_tiling source tokens cut
  have size : source.utf8ByteSize = (encode source.toList).length := by
    rw [← utf8ByteSize_eq,String.ofList_toList]
  refine ⟨tiling,?_,tiling.ordered,fun token inside => ?_,fun i inside apart => ?_⟩
  · rw [size,← Nat.zero_add (encode source.toList).length]
    exact tiling.ends
  · obtain ⟨start,stop⟩ := tiling.between token inside
    exact ⟨valid_of_between source _ start,valid_of_between source _ stop⟩
  · exact tiling.outside i _ (getElem?_encode source i inside) (by simpa using apart)

/-- A string with a character of two bytes, a newline, a raw string of three quotes, and a form feed. -/
theorem wide_character_tiled :
    let source := String.ofList ['\'', 'é', '\'', '\n', 'r', '"', '"', '"', '"', '"', '"', '\x0c']
    let tokens : List Token := [⟨.text "é", ⟨0, 4⟩⟩, ⟨.text "", ⟨5, 12⟩⟩, ⟨.finish, ⟨13, 13⟩⟩]
    lex source = .ok tokens ∧ Tiling 0 source.toList tokens ∧
      tokens.Pairwise (fun token later => token.span.stop ≤ later.span.start) ∧
      (⟨4⟩ : String.Pos.Raw).IsValid source ∧
      ∃ inside : 12 < source.toByteArray.size, source.toByteArray[12] ∈ gapBytes := by
  intro source tokens
  have cut : lex source = .ok tokens := by
    unfold lex
    rw [String.toList_ofList]
    rfl
  obtain ⟨tiling,-,ordered,between,outside⟩ := tokens_tile_source source tokens cut
  have inside : 12 < source.toByteArray.size := by decide +kernel
  exact ⟨cut,tiling,ordered,(between _ List.mem_cons_self).2,inside,outside 12 inside (by decide)⟩

end Proctor.Literal
