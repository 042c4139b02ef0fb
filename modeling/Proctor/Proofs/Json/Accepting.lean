import Proctor.Proofs.Json.Decoding
import Proctor.Proofs.Json.Soundness
import Mathlib

/-! Decoders take nothing but the spellings of what they decode: strings, lists and pairs, with blanks
wherever the grammar has them. -/
namespace Proctor.Json
open Grammar State

def Quoted (text : List Char) (value : String) : Prop :=
  ∃ body characters, text = '"' :: body ++ ['"'] ∧ Characters body characters ∧
    value = String.ofList characters

def Listed {α : Type} (One : List Char → α → Prop) (text : List Char) (found : List α) : Prop :=
  ∃ inner, text = '[' :: inner ++ [']'] ∧ Parts One inner found

inductive Paired {α β : Type} (One : List Char → α → Prop) (Other : List Char → β → Prop) :
    List Char → α × β → Prop
  | pair (first text second third other fourth : List Char) (a : α) (b : β) (blankFirst : Blank first)
      (blankSecond : Blank second) (blankThird : Blank third) (blankFourth : Blank fourth)
      (one : One text a) (another : Other other b) :
      Paired One Other
        ('[' :: (first ++ text ++ (second ++ ',' :: (third ++ other ++ (fourth ++ [']']))))) (a, b)

private theorem peekValue_bind {α : Type} {f : Char → Reader α} {text : List Char} {result : α × List Char}
    (taken : (peekValue >>= f) text = .ok result) :
    ∃ gaps c others, Blank gaps ∧ text = gaps ++ c :: others ∧ f c (c :: others) = .ok result := by
  obtain ⟨c,rest,peeked,inside⟩ := (bind_ok _ _ _ _).mp taken
  unfold peekValue at peeked
  obtain ⟨gaps,c?,rest,blank,rfl,head,-,returned⟩ := peek_bind peeked
  cases c? with
  | none => cases returned
  | some c =>
    cases returned
    obtain ⟨others,rfl⟩ := head_some head
    exact ⟨gaps,c,others,blank,rfl,inside⟩

private theorem endList_taken (text after : List Char) (done : Unit)
    (taken : endList text = .ok (done, after)) :
    ∃ gaps, Blank gaps ∧ text = gaps ++ ']' :: after := by
  have whole := taken
  unfold endList at taken
  obtain ⟨gaps,c?,rest,blank,rfl,head,-,taken⟩ := peek_bind taken
  split at taken
  · cases taken
  · obtain ⟨others,rfl⟩ := head_some head
    rw [endList_close gaps others blank] at whole
    cases whole
    exact ⟨gaps,blank,rfl⟩
  · rw [bind_ok] at taken
    obtain ⟨_,_,_,taken⟩ := taken
    rw [bind_ok] at taken
    obtain ⟨_,_,_,taken⟩ := taken
    split at taken <;> cases taken
  · cases taken

theorem decodeString_ok (wanted : String) (text : List Char) (value : String) (rest : List Char)
    (taken : decodeString wanted text = .ok (value, rest)) : Took Quoted text value rest := by
  unfold decodeString at taken
  obtain ⟨gaps,c,others,blank,rfl,went⟩ := peekValue_bind taken
  split at went
  · next quote =>
    subst quote
    obtain ⟨body,characters,rfl,inside,same⟩ := stringToken_ok others rest value went
    exact ⟨gaps,'"' :: body ++ ['"'],blank,by simp,body,characters,rfl,inside,same⟩
  · exact absurd went (mismatch_error wanted _ _)

section Containers
variable {α β : Type}

private theorem entering_ok (room : Nat) (inside : Nat → Reader α) (c : Char) (others rest : List Char) (a : α)
    (taken : entering room inside (c :: others) = .ok (a, rest)) :
    ∃ less, room = less + 1 ∧ inside less others = .ok (a, rest) := by
  cases room with
  | zero => cases taken
  | succ less => exact ⟨less,rfl,taken⟩

theorem decodeList_ok (decode : Decoder α) (One : List Char → α → Prop)
    (sound : ∀ room text a rest, decode room text = .ok (a, rest) → Took One text a rest)
    (room : Nat) (text : List Char) (found : List α) (rest : List Char)
    (taken : decodeList decode room text = .ok (found, rest)) : Took (Listed One) text found rest := by
  unfold decodeList at taken
  obtain ⟨gaps,c,others,blank,rfl,went⟩ := peekValue_bind taken
  split at went
  · next bracket =>
    subst bracket
    obtain ⟨less,rfl,inside⟩ := entering_ok _ _ _ _ _ _ went
    rw [bind_ok] at inside
    obtain ⟨bound,_,bounded,taken⟩ := inside
    cases bounded
    rw [items_eq_loop,bind_ok] at taken
    obtain ⟨found,_,read,taken⟩ := taken
    rw [bind_ok] at taken
    obtain ⟨_,_,ended,taken⟩ := taken
    cases taken
    have each : Sound StartsItem (decode less) One := fun c others a rest _ read => sound _ _ _ _ read
    obtain ⟨used,rfl,head,parts⟩ := loop_parts separates_items each _ _ _ _ _ read
    have closed := endList_ok _ _ _ head ended
    exact ⟨gaps,'[' :: used ++ [']'],blank,by simp [closed],used,rfl,parts⟩
  · exact absurd went (mismatch_error "a sequence" _ _)

theorem decodePair_ok (left : Decoder α) (right : Decoder β) (One : List Char → α → Prop)
    (Other : List Char → β → Prop)
    (leftSound : ∀ room text a rest, left room text = .ok (a, rest) → Took One text a rest)
    (rightSound : ∀ room text b rest, right room text = .ok (b, rest) → Took Other text b rest)
    (room : Nat) (text : List Char) (found : α × β) (rest : List Char)
    (taken : decodePair left right room text = .ok (found, rest)) :
    Took (Paired One Other) text found rest := by
  unfold decodePair at taken
  obtain ⟨gaps,c,others,blank,rfl,went⟩ := peekValue_bind taken
  split at went
  · next bracket =>
    subst bracket
    obtain ⟨less,rfl,inside⟩ := entering_ok _ _ _ _ _ _ went
    rw [bind_ok] at inside
    obtain ⟨more,_,asked,inside⟩ := inside
    obtain ⟨first,blankFirst,rfl,c,head,shape⟩ := separates_items.first_ok _ _ _ asked
    cases more with
    | false => cases inside
    | true =>
      change (left less >>= _) _ = _ at inside
      rw [bind_ok] at inside
      obtain ⟨a,_,leftRead,inside⟩ := inside
      obtain ⟨front,used,blankFront,rfl,one⟩ := leftSound _ _ _ _ leftRead
      rw [bind_ok] at inside
      obtain ⟨more,_,asked,inside⟩ := inside
      obtain ⟨second,blankSecond,d,_,shape⟩ := separates_items.later_ok _ _ _ asked
      cases more with
      | false => cases inside
      | true =>
        obtain ⟨-,third,blankThird,rfl⟩ := shape
        change (right less >>= _) _ = _ at inside
        rw [bind_ok] at inside
        obtain ⟨b,_,rightRead,inside⟩ := inside
        obtain ⟨middle,other,blankMiddle,rfl,another⟩ := rightSound _ _ _ _ rightRead
        rw [bind_ok] at inside
        obtain ⟨_,_,ended,inside⟩ := inside
        cases inside
        obtain ⟨fourth,blankFourth,rfl⟩ := endList_taken _ _ _ ended
        have pair := Paired.pair (first ++ front) used second (third ++ middle) other fourth a b
          (blank_append _ _ blankFirst blankFront) blankSecond
          (blank_append _ _ blankThird blankMiddle) blankFourth one another
        exact ⟨gaps,_,blank,by simp,pair⟩
  · exact absurd went (mismatch_error "a tuple of size 2" _ _)

end Containers
end Proctor.Json
