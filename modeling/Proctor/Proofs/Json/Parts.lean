import Proctor.Proofs.Json.Grammar
import Proctor.Proofs.Literal.Lexing
import Proctor.Proofs.State
import Mathlib

/-! Items and members are read by one loop: as long as another part follows it is read. How a reader
decides that another part follows is told once for lists and once for objects. -/
namespace Proctor.Json
open Grammar State
open Literal (Delimited delimiters delimited_cons)

/-! ### Blanks -/

private theorem peek_ok (text rest : List Char) (c? : Option Char) (peeked : peek text = .ok (c?, rest)) :
    ∃ gaps, Blank gaps ∧ text = gaps ++ rest ∧ rest.head? = c? ∧ ∀ c ∈ c?, isSpace c = false := by
  cases peeked
  refine ⟨text.takeWhile isSpace,fun c member => List.mem_takeWhile_imp member,
    (List.takeWhile_append_dropWhile).symm,rfl,?_⟩
  intro c first
  have solid := List.head?_dropWhile_not isSpace text
  rw [first] at solid
  simpa using solid

/-- What is read after a look at the next character is read from that character on. -/
theorem peek_bind {α : Type} {f : Option Char → Reader α} {text : List Char} {result : α × List Char}
    (taken : (peek >>= f) text = .ok result) : ∃ gaps c? rest, Blank gaps ∧ text = gaps ++ rest ∧
      rest.head? = c? ∧ (∀ c ∈ c?, isSpace c = false) ∧ f c? rest = .ok result := by
  obtain ⟨c?,rest,peeked,taken⟩ := (bind_ok _ _ _ _).mp taken
  obtain ⟨gaps,blank,same,head,solid⟩ := peek_ok _ _ _ peeked
  exact ⟨gaps,c?,rest,blank,same,head,solid,taken⟩

theorem peek_cons (gaps rest : List Char) (c : Char) (blank : Blank gaps) (solid : isSpace c = false) :
    peek (gaps ++ c :: rest) = .ok (some c, c :: rest) := by
  simp [peek,List.dropWhile_append_of_pos blank,solid]

theorem peek_blank (gaps : List Char) (blank : Blank gaps) : peek gaps = .ok (none, []) := by
  have all := List.dropWhile_eq_nil_iff.mpr blank
  simp [peek,all]

@[simp] theorem advance_cons (c : Char) (rest : List Char) : advance (c :: rest) = .ok ((), rest) := rfl

theorem head_some {rest : List Char} {c : Char} (first : rest.head? = some c) :
    ∃ others, rest = c :: others := by
  cases rest with
  | nil => cases first
  | cons d others => cases first; exact ⟨others,rfl⟩

theorem delimited_blank (gaps rest : List Char) (blank : Blank gaps) (delimited : Delimited rest) :
    Delimited (gaps ++ rest) := by
  cases gaps with
  | nil => exact delimited
  | cons c gaps =>
    have space := blank c (by simp)
    apply delimited_cons
    simp only [isSpace,Bool.or_eq_true,beq_iff_eq] at space
    rcases space with ((rfl | rfl) | rfl) | rfl <;> simp [delimiters]

theorem delimited_blanks (gaps : List Char) (blank : Blank gaps) : Delimited gaps := by
  simpa using delimited_blank gaps [] blank Literal.delimited_nil

/-! ### The loop -/

def loop {α : Type} (next : Bool → Reader Bool) (part : Reader α) (fault : Fault) :
    Nat → Bool → Reader (List α)
  | 0, _ => throw fault
  | bound + 1, first => do
    if ← next first then
      let x ← part
      let others ← loop next part fault bound false
      return x :: others
    else return []

def member {α : Type} (value : Reader α) : Reader (String × α) := do
  let name ← stringToken
  colon
  let x ← value
  return (name, x)

theorem items_eq_loop {α : Type} (item : Reader α) (bound : Nat) (first : Bool) :
    items item bound first = loop nextItem item .endOfList bound first := by
  induction bound generalizing first with
  | zero => rfl
  | succ bound ih => simp only [items,loop,ih]

theorem members_eq_loop {α : Type} (value : Reader α) (bound : Nat) (first : Bool) :
    members value bound first = loop nextName (member value) .endOfObject bound first := by
  induction bound generalizing first with
  | zero => rfl
  | succ bound ih => simp only [members,loop,member,ih,bind_assoc,pure_bind]

/-! ### Whether another part follows -/

/-- What `next` takes before a part or before the closing bracket. Parts start with the characters
in `Starts`. -/
structure Separates (next : Bool → Reader Bool) (close : Char) (Starts : Char → Prop) : Prop where
  first_ok : ∀ text more rest, next true text = .ok (more, rest) → ∃ gaps, Blank gaps ∧
    text = gaps ++ rest ∧ ∃ c, rest.head? = some c ∧ if more then Starts c else c = close
  later_ok : ∀ text more rest, next false text = .ok (more, rest) → ∃ gaps, Blank gaps ∧
    ∃ c, rest.head? = some c ∧ if more
      then Starts c ∧ ∃ after, Blank after ∧ text = gaps ++ ',' :: (after ++ rest)
      else c = close ∧ text = gaps ++ rest
  ends : ∀ first gaps rest, Blank gaps →
    next first (gaps ++ close :: rest) = .ok (false, close :: rest)
  first : ∀ gaps c rest, Blank gaps → Starts c → next true (gaps ++ c :: rest) = .ok (true, c :: rest)
  later : ∀ gaps after c rest, Blank gaps → Blank after → Starts c →
    next false (gaps ++ ',' :: (after ++ c :: rest)) = .ok (true, c :: rest)

def StartsItem (c : Char) : Prop := isSpace c = false ∧ c ≠ ']'

theorem separates_items : Separates nextItem ']' StartsItem where
  first_ok text more rest taken := by
    unfold nextItem at taken
    obtain ⟨gaps,c?,_,blank,rfl,head,solid,taken⟩ := peek_bind taken
    refine ⟨gaps,blank,?_⟩
    split at taken
    · cases taken
    · cases taken
      exact ⟨rfl,']',head,rfl⟩
    · next c noClose =>
      cases taken
      exact ⟨rfl,c,head,solid c rfl,noClose⟩
  later_ok text more rest taken := by
    unfold nextItem at taken
    obtain ⟨gaps,c?,_,blank,rfl,head,-,taken⟩ := peek_bind taken
    refine ⟨gaps,blank,?_⟩
    split at taken
    · cases taken
    · cases taken
      exact ⟨']',head,rfl,rfl⟩
    · rw [if_neg (by simp)] at taken
      split at taken
      · next comma =>
        subst comma
        obtain ⟨others,rfl⟩ := head_some head
        rw [bind_of_ok _ _ _ _ _ (advance_cons ',' others)] at taken
        obtain ⟨after,d?,_,blankAfter,rfl,next,solid,taken⟩ := peek_bind taken
        split at taken
        · cases taken
        · cases taken
        · next d noClose =>
          cases taken
          exact ⟨d,next,⟨solid d rfl,noClose⟩,after,blankAfter,rfl⟩
      · cases taken
  ends first gaps rest blank := by
    unfold nextItem
    rw [bind_of_ok _ _ _ _ _ (peek_cons gaps rest ']' blank rfl)]
    rfl
  first gaps c rest blank starts := by
    unfold nextItem
    rw [bind_of_ok _ _ _ _ _ (peek_cons gaps rest c blank starts.1)]
    simp [starts.2]
  later gaps after c rest blank blankAfter starts := by
    unfold nextItem
    rw [bind_of_ok _ _ _ _ _ (peek_cons gaps _ ',' blank rfl)]
    change (advance >>= _) _ = _
    rw [bind_of_ok _ _ _ _ _ (advance_cons ',' _),
      bind_of_ok _ _ _ _ _ (peek_cons after rest c blankAfter starts.1)]
    simp [starts.2]

theorem separates_names : Separates nextName '\x7d' (· = '"') where
  first_ok text more rest taken := by
    unfold nextName at taken
    obtain ⟨gaps,c?,_,blank,rfl,head,-,taken⟩ := peek_bind taken
    refine ⟨gaps,blank,?_⟩
    split at taken
    · cases taken
    · cases taken
      exact ⟨rfl,'\x7d',head,rfl⟩
    · next c noClose =>
      rw [if_pos rfl] at taken
      split at taken
      · next isQuote =>
        cases taken
        exact ⟨rfl,c,head,isQuote⟩
      · cases taken
  later_ok text more rest taken := by
    unfold nextName at taken
    obtain ⟨gaps,c?,_,blank,rfl,head,-,taken⟩ := peek_bind taken
    refine ⟨gaps,blank,?_⟩
    split at taken
    · cases taken
    · cases taken
      exact ⟨'\x7d',head,rfl,rfl⟩
    · rw [if_neg (by simp)] at taken
      split at taken
      · next comma =>
        subst comma
        obtain ⟨others,rfl⟩ := head_some head
        rw [bind_of_ok _ _ _ _ _ (advance_cons ',' others)] at taken
        obtain ⟨after,d?,_,blankAfter,rfl,next,-,taken⟩ := peek_bind taken
        split at taken
        · cases taken
        · cases taken
          exact ⟨'"',next,rfl,after,blankAfter,rfl⟩
        · cases taken
        · cases taken
      · cases taken
  ends first gaps rest blank := by
    unfold nextName
    rw [bind_of_ok _ _ _ _ _ (peek_cons gaps rest '\x7d' blank rfl)]
    rfl
  first gaps c rest blank starts := by
    subst starts
    unfold nextName
    rw [bind_of_ok _ _ _ _ _ (peek_cons gaps rest '"' blank rfl)]
    rfl
  later gaps after c rest blank blankAfter starts := by
    subst starts
    unfold nextName
    rw [bind_of_ok _ _ _ _ _ (peek_cons gaps _ ',' blank rfl)]
    change (advance >>= _) _ = _
    rw [bind_of_ok _ _ _ _ _ (advance_cons ',' _),
      bind_of_ok _ _ _ _ _ (peek_cons after rest '"' blankAfter rfl)]
    rfl

/-! ### Closing brackets and colons -/

theorem endList_close (gaps rest : List Char) (blank : Blank gaps) :
    endList (gaps ++ ']' :: rest) = .ok ((), rest) := by
  unfold endList
  rw [bind_of_ok _ _ _ _ _ (peek_cons gaps rest ']' blank rfl)]
  rfl

theorem endObject_close (gaps rest : List Char) (blank : Blank gaps) :
    endObject (gaps ++ '\x7d' :: rest) = .ok ((), rest) := by
  unfold endObject
  rw [bind_of_ok _ _ _ _ _ (peek_cons gaps rest '\x7d' blank rfl)]
  rfl

theorem colon_close (gaps rest : List Char) (blank : Blank gaps) :
    colon (gaps ++ ':' :: rest) = .ok ((), rest) := by
  unfold colon
  rw [bind_of_ok _ _ _ _ _ (peek_cons gaps rest ':' blank rfl)]
  rfl

end Proctor.Json
