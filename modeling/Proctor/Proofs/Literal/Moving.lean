import Proctor.Proofs.Literal.Numbers
import Proctor.Proofs.Text.Utf8
import Mathlib

/-! Reading a token only moves on: from the place where it starts every scanner passes some characters,
one at least, and counts each of them with its bytes. Where it leaves no token, it tells of a fault. -/
namespace Proctor.Literal
open Text.Utf8 (encode encode_append)

/-! ### Places further on -/

namespace Cursor

/-- Between the two places stand the characters, and their bytes are counted. -/
structure Passes (start : Cursor) (used : List Char) (stop : Cursor) : Prop where
  rest : start.rest = used ++ stop.rest
  offset : stop.offset = start.offset + (encode used).length

def Ahead (start stop : Cursor) : Prop := ∃ used, Passes start used stop

theorem passes_next (cursor : Cursor) (c : Char) (rest : List Char) (here : cursor.rest = c :: rest) :
    Passes cursor [c] cursor.next := by
  have width : (encode [c]).length = c.utf8Size := by simp [encode]
  exact ⟨by simp [next,here],by simp [next,here,width]⟩

theorem Passes.trans {start middle stop : Cursor} {used more : List Char}
    (first : Passes start used middle) (second : Passes middle more stop) :
    Passes start (used ++ more) stop where
  rest := by rw [first.rest,second.rest,List.append_assoc]
  offset := by rw [second.offset,first.offset,encode_append,List.length_append,Nat.add_assoc]

theorem Ahead.refl (cursor : Cursor) : Ahead cursor cursor := ⟨[],rfl,rfl⟩

theorem Ahead.trans {start middle stop : Cursor} (first : Ahead start middle)
    (second : Ahead middle stop) : Ahead start stop := by
  obtain ⟨used,first⟩ := first
  obtain ⟨more,second⟩ := second
  exact ⟨used ++ more,first.trans second⟩

theorem ahead_next (cursor : Cursor) : Ahead cursor cursor.next := by
  cases here : cursor.rest with
  | nil =>
    have stays : cursor.next = cursor := by simp [next,here]
    rw [stays]
    exact .refl cursor
  | cons c rest => exact ⟨[c],passes_next cursor c rest here⟩

theorem ahead_skip (cursor : Cursor) (n : Nat) : Ahead cursor (cursor.skip n) := by
  induction n generalizing cursor with
  | zero => exact .refl cursor
  | succ n ih => exact (ahead_next cursor).trans (ih cursor.next)

theorem ahead_pass (cursor : Cursor) (p : Char → Bool) : Ahead cursor (cursor.pass p) := ahead_skip _ _

theorem ahead_pass_first (cursor : Cursor) (p : Char → Bool) (c : Char) (rest : List Char)
    (here : cursor.rest = c :: rest) (first : p c = true) : Ahead cursor.next (cursor.pass p) := by
  have run : cursor.run p = c :: rest.takeWhile p := by simp [Cursor.run,here,first]
  rw [pass,run]
  exact ahead_skip cursor.next _

end Cursor

open Cursor

/-- The scan stops at the place or further on; if it leaves no token, it tells of a fault. -/
structure Scan.Moves (start : Cursor) (scan : Scan) : Prop where
  ahead : start.Ahead scan.after
  tells : scan.kind? = none → scan.faults ≠ []

private theorem moves_token (kind : Kind) {start after : Cursor} (ahead : start.Ahead after) :
    Scan.Moves start (.token kind after) := ⟨ahead,nofun⟩

private theorem moves_fault (fault : LexFault) {start after : Cursor} (ahead : start.Ahead after) :
    Scan.Moves start (.fault fault after) := ⟨ahead,fun _ => List.cons_ne_nil _ _⟩

theorem Scan.Moves.before {start middle : Cursor} {scan : Scan} (moves : Scan.Moves middle scan)
    (first : start.Ahead middle) : Scan.Moves start scan := ⟨first.trans moves.ahead,moves.tells⟩

/-! ### Strings -/

theorem hexDigits_ahead (count value : Nat) (cursor : Cursor) :
    cursor.Ahead (hexDigits count value cursor).2 := by
  induction count generalizing value cursor with
  | zero => exact .refl cursor
  | succ count ih =>
    unfold hexDigits
    split
    · exact (ahead_next cursor).trans (ih _ cursor.next)
    · exact .refl cursor

theorem octalDigits_ahead (count value : Nat) (cursor : Cursor) :
    cursor.Ahead (octalDigits count value cursor).2 := by
  induction count generalizing value cursor with
  | zero => exact .refl cursor
  | succ count ih =>
    unfold octalDigits
    split
    · exact (ahead_next cursor).trans (ih _ cursor.next)
    · exact .refl cursor

theorem shortCode_ahead (value : Nat) (cursor : Cursor) : cursor.Ahead (shortCode value cursor).2 := by
  unfold shortCode
  split
  · split
    · exact ahead_skip cursor 6
    · exact .refl cursor
  · split <;> exact .refl cursor

theorem scanEscape_ahead (bytes : Bool) (cursor : Cursor) :
    cursor.next.Ahead (scanEscape bytes cursor).2 := by
  have hex {count : Nat} {found? : Option Nat} {after : Cursor}
      (read : hexDigits count 0 cursor.next = (found?, after)) : cursor.next.Ahead after := by
    have ahead := hexDigits_ahead count 0 cursor.next
    rwa [read] at ahead
  unfold scanEscape
  split
  · next ended =>
    have stays : cursor.next = cursor := by
      simp [next,List.head?_eq_none_iff.mp ended]
    rw [stays]
    exact .refl cursor
  · next c _ =>
    dsimp only
    split
    · exact .refl _
    · next digit _ _ =>
      have octal := octalDigits_ahead 2 digit cursor.next
      split <;> exact octal
    · split
      · exact .refl _
      split
      · split
        · next value after read => exact hex read
        · next after read => exact hex read
      split
      · split
        · next value after read => exact (hex read).trans (shortCode_ahead value after)
        · next after read => exact hex read
      split
      · split
        · next value after read => split <;> exact hex read
        · next after read => exact hex read
      · exact .refl _

/-- What one turn of the scan makes of the body that follows: it ends here or further on, or goes on from there
with what it took. -/
inductive Body.Turn (bytes : Bool) (cursor : Cursor) (later : Cursor → Body) : Body → Prop
  | closed (after : Cursor) (ahead : cursor.Ahead after) : Turn bytes cursor later (.closed after)
  | broken (fault : LexFault) (stop : Cursor) (ahead : cursor.Ahead stop) :
    Turn bytes cursor later (.broken fault stop)
  | went (pieces : List Piece) (middle : Cursor) (ahead : cursor.Ahead middle)
      (coded : ∀ n, .code n ∈ pieces → scanEscape bytes cursor.next = (.code n, middle)) :
    Turn bytes cursor later ((later middle).prepend pieces)
  | reported (fault : LexFault) (middle : Cursor) (ahead : cursor.Ahead middle) :
    Turn bytes cursor later ((later middle).report fault middle.offset)

theorem Body.Turn.plain {bytes : Bool} {cursor middle : Cursor} {later : Cursor → Body} (pieces : List Char)
    (ahead : cursor.Ahead middle) : Turn bytes cursor later ((later middle).prepend (pieces.map .char)) :=
  .went _ middle ahead (by simp)

theorem scanBody_turn (quote : Char) (triple : Bool) (style : Style) (steps : Nat) (cursor : Cursor) :
    Body.Turn style.bytes cursor (scanBody quote triple style steps)
      (scanBody quote triple style (steps + 1) cursor) := by
  have next := ahead_next cursor
  have escaped {escape : Escape} {after : Cursor}
      (read : scanEscape style.bytes cursor.next = (escape, after)) : cursor.Ahead after := by
    have ahead := next.trans ((ahead_next cursor.next).trans (scanEscape_ahead style.bytes cursor.next))
    rwa [read] at ahead
  unfold scanBody
  split
  · exact .broken _ _ (.refl cursor)
  next c rest here =>
  split
  · split
    · exact .closed _ next
    split
    · exact .closed _ (ahead_skip cursor 3)
    split
    · exact .plain [quote, quote] (ahead_skip cursor 2)
    · exact .plain [quote] next
  split
  · exact .broken _ _ (.refl cursor)
  split
  · split
    · next d _ =>
      split
      · exact .plain ['\\', d] (ahead_skip cursor 2)
      · exact .plain ['\\'] next
    · exact .plain ['\\'] next
  split
  · split
    · next n after read =>
      refine .went [.code n] after (escaped read) fun other inside => ?_
      cases List.mem_singleton.mp inside
      exact read
    · next d after read => exact .plain ['\\', d] (escaped read)
    · next after read => exact .plain [] (escaped read)
    · next fault after read => exact .reported fault after (escaped read)
    · next after read => exact .broken _ _ (escaped read)
  · exact .plain [c] next

private theorem scanBody_ahead (quote : Char) (triple : Bool) (style : Style) (steps : Nat) (cursor : Cursor) :
    cursor.Ahead (scanBody quote triple style steps cursor).after := by
  induction steps generalizing cursor with
  | zero => exact .refl cursor
  | succ steps ih =>
    have turn := scanBody_turn quote triple style steps cursor
    generalize scanBody quote triple style (steps + 1) cursor = body at turn ⊢
    cases turn with
    | closed after ahead => exact ahead
    | broken fault stop ahead => exact ahead
    | went pieces middle ahead _ => exact ahead.trans (ih middle)
    | reported fault middle ahead => exact ahead.trans (ih middle)

theorem scanString_moves (quote : Char) (style : Style) (cursor : Cursor) :
    Scan.Moves cursor (scanString quote style cursor) := by
  have opened :
      cursor.Ahead (if cursor.rest.take 2 == [quote, quote] then cursor.skip 2 else cursor) := by
    split
    · exact ahead_skip cursor 2
    · exact .refl cursor
  exact ⟨opened.trans (scanBody_ahead _ _ _ _ _),nofun⟩

/-! ### Numbers -/

private theorem fractionAt_ahead (cursor : Cursor) : cursor.Ahead (fractionAt cursor).2 := by
  unfold fractionAt
  split
  · split
    · exact (ahead_next cursor).trans (ahead_pass cursor.next _)
    · exact .refl cursor
  · exact .refl cursor

theorem exponentMark_ahead (cursor after : Cursor) (mark : List Char) (negative : Bool)
    (marked : exponentMark? cursor = some (mark, negative, after)) : cursor.Ahead after := by
  unfold exponentMark? at marked
  split at marked
  · split at marked
    · split at marked <;> cases marked
      · exact ahead_skip cursor 2
      · exact ahead_skip cursor 2
      · exact ahead_next cursor
    · cases marked
  · cases marked

theorem finishNumber_moves (kind : Kind) (cursor : Cursor) :
    Scan.Moves cursor (finishNumber kind cursor) := by
  unfold finishNumber
  split
  · split
    · exact moves_fault _ (ahead_next cursor)
    · exact moves_token kind (.refl cursor)
  · exact moves_token kind (.refl cursor)

theorem scanRadix_moves (start cursor : Cursor) (base : Nat) :
    Scan.Moves cursor (scanRadix start cursor base) := by
  have run := ahead_pass cursor (isDigitOr base)
  unfold scanRadix
  dsimp only
  split
  · exact moves_fault _ run
  · split
    · exact moves_token _ run
    · exact moves_fault _ run

theorem scanDecimal_moves (start : Cursor) :
    Scan.Moves (start.pass (isDigitOr 10)) (scanDecimal start) := by
  have point := fractionAt_ahead (start.pass (isDigitOr 10))
  unfold scanDecimal
  dsimp only
  split
  · next mark negative cursor marked =>
    have exponent := point.trans (exponentMark_ahead _ cursor mark negative marked)
    split
    · exact moves_fault _ exponent
    · exact (finishNumber_moves _ _).before (exponent.trans (ahead_pass cursor _))
  · split <;> exact (finishNumber_moves _ _).before point

theorem scanNumber_moves (start : Cursor) (c : Char) (rest : List Char) (here : start.rest = c :: rest)
    (digit : isDigitOr 10 c = true) : Scan.Moves start.next (scanNumber start) := by
  have decimal := (scanDecimal_moves start).before (ahead_pass_first start _ c rest here digit)
  unfold scanNumber
  split
  · split
    · exact (scanRadix_moves start _ _).before (ahead_next start.next)
    · exact decimal
  · exact decimal

/-! ### Tokens -/

private theorem scanName_moves (start : Cursor) (c : Char) (rest : List Char) (here : start.rest = c :: rest)
    (letter : isNamePart c = true) : Scan.Moves start.next (scanName start) := by
  have name := ahead_pass_first start _ c rest here letter
  unfold scanName
  dsimp only
  split
  · exact (scanString_moves _ _ _).before (name.trans (ahead_next _))
  · exact moves_token _ name

theorem isNamePart_of_start (c : Char) (starts : isNameStart c = true) : isNamePart c = true := by
  simp only [isNameStart,isNamePart,Char.isAlphanum,Bool.or_eq_true] at starts ⊢
  tauto

theorem scanToken_moves (cursor : Cursor) (c : Char) (rest : List Char) (here : cursor.rest = c :: rest) :
    Scan.Moves cursor.next (scanToken cursor c) := by
  unfold scanToken
  split
  · exact moves_token _ (.refl _)
  split
  · exact scanString_moves c _ cursor.next
  split
  · next digit => exact scanNumber_moves cursor c rest here (digit_inside c digit)
  split
  · next starts => exact scanName_moves cursor c rest here (isNamePart_of_start c starts)
  · exact moves_fault _ (.refl _)

end Proctor.Literal
