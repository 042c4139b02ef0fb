import Proctor.Literal.Diagnostic
import Proctor.Proofs.Literal.Stopping
import Proctor.Proofs.Literal.Tiling
import Mathlib

/-! Every error has its place in the source: its span lies between characters, and the error that is reported is the
first one. -/
namespace Proctor.Literal
open Text.Utf8 (encode utf8ByteSize_eq)
open Cursor

/-! ### Faults inside a token -/

def Reach (start : Cursor) (faults : List (LexFault × Nat)) : Prop :=
  ∀ fault ∈ faults, ∃ stop : Cursor, start.Ahead stop ∧ fault.2 = stop.offset

private theorem reach_nil (start : Cursor) : Reach start [] := List.forall_mem_nil _

private theorem reach_cons {start stop : Cursor} {faults : List (LexFault × Nat)} (fault : LexFault)
    (ahead : start.Ahead stop) (others : Reach start faults) : Reach start ((fault, stop.offset) :: faults) :=
  List.forall_mem_cons.mpr ⟨⟨stop,ahead,rfl⟩,others⟩

theorem Reach.before {start middle : Cursor} {faults : List (LexFault × Nat)} (reach : Reach middle faults)
    (first : start.Ahead middle) : Reach start faults := by
  intro fault inside
  obtain ⟨stop,ahead,same⟩ := reach fault inside
  exact ⟨stop,first.trans ahead,same⟩

private theorem scanBody_reach (quote : Char) (triple : Bool) (style : Style) (steps : Nat) (cursor : Cursor) :
    Reach cursor (scanBody quote triple style steps cursor).faults := by
  induction steps generalizing cursor with
  | zero => exact reach_cons _ (.refl cursor) (reach_nil cursor)
  | succ steps ih =>
    have turn := scanBody_turn quote triple style steps cursor
    generalize scanBody quote triple style (steps + 1) cursor = body at turn ⊢
    cases turn with
    | closed after _ => exact reach_nil cursor
    | broken fault stop ahead => exact reach_cons fault ahead (reach_nil cursor)
    | went pieces middle ahead _ => exact (ih middle).before ahead
    | reported fault middle ahead => exact reach_cons fault ahead ((ih middle).before ahead)

private theorem scanString_reach (quote : Char) (style : Style) (cursor : Cursor) :
    Reach cursor (scanString quote style cursor).faults := by
  have opened :
      cursor.Ahead (if cursor.rest.take 2 == [quote, quote] then cursor.skip 2 else cursor) := by
    split
    · exact ahead_skip cursor 2
    · exact .refl cursor
  exact (scanBody_reach _ _ _ _ _).before opened

def Scan.Stops (scan : Scan) : Prop := ∀ fault ∈ scan.faults, fault.2 = scan.after.offset

private theorem stops_token (kind : Kind) (after : Cursor) :
    (Scan.token kind after).Stops := List.forall_mem_nil _

private theorem stops_fault (fault : LexFault) (after : Cursor) : (Scan.fault fault after).Stops := by
  intro found inside
  rw [List.mem_singleton.mp inside]
  rfl

private theorem Scan.Stops.reach {scan : Scan} {start : Cursor} (stops : scan.Stops)
    (moves : scan.Moves start) :
    Reach start scan.faults := fun fault inside => ⟨scan.after,moves.ahead,stops fault inside⟩

private theorem finishNumber_stops (kind : Kind) (cursor : Cursor) : (finishNumber kind cursor).Stops := by
  unfold finishNumber
  split
  · split
    · exact stops_fault _ _
    · exact stops_token _ _
  · exact stops_token _ _

private theorem scanRadix_stops (start cursor : Cursor) (base : Nat) : (scanRadix start cursor base).Stops := by
  unfold scanRadix
  dsimp only
  split
  · exact stops_fault _ _
  split
  · exact stops_token _ _
  · exact stops_fault _ _

private theorem scanDecimal_stops (cursor : Cursor) : (scanDecimal cursor).Stops := by
  unfold scanDecimal
  dsimp only
  split
  · split
    · exact stops_fault _ _
    · exact finishNumber_stops _ _
  · split <;> exact finishNumber_stops _ _

private theorem scanNumber_stops (cursor : Cursor) : (scanNumber cursor).Stops := by
  unfold scanNumber
  split
  · split
    · exact scanRadix_stops _ _ _
    · exact scanDecimal_stops cursor
  · exact scanDecimal_stops cursor

private theorem scanName_reach (start : Cursor) (c : Char) (rest : List Char) (here : start.rest = c :: rest)
    (letter : isNamePart c = true) : Reach start.next (scanName start).faults := by
  have name := ahead_pass_first start _ c rest here letter
  unfold scanName
  dsimp only
  split
  · exact (scanString_reach _ _ _).before (name.trans (ahead_next _))
  · exact reach_nil _

/-- Whatever is wrong with a token shows behind its first character. -/
theorem scanToken_reach (cursor : Cursor) (c : Char) (rest : List Char) (here : cursor.rest = c :: rest) :
    Reach cursor.next (scanToken cursor c).faults := by
  unfold scanToken
  split
  · exact reach_nil _
  split
  · exact scanString_reach c _ cursor.next
  split
  · next digit => exact (scanNumber_stops cursor).reach (scanNumber_moves cursor c rest here (digit_inside c digit))
  split
  · next starts => exact scanName_reach cursor c rest here (isNamePart_of_start c starts)
  · exact reach_cons _ (.refl _) (reach_nil _)

/-! ### Faults of a source -/

/-- Every fault starts before a character and ends behind it. -/
theorem scanAll_faults (steps : Nat) (cursor : Cursor) : ∀ fault ∈ (scanAll steps cursor).2, ∃ start stop : Cursor,
    cursor.Ahead start ∧ start.rest ≠ [] ∧ start.next.Ahead stop ∧ fault.span = ⟨start.offset, stop.offset⟩ := by
  induction steps generalizing cursor with
  | zero => exact List.forall_mem_nil _
  | succ steps ih =>
    unfold scanAll
    split
    · exact List.forall_mem_nil _
    next c rest here =>
    have further {middle : Cursor} (ahead : cursor.next.Ahead middle) (fault : Located LexFault)
        (inside : fault ∈ (scanAll steps middle).2) : ∃ start stop : Cursor,
        cursor.Ahead start ∧ start.rest ≠ [] ∧ start.next.Ahead stop ∧ fault.span = ⟨start.offset, stop.offset⟩ := by
      obtain ⟨start,stop,reached,others⟩ := ih middle fault inside
      exact ⟨start,stop,(ahead_next cursor).trans (ahead.trans reached),others⟩
    split
    · exact further (.refl _)
    · intro fault inside
      rcases List.mem_append.mp inside with first | later
      · obtain ⟨⟨what,place⟩,isFault,rfl⟩ := List.mem_map.mp first
        obtain ⟨stop,ahead,same⟩ := scanToken_reach cursor c rest here _ isFault
        exact ⟨cursor,stop,.refl cursor,by simp [here],ahead,by rw [← same]⟩
      · exact further (scanToken_moves cursor c rest here).ahead fault later

private theorem Cursor.Ahead.offset_le {start stop : Cursor} (ahead : start.Ahead stop) :
    start.offset ≤ stop.offset := by
  obtain ⟨used,passed⟩ := ahead
  rw [passed.offset]
  exact Nat.le_add_right _ _

private theorem offset_lt {start stop : Cursor} (some : start.rest ≠ []) (ahead : start.next.Ahead stop) :
    start.offset < stop.offset := by
  obtain ⟨c,rest,here⟩ := List.exists_cons_of_ne_nil some
  refine Nat.lt_of_lt_of_le ?_ ahead.offset_le
  have width := c.utf8Size_pos
  simp only [next,here]
  omega

private theorem scanAll_ordered (steps : Nat) (cursor : Cursor) :
    (scanAll steps cursor).2.Pairwise fun fault later => fault.span.start ≤ later.span.start := by
  induction steps generalizing cursor with
  | zero => exact .nil
  | succ steps ih =>
    unfold scanAll
    split
    · exact .nil
    next c rest here =>
    split
    · exact ih cursor.next
    · refine List.pairwise_append.mpr ⟨?_,ih _,fun fault first later inside => ?_⟩
      · -- The faults of one token all start where it starts.
        exact List.pairwise_map.mpr (List.pairwise_of_forall fun _ _ => Nat.le_refl _)
      · obtain ⟨_,_,rfl⟩ := List.mem_map.mp first
        obtain ⟨start,stop,reached,_,_,same⟩ := scanAll_faults steps _ later inside
        have moved := (ahead_next cursor).trans ((scanToken_moves cursor c rest here).ahead.trans reached)
        rw [same]
        exact moved.offset_le

private theorem lex_faults (source : String) (faults : List (Located LexFault))
    (refused : lex source = .error faults) :
    faults ≠ [] ∧ (scanAll (source.toList.length + 1) ⟨0, source.toList⟩).2 = faults := by
  unfold lex at refused
  split at refused
  · cases refused
  · next tokens found faulty scanned =>
    cases refused
    exact ⟨faulty,by rw [scanned]⟩

/-! ### Spans in a source -/

/-- The span lies in the source and divides none of its characters. -/
structure Span.Inside (source : String) (span : Span) : Prop where
  ordered : span.start ≤ span.stop
  bounded : span.stop ≤ source.utf8ByteSize
  start : (⟨span.start⟩ : String.Pos.Raw).IsValid source
  stop : (⟨span.stop⟩ : String.Pos.Raw).IsValid source

theorem Cursor.Ahead.between {text : List Char} {cursor : Cursor} (ahead : Ahead ⟨0, text⟩ cursor) :
    Between 0 text cursor.offset := by
  obtain ⟨used,passed⟩ := ahead
  exact ⟨used,cursor.rest,passed.rest,passed.offset⟩

private theorem inside_of_between (source : String) (span : Span) (ordered : span.start ≤ span.stop)
    (start : Between 0 source.toList span.start) (stop : Between 0 source.toList span.stop) : span.Inside source := by
  have valid := valid_of_between source span.stop stop
  exact ⟨ordered,String.Pos.Raw.le_iff.mp valid.le_rawEndPos,valid_of_between source span.start start,valid⟩

private theorem fault_inside (source : String) (faults : List (Located LexFault))
    (refused : lex source = .error faults) :
    ∀ fault ∈ faults, fault.span.start < fault.span.stop ∧ fault.span.Inside source := by
  intro fault member
  obtain ⟨-,same⟩ := lex_faults source faults refused
  rw [← same] at member
  obtain ⟨start,stop,reached,some,ahead,spans⟩ := scanAll_faults _ _ fault member
  have more := offset_lt some ahead
  rw [spans]
  refine ⟨more,inside_of_between source _ (Nat.le_of_lt more) reached.between ?_⟩
  exact (reached.trans ((ahead_next start).trans ahead)).between

private theorem lex_ordered (source : String) (faults : List (Located LexFault))
    (refused : lex source = .error faults) :
    faults.Pairwise fun fault later => fault.span.start ≤ later.span.start := by
  obtain ⟨-,same⟩ := lex_faults source faults refused
  rw [← same]
  exact scanAll_ordered _ _

private theorem token_inside (source : String) (tokens : List Token) (cut : lex source = .ok tokens) :
    ∀ token ∈ tokens, token.span.Inside source := by
  intro token member
  have tiling := lex_tiling source tokens cut
  obtain ⟨start,stop⟩ := tiling.between token member
  obtain ⟨front,same,inner⟩ := tiling.ends
  refine inside_of_between source token.span ?_ start stop
  rw [same] at member
  rcases List.mem_append.mp member with inFront | atEnd
  · exact Nat.le_of_lt (inner token inFront).2
  · rw [List.mem_singleton.mp atEnd]

/-! ### What is reported -/

/-- The first error in a source: the first fault of those that keep it from being cut into tokens, or else what
its tokens are refused for. -/
inductive FirstError (source : String) : SyntaxError → Prop
  | lexical (first : Located LexFault) (others : List (Located LexFault))
      (refused : lex source = .error (first :: others)) : FirstError source first.toSyntaxError
  | syntactic (tokens : List Token) (found : Located ParseFault) (cut : lex source = .ok tokens)
      (refused : parse tokens = .error (.fault found)) : FirstError source found.parseError

private theorem lexed_parse_ends (source : String) (tokens : List Token) (cut : lex source = .ok tokens) :
    parse tokens ≠ .error .endless := by
  intro stopped
  obtain ⟨front,same,-⟩ := (lex_tiling source tokens cut).ends
  obtain ⟨-,inner⟩ := Parser.parse_endless tokens stopped
  rw [same] at inner
  exact inner.right _ List.mem_cons_self rfl

private theorem lexed_fault_inside (source : String) (tokens : List Token) (found : Located ParseFault)
    (cut : lex source = .ok tokens) (refused : parse tokens = .error (.fault found)) : found.span.Inside source := by
  obtain ⟨token,seen,place⟩ := Parser.parse_fault tokens found refused
  obtain ⟨front,same,-⟩ := (lex_tiling source tokens cut).ends
  rw [place]
  refine token_inside source tokens cut token ?_
  -- The last token is one of them.
  rcases seen with member | last
  · exact member
  · rw [last,same]
    simp

private theorem reported_first (source : String) (diagnostic : Diagnostic)
    (refused : ofSource source = .error diagnostic) :
    ∃ error, FirstError source error ∧ error.span.Inside source ∧ diagnostic.message = error.message ∧
      diagnostic.offset = error.span.start ∧ diagnostic.length = error.span.length := by
  unfold ofSource at refused
  split at refused
  · next faults faulty =>
    cases refused
    obtain ⟨some,-⟩ := lex_faults source faults faulty
    obtain ⟨first,others,rfl⟩ := List.exists_cons_of_ne_nil some
    obtain ⟨-,inside⟩ := fault_inside source _ faulty first List.mem_cons_self
    exact ⟨first.toSyntaxError,.lexical first others faulty,inside,rfl,rfl,rfl⟩
  · next tokens cut =>
    split at refused
    · cases refused
    · next halt stopped =>
      cases refused
      cases halt with
      | fault found =>
        have inside := lexed_fault_inside source tokens found cut stopped
        exact ⟨found.parseError,.syntactic tokens found cut stopped,inside,rfl,rfl,rfl⟩
      | endless => exact absurd stopped (lexed_parse_ends source tokens cut)

/-- Every error of a source lies in it. Each fault that keeps it from being cut into tokens covers some bytes, which
begin and end between characters, and the faults come in the order of their starts; what is reported of a source
that is refused is its first error, so that no fault starts earlier. -/
theorem errors_in_source (source : String) :
    (∀ faults, lex source = .error faults →
      faults ≠ [] ∧ (∀ fault ∈ faults, fault.span.start < fault.span.stop ∧ fault.span.Inside source) ∧
      faults.Pairwise fun fault later => fault.span.start ≤ later.span.start) ∧
    ∀ diagnostic, ofSource source = .error diagnostic →
      diagnostic.offset + diagnostic.length ≤ source.utf8ByteSize ∧
      (⟨diagnostic.offset⟩ : String.Pos.Raw).IsValid source ∧
      (⟨diagnostic.offset + diagnostic.length⟩ : String.Pos.Raw).IsValid source ∧
      (∃ error, FirstError source error ∧ diagnostic.message = error.message ∧
        diagnostic.offset = error.span.start ∧ diagnostic.offset + diagnostic.length = error.span.stop) ∧
      ∀ faults, lex source = .error faults → ∀ fault ∈ faults, diagnostic.offset ≤ fault.span.start := by
  refine ⟨fun faults faulty => ?_,fun diagnostic refused => ?_⟩
  · obtain ⟨some,-⟩ := lex_faults source faults faulty
    exact ⟨some,fault_inside source faults faulty,lex_ordered source faults faulty⟩
  obtain ⟨error,isFirst,inside,message,offset,length⟩ := reported_first source diagnostic refused
  have stop : diagnostic.offset + diagnostic.length = error.span.stop := by
    rw [offset,length]
    exact Nat.add_sub_cancel' inside.ordered
  rw [stop,offset]
  refine ⟨inside.bounded,inside.start,inside.stop,⟨error,isFirst,message,rfl,rfl⟩,?_⟩
  intro faults faulty fault member
  cases isFirst with
  | lexical first others found =>
    rw [found] at faulty
    cases faulty
    rcases List.mem_cons.mp member with rfl | later
    · exact Nat.le_refl _
    · exact List.rel_of_pairwise_cons (lex_ordered source _ found) later
  | syntactic tokens found cut =>
    rw [cut] at faulty
    cases faulty

/-- Of two faults the first one is reported, over both bytes of its character; the parenthesis that is left open
is reported at the end, over no byte. -/
theorem wide_errors_reported :
    let twice := String.ofList ['é', ' ', '\'', 'é']
    let unclosed := String.ofList ['(', '\'', 'é', '\'']
    let faults : List (Located LexFault) := [⟨.unexpected 'é', ⟨0, 2⟩⟩, ⟨.unterminated, ⟨3, 6⟩⟩]
    lex twice = .error faults ∧ (⟨6⟩ : String.Pos.Raw).IsValid twice ∧
      (∃ diagnostic, ofSource twice = .error diagnostic ∧ diagnostic.offset = 0 ∧ diagnostic.length = 2 ∧
        (⟨diagnostic.offset + diagnostic.length⟩ : String.Pos.Raw).IsValid twice ∧
        ∀ fault ∈ faults, diagnostic.offset ≤ fault.span.start) ∧
      ∃ diagnostic, ofSource unclosed = .error diagnostic ∧ diagnostic.offset = 5 ∧ diagnostic.length = 0 ∧
        diagnostic.offset + diagnostic.length ≤ unclosed.utf8ByteSize := by
  intro twice unclosed faults
  have faulty : lex twice = .error faults := by
    unfold lex
    rw [String.toList_ofList]
    rfl
  have reported : ofSource twice = .error (.ofErrors twice (faults.map Located.toSyntaxError)) := by
    unfold ofSource
    rw [faulty]
  have cut : lex unclosed =
      .ok [⟨.mark .parenOpen, ⟨0, 1⟩⟩, ⟨.text "é", ⟨1, 5⟩⟩, ⟨.finish, ⟨5, 5⟩⟩] := by
    unfold lex
    rw [String.toList_ofList]
    rfl
  have refused : ofSource unclosed = .error (.ofError unclosed
      (Located.parseError ⟨.notClosed .tuple .finish, ⟨5, 5⟩⟩)) := by
    unfold ofSource
    rw [cut]
    rfl
  obtain ⟨ofFaults,ofTwice⟩ := errors_in_source twice
  obtain ⟨-,ofUnclosed⟩ := errors_in_source unclosed
  obtain ⟨-,covering,-⟩ := ofFaults faults faulty
  obtain ⟨-,-,valid,-,least⟩ := ofTwice _ reported
  obtain ⟨bounded,-⟩ := ofUnclosed _ refused
  exact ⟨faulty,(covering _ (List.mem_cons_of_mem _ List.mem_cons_self)).2.stop,
    ⟨_,reported,rfl,rfl,valid,least faults faulty⟩,⟨_,refused,rfl,rfl,bounded⟩⟩

end Proctor.Literal
