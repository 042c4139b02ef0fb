import Proctor.Literal.Diagnostic
import Proctor.Proofs.Literal.Numbers
import Proctor.Proofs.Literal.Printed
import Proctor.Proofs.Literal.Printing
import Mathlib

/-! Parsing undoes printing: whichever form of a literal is read, the literal comes back. -/
namespace Proctor.Literal
open Json (joined)
open Grammar

/-! ### Texts and bytes -/

private theorem shortLetter?_code (quote c letter : Char) (known : isQuote quote = true)
    (special : shortLetter? quote c = some letter) : simpleEscapes.lookup letter = some c.toNat := by
  simp only [isQuote,Bool.or_eq_true,beq_iff_eq] at known
  unfold shortLetter? at special
  split at special
  · next same =>
    cases special
    rcases same with rfl | rfl
    · rfl
    · rcases known with rfl | rfl <;> rfl
  split at special
  · next same => cases special; rw [same]; rfl
  split at special
  · next same => cases special; rw [same]; rfl
  split at special
  · next same => cases special; rw [same]; rfl
  · cases special

private theorem ordinary_plain (quote c : Char) (ordinary : shortLetter? quote c = none) :
    c ≠ quote ∧ c ≠ '\\' ∧ c ≠ '\n' := by
  unfold shortLetter? at ordinary
  split at ordinary
  · cases ordinary
  next noQuote =>
  split at ordinary
  · cases ordinary
  · next noNewline => exact ⟨mt .inr noQuote,mt .inl noQuote,noNewline⟩

private theorem escapes_code (c : Char) (digits : List Char) (hex : Hex (codeForm c.toNat).2 digits c.toNat) :
    Escapes false ((codeForm c.toNat).1 :: digits) c.toNat := by
  unfold codeForm at hex ⊢
  split at hex
  · next small =>
    rw [if_pos small]
    exact escapes_byte false digits _ hex
  next large =>
  rw [if_neg large]
  split at hex
  · next short =>
    rw [if_pos short]
    have alone : isHighSurrogate c.toNat = false ∧ isLowSurrogate c.toNat = false := by
      have valid := c.valid
      constructor
      · simp only [isHighSurrogate,Bool.and_eq_false_iff,decide_eq_false_iff_not]
        rcases valid with low | high <;> simp only [Char.toNat] <;> omega
      · simp only [isLowSurrogate,Bool.and_eq_false_iff,decide_eq_false_iff_not]
        rcases valid with low | high <;> simp only [Char.toNat] <;> omega
    exact escapes_short digits _ hex alone
  · next long =>
    rw [if_neg long]
    exact escapes_long digits _ hex c.valid

private theorem isPiece_shown (quote : Char) (known : isQuote quote = true) (c : Char) (text : List Char)
    (shown : Shown quote c text) : ∃ piece, piece.toChar = c ∧ IsPiece quote plain text piece := by
  obtain ⟨_,_,_,_,noBackslash⟩ := quote_apart quote known
  have denotes : (Piece.code c.toNat).toChar = c := by
    have valid : c.toNat.isValidChar := c.valid
    simp only [Piece.toChar,valid,↓reduceIte,Char.ofNat_toNat]
  cases shown with
  | short letter special =>
    exact ⟨_,denotes,isPiece_escape quote plain [letter] _ noBackslash rfl
      (escapes_simple false letter _ (shortLetter?_code quote c letter known special))⟩
  | verbatim ordinary printable =>
    exact ⟨.char c,rfl,isPiece_verbatim quote c plain (ordinary_plain quote c ordinary)⟩
  | code ordinary digits hex =>
    exact ⟨_,denotes,isPiece_escape quote plain _ _ noBackslash rfl (escapes_code c digits hex)⟩

private theorem toNat_ofNat_byte (b : UInt8) : (Char.ofNat b.toNat).toNat = b.toNat := by
  have valid : b.toNat.isValidChar := .inl (Nat.lt_trans b.toNat_lt (by decide))
  rw [Char.ofNat,dif_pos valid]
  rfl

private theorem utf8EncodeChar_ascii (b : UInt8) (ascii : b.toNat ≤ 0x7f) :
    String.utf8EncodeChar (Char.ofNat b.toNat) = [b] := by
  have same := toNat_ofNat_byte b
  simp only [Char.toNat] at same
  simp [String.utf8EncodeChar,same,ascii]

private theorem isPiece_shownByte (quote : Char) (known : isQuote quote = true) (b : UInt8)
    (text : List Char) (shown : ShownByte quote b text) :
    ∃ piece, piece.toBytes = [b] ∧ IsPiece quote ⟨true, false⟩ text piece := by
  obtain ⟨_,_,_,_,noBackslash⟩ := quote_apart quote known
  have denotes : (Piece.code b.toNat).toBytes = [b] := by simp [Piece.toBytes]
  cases shown with
  | short letter special =>
    have code := shortLetter?_code quote _ letter known special
    rw [toNat_ofNat_byte] at code
    exact ⟨_,denotes,isPiece_escape quote _ [letter] _ noBackslash rfl
      (escapes_simple true letter _ code)⟩
  | verbatim ordinary printable =>
    exact ⟨.char (Char.ofNat b.toNat),utf8EncodeChar_ascii b (by omega),
      isPiece_verbatim quote _ _ (ordinary_plain quote _ ordinary)⟩
  | code ordinary unprintable digits hex =>
    exact ⟨_,denotes,isPiece_escape quote _ _ _ noBackslash rfl (escapes_byte true digits _ hex)⟩


private theorem printed_text (quote : Char) (known : isQuote quote = true) (parts : List (Char × List Char))
    (each : ∀ part ∈ parts, Shown quote part.1 part.2) :
    Printed (quote :: parts.flatMap (·.2) ++ [quote]) [.text (String.ofList (parts.map (·.1)))] := by
  obtain ⟨pieces,same,are⟩ := arePieces_flatMap quote plain (·.2) Piece.toChar (·.1) parts
    fun part member => isPiece_shown quote known part.1 part.2 (each part member)
  intro rest others delimited lexes
  have string := lexes_string quote known _ pieces are rest others delimited lexes
  rw [same] at string
  simpa only [List.append_assoc,List.cons_append,List.nil_append] using string

private theorem printed_bytes (quote : Char) (known : isQuote quote = true)
    (parts : List (UInt8 × List Char)) (each : ∀ part ∈ parts, ShownByte quote part.1 part.2) :
    Printed ('b' :: quote :: parts.flatMap (·.2) ++ [quote]) [.bytes (parts.map (·.1))] := by
  obtain ⟨pieces,same,are⟩ := arePieces_flatMap quote _ (·.2) Piece.toBytes (fun part => [part.1])
    parts fun part member => isPiece_shownByte quote known part.1 part.2 (each part member)
  have value : pieces.flatMap Piece.toBytes = parts.map (·.1) := by
    rw [List.flatMap_def,same,← List.flatMap_def,← List.map_eq_flatMap]
  intro rest others delimited lexes
  have string := lexes_bytes quote known _ pieces are rest others delimited lexes
  rw [value] at string
  simpa only [List.append_assoc,List.cons_append,List.nil_append] using string

/-! ### What is read back -/

mutual
def canonical : Literal → Literal
  | .null => .null
  | .bool b => .bool b
  | .int n => .int n
  | .float x => .float (if x.isNaN then .nan else x)
  | .text value => .text value
  | .bytes value => .bytes value
  | .list items => .list (canonicalAll items)
  | .tuple items => .tuple (canonicalAll items)
  | .set items => .set (canonicalAll items)
  | .dict entries => .dict (canonicalEntries entries)

def canonicalAll : List Literal → List Literal
  | [] => []
  | item :: rest => canonical item :: canonicalAll rest

def canonicalEntries : List (Literal × Literal) → List (Literal × Literal)
  | [] => []
  | entry :: rest => canonicalEntry entry :: canonicalEntries rest

private def canonicalEntry : Literal × Literal → Literal × Literal
  | (key, content) => (canonical key, canonical content)
end

private theorem canonicalAll_eq (items : List Literal) : canonicalAll items = items.map canonical :=
  Json.eq_map _ _ rfl (fun _ _ => rfl) items

private theorem canonicalEntries_eq (entries : List (Literal × Literal)) : canonicalEntries entries =
    entries.map fun entry => (canonical entry.1, canonical entry.2) :=
  Json.eq_map _ _ rfl (fun (_,_) _ => rfl) entries

/-- A literal is another one or stands somewhere inside it, as an item, a key or the value of a key. -/
inductive Within (a : Literal) : Literal → Prop
  | self : Within a a
  | list (items : List Literal) (item : Literal) (member : item ∈ items) (inside : Within a item) :
      Within a (.list items)
  | tuple (items : List Literal) (item : Literal) (member : item ∈ items) (inside : Within a item) :
      Within a (.tuple items)
  | set (items : List Literal) (item : Literal) (member : item ∈ items) (inside : Within a item) :
      Within a (.set items)
  | key (entries : List (Literal × Literal)) (entry : Literal × Literal) (member : entry ∈ entries)
      (inside : Within a entry.1) : Within a (.dict entries)
  | content (entries : List (Literal × Literal)) (entry : Literal × Literal)
      (member : entry ∈ entries) (inside : Within a entry.2) : Within a (.dict entries)

/-- Every integer in a literal stays exact, and so does its opposite. -/
private def Exact (a : Literal) : Prop := ∀ n, Within (.int n) a → -2 ^ 127 < n ∧ n < 2 ^ 127

/-! ### Forms and derivations -/

/-- A text is cut into tokens from which the literal is derived. -/
def ReadsBack (room : Nat) (text : List Char) (a : Literal) : Prop :=
  ∃ kinds, Printed text kinds ∧ Value room kinds a

theorem readsBack_scalar (room : Nat) (text : List Char) (kinds : List Kind) (a : Literal)
    (printed : Printed text kinds) (scalar : Scalar kinds a) : ReadsBack room text a :=
  ⟨kinds,printed,value_mono 0 room (Nat.zero_le _) kinds a scalar⟩

private theorem readsBack_int (room : Nat) (n : Int) (exact : -2 ^ 127 < n ∧ n < 2 ^ 127) :
    ReadsBack room (withSign (n < 0) (digitsOf 10 n.natAbs)) (.int n) := by
  have bounded : n.natAbs ≤ maxInt := by
    unfold maxInt
    omega
  exact readsBack_scalar room _ _ _ (printed_sign _ _ _ (printed_nat n.natAbs bounded))
    (scalar_int n bounded)

private theorem readsBack_finite (room : Nat) (x : Binary64) (text : List Char) (d : Decimal)
    (written : Written text d) (nearest : d.nearest false = { x with negative := false }) :
    ReadsBack room (withSign x.negative text) (.float x) := by
  have printed := printed_written text d written
  rw [nearest] at printed
  exact readsBack_scalar room _ _ _ (printed_sign _ _ _ printed) (scalar_float x)

private theorem printed_infinity : Printed ['i', 'n', 'f'] [.ident "inf"] :=
  printed_word 'i' _ _ rfl ⟨rfl,rfl,rfl,rfl⟩ (by simp; decide) rfl

private theorem printed_nan : Printed ['n', 'a', 'n'] [.ident "nan"] :=
  printed_word 'n' _ _ rfl ⟨rfl,rfl,rfl,rfl⟩ (by simp; decide) rfl

private theorem printed_emptySet :
    Printed ['s', 'e', 't', '(', ')'] [.ident "set", .mark .parenOpen, .mark .parenClose] := by
  intro rest others _ lexes
  have brackets := lexes_mark .parenOpen _ _ (lexes_mark .parenClose _ _ lexes)
  exact lexes_word 's' ['e', 't'] _ _ _ rfl ⟨rfl,rfl,rfl,rfl⟩ (by simp; decide) rfl
    (by rintro c ⟨⟩; rfl) (by rintro c ⟨⟩; rfl) brackets

private theorem series_printed {α β : Type} (One : List Kind → β → Prop) (text : α → List Char)
    (make : α → β) (parts : List α) (some : parts ≠ [])
    (each : ∀ part ∈ parts, ∃ kinds, Printed (text part) kinds ∧ One kinds (make part)) :
    ∃ kinds, Printed (joined [',', ' '] (parts.map text)) kinds ∧
      Series One kinds (parts.map make) := by
  choose! kinds printed derived using each
  exact ⟨_,printed_joined text kinds [' '] (by simp [isGap]) parts printed,
    series_commas One kinds make parts some derived⟩

variable {room : Nat}

private theorem readsBack_list (parts : List (Literal × List Char))
    (each : ∀ part ∈ parts, ReadsBack room part.2 part.1.canonical) :
    ReadsBack (room + 1) ('[' :: joined [',', ' '] (parts.map (·.2)) ++ [']'])
      (.list (parts.map fun part => part.1.canonical)) := by
  by_cases none : parts = []
  · subst none
    exact ⟨_,printed_enclosed .listOpen .listClose [] [] (by simp [delimiters,Mark.char]) printed_nothing,
      .inr (.list [] [] .none)⟩
  · obtain ⟨kinds,printed,series⟩ := series_printed (Value room) _ _ parts none each
    refine ⟨_,printed_enclosed .listOpen .listClose _ _ (by simp [delimiters,Mark.char]) printed,
      .inr (.list kinds _ ?_)⟩
    simpa using Items.some kinds _ [] series .absent

private theorem readsBack_single (a : Literal) (text : List Char) (item : ReadsBack room text a) :
    ReadsBack (room + 1) ('(' :: text ++ [',', ')']) (.tuple [a]) := by
  obtain ⟨kinds,printed,derived⟩ := item
  refine ⟨_,?_,.inr (.tuple kinds a [] [] derived .none)⟩
  intro rest others _ lexes
  have closed := lexes_mark .comma _ _ (lexes_mark .parenClose _ _ lexes)
  have inside := printed _ _ (delimited_cons ',' _ (by simp [delimiters])) closed
  have whole := lexes_mark .parenOpen _ _ inside
  simpa only [Mark.char,List.append_assoc,List.cons_append,List.nil_append] using whole

private theorem readsBack_tuple (parts : List (Literal × List Char)) (several : 2 ≤ parts.length)
    (each : ∀ part ∈ parts, ReadsBack room part.2 part.1.canonical) :
    ReadsBack (room + 1) ('(' :: joined [',', ' '] (parts.map (·.2)) ++ [')'])
      (.tuple (parts.map fun part => part.1.canonical)) := by
  have some : parts ≠ [] := by
    rintro rfl
    simp at several
  obtain ⟨kinds,printed,series⟩ := series_printed (Value room) _ _ parts some each
  refine ⟨_,printed_enclosed .parenOpen .parenClose _ _ (by simp [delimiters,Mark.char]) printed,
    .inr ?_⟩
  generalize items_eq : parts.map (fun part => part.1.canonical) = items at series
  have length : 2 ≤ items.length := by
    rw [← items_eq,List.length_map]
    exact several
  cases series with
  | one kinds a first => simp at length
  | more kinds a others rest first tail =>
    have whole := Construct.tuple kinds a _ rest first (.some others rest [] tail .absent)
    simpa only [List.append_nil,List.cons_append,List.append_assoc] using whole

private theorem readsBack_set (parts : List (Literal × List Char)) (some : parts ≠ [])
    (each : ∀ part ∈ parts, ReadsBack room part.2 part.1.canonical) :
    ReadsBack (room + 1) ('\x7b' :: joined [',', ' '] (parts.map (·.2)) ++ ['\x7d'])
      (.set (parts.map fun part => part.1.canonical)) := by
  obtain ⟨kinds,printed,series⟩ := series_printed (Value room) _ _ parts some each
  refine ⟨_,printed_enclosed .braceOpen .braceClose _ _ (by simp [delimiters,Mark.char]) printed,
    .inr ?_⟩
  simpa using Construct.set kinds _ [] series .absent

private theorem printed_entry (keyText text : List Char) (keyKinds kinds : List Kind)
    (key : Printed keyText keyKinds) (content : Printed text kinds) :
    Printed (keyText ++ [':', ' '] ++ text) (keyKinds ++ .mark .colon :: kinds) := by
  intro rest others delimited lexes
  have after := lexes_mark .colon _ _ (lexes_gap ' ' _ _ rfl (content rest others delimited lexes))
  have whole := key _ _ (delimited_cons ':' _ (by simp [delimiters])) after
  simpa only [List.append_assoc,List.cons_append,List.nil_append] using whole

private theorem readsBack_dict (parts : List ((Literal × List Char) × (Literal × List Char)))
    (keys : ∀ part ∈ parts, ReadsBack room part.1.2 part.1.1.canonical)
    (contents : ∀ part ∈ parts, ReadsBack room part.2.2 part.2.1.canonical) :
    ReadsBack (room + 1)
      ('\x7b' :: joined [',', ' '] (parts.map fun part => part.1.2 ++ [':', ' '] ++ part.2.2) ++
        ['\x7d'])
      (.dict (parts.map fun part => (part.1.1.canonical, part.2.1.canonical))) := by
  by_cases none : parts = []
  · subst none
    exact ⟨_,printed_enclosed .braceOpen .braceClose [] [] (by simp [delimiters,Mark.char])
      printed_nothing,.inr .empty⟩
  · have entries (part) (member : part ∈ parts) :
        ∃ kinds, Printed (part.1.2 ++ [':', ' '] ++ part.2.2) kinds ∧
          Entry (Value room) kinds (part.1.1.canonical, part.2.1.canonical) := by
      obtain ⟨keyKinds,keyPrinted,key⟩ := keys part member
      obtain ⟨kinds,printed,content⟩ := contents part member
      exact ⟨_,printed_entry _ _ _ _ keyPrinted printed,.pair _ _ _ _ key content⟩
    obtain ⟨kinds,printed,series⟩ := series_printed (Entry (Value room)) _ _ parts none entries
    refine ⟨_,printed_enclosed .braceOpen .braceClose _ _ (by simp [delimiters,Mark.char]) printed,
      .inr ?_⟩
    simpa using Construct.dict kinds _ [] series .absent

/-! ### Parsing what was printed -/

private theorem readsBack_prints (a : Literal) (text : List Char) (prints : Prints a text) (room : Nat)
    (fits : Fits room a) (exact : Exact a) : ReadsBack room text a.canonical := by
  induction prints generalizing room with
  | null =>
    exact readsBack_scalar room _ _ _
      (printed_word 'N' _ _ rfl ⟨rfl,rfl,rfl,rfl⟩ (by simp; decide) rfl) .null
  | true =>
    exact readsBack_scalar room _ _ _
      (printed_word 'T' _ _ rfl ⟨rfl,rfl,rfl,rfl⟩ (by simp; decide) rfl) (.bool true)
  | false =>
    exact readsBack_scalar room _ _ _
      (printed_word 'F' _ _ rfl ⟨rfl,rfl,rfl,rfl⟩ (by simp; decide) rfl) (.bool false)
  | int n => exact readsBack_int room n (exact n .self)
  | finite x finite text d written nearest =>
    have isNumber : x.isNaN = false := by
      simp only [Binary64.isFinite,decide_eq_true_eq] at finite
      simp only [Binary64.isNaN,Bool.and_eq_false_iff,beq_eq_false_iff_ne]
      omega
    rw [canonical,isNumber]
    exact readsBack_finite room x text d written nearest
  | infinity negative =>
    refine readsBack_scalar room _ _ _ (printed_sign negative _ _ printed_infinity) ?_
    apply scalar_number _ _ _ _ (.infinity "inf" (.inl rfl))
    cases negative <;> rfl
  | nan x isNaN =>
    rw [canonical,if_pos isNaN]
    exact readsBack_scalar room _ _ _ printed_nan
      (.number [] (by simp) _ _ (.nan "nan" (.inl rfl)))
  | text quote known parts each =>
    exact readsBack_scalar room _ _ _ (printed_text quote known parts each) (scalar_text _)
  | bytes quote known parts each =>
    exact readsBack_scalar room _ _ _ (printed_bytes quote known parts each) (scalar_bytes _)
  | list parts each ih =>
    cases fits with
    | list room _ inside =>
      have back := readsBack_list parts fun part member =>
        ih part member room (inside part.1 (List.mem_map_of_mem member))
          fun n within => exact n (.list _ part.1 (List.mem_map_of_mem member) within)
      simpa only [canonical,canonicalAll_eq,List.map_map,Function.comp_def] using back
  | unit =>
    cases fits with
    | tuple room => exact ⟨_,printed_enclosed .parenOpen .parenClose [] [] (by simp [delimiters,Mark.char])
        printed_nothing,.inr .unit⟩
  | single a text item ih =>
    cases fits with
    | tuple room _ inside =>
      exact readsBack_single _ _ (ih room (inside a (by simp))
        fun n within => exact n (.tuple _ a (by simp) within))
  | tuple parts several each ih =>
    cases fits with
    | tuple room _ inside =>
      have back := readsBack_tuple parts several fun part member =>
        ih part member room (inside part.1 (List.mem_map_of_mem member))
          fun n within => exact n (.tuple _ part.1 (List.mem_map_of_mem member) within)
      simpa only [canonical,canonicalAll_eq,List.map_map,Function.comp_def] using back
  | emptySet =>
    cases fits with
    | set room => exact ⟨_,printed_emptySet,.inr (.setOfNone "set" (.inl rfl))⟩
  | set parts some each ih =>
    cases fits with
    | set room _ inside =>
      have back := readsBack_set parts some fun part member =>
        ih part member room (inside part.1 (List.mem_map_of_mem member))
          fun n within => exact n (.set _ part.1 (List.mem_map_of_mem member) within)
      simpa only [canonical,canonicalAll_eq,List.map_map,Function.comp_def] using back
  | dict parts keys contents keyIh ih =>
    cases fits with
    | dict room _ keysFit contentsFit =>
      have keysBack (part) (member : part ∈ parts) : ReadsBack room part.1.2 part.1.1.canonical :=
        keyIh part member room (keysFit _ (List.mem_map_of_mem member))
          fun n within => exact n (.key _ _ (List.mem_map_of_mem member) within)
      have contentsBack (part) (member : part ∈ parts) :
          ReadsBack room part.2.2 part.2.1.canonical :=
        ih part member room (contentsFit _ (List.mem_map_of_mem member))
          fun n within => exact n (.content _ _ (List.mem_map_of_mem member) within)
      have back := readsBack_dict parts keysBack contentsBack
      simpa only [canonical,canonicalEntries_eq,List.map_map,Function.comp_def] using back

theorem ofSource_of_readsBack (text : List Char) (a : Literal) (back : ReadsBack maxNesting text a) :
    ofSource (String.ofList text) = .ok a := by
  obtain ⟨kinds,printed,derived⟩ := back
  obtain ⟨tokens,finish,cut,ended,same⟩ :=
    lex_of_lexes (String.ofList text) kinds (by simpa only [String.toList_ofList] using printed.lexes)
  have parsed := Parser.parse_of_value tokens finish ended a (same ▸ derived)
  simp only [ofSource,cut,parsed]

/-- A literal whose integers stay exact and in which at most 256 collections are open at once has a
printed form, and every form of it is read as the literal itself, not-a-number as not-a-number. -/
theorem parsing_undoes_printing (a : Literal) (fits : Fits 256 a)
    (exact : ∀ n, Within (.int n) a → -2 ^ 127 < n ∧ n < 2 ^ 127) :
    (∃ text, Prints a text) ∧
      ∀ text, Prints a text → ofSource (String.ofList text) = .ok a.canonical :=
  ⟨prints_total 256 a fits,fun text prints =>
    ofSource_of_readsBack text _ (readsBack_prints a text prints 256 fits exact)⟩

/-- The form `(-5, '\'1', set())` is read back as its literal. -/
theorem tuple_read_back :
    let a : Literal := .tuple [.int (-5), .text (String.ofList ['\'', '1']), .set []]
    let text := ['(', '-', '5', ',', ' ', '\'', '\\', '\'', '1', '\'', ',', ' ', 's', 'e', 't', '(',
      ')', ')']
    Prints a text ∧ ofSource (String.ofList text) = .ok a := by
  intro a text
  have fits : Fits 256 a := by
    refine .tuple 255 _ ?_
    intro item member
    simp only [List.mem_cons,List.not_mem_nil,or_false] at member
    rcases member with rfl | rfl | rfl
    · exact .int 255 _
    · exact .text 255 _
    · exact .set 254 [] (by simp)
  have exact (n : Int) (within : Within (.int n) a) : -2 ^ 127 < n ∧ n < 2 ^ 127 := by
    simp only [a] at within
    cases within with
    | tuple _ item member inside =>
      simp only [List.mem_cons,List.not_mem_nil,or_false] at member
      rcases member with rfl | rfl | rfl
      · cases inside
        decide
      · cases inside
      · cases inside with
        | set _ item member inside => simp at member
  have quoted : Prints (.text (String.ofList ['\'', '1'])) ['\'', '\\', '\'', '1', '\''] := by
    refine .text '\'' rfl [('\'', ['\\', '\'']), ('1', ['1'])] ?_
    intro part member
    simp only [List.mem_cons,List.not_mem_nil,or_false] at member
    rcases member with rfl | rfl
    · exact .short '\'' rfl
    · exact .verbatim rfl (by decide)
  have prints : Prints a text := by
    refine .tuple [(.int (-5), ['-', '5']),
      (.text (String.ofList ['\'', '1']), ['\'', '\\', '\'', '1', '\'']),
      (.set [], ['s', 'e', 't', '(', ')'])] (by decide) ?_
    intro part member
    simp only [List.mem_cons,List.not_mem_nil,or_false] at member
    rcases member with rfl | rfl | rfl
    · exact .int (-5)
    · exact quoted
    · exact .emptySet
  exact ⟨prints,(parsing_undoes_printing a fits exact).2 text prints⟩

end Proctor.Literal
