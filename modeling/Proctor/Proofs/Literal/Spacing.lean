import Proctor.Proofs.Literal.Context
import Proctor.Proofs.Literal.Places
import Proctor.Proofs.Literal.Tiling
import Mathlib

/-! Gaps between tokens mean nothing: the words of a source, set apart by any gaps, are cut into the same tokens,
and denote the same value or are refused in the same words. -/
namespace Proctor.Literal
open Text.Utf8 (encode encode_append utf8ByteSize_eq)
open Cursor

/-! ### Words -/

def Span.text (source : String) (span : Span) : String :=
  String.Pos.Raw.extract source ⟨span.start⟩ ⟨span.stop⟩

def words (source : String) (tokens : List Token) : List String :=
  (tokens.filter (·.what != .finish)).map (·.span.text source)

private theorem utf8Len_eq (text : List Char) : String.utf8Len text = (encode text).length := by
  rw [← utf8ByteSize_eq,String.utf8ByteSize_ofList]

theorem text_eq (source : String) (before word after : List Char) (same : source.toList = before ++ word ++ after) :
    Span.text source ⟨(encode before).length, (encode before).length + (encode word).length⟩ =
      String.ofList word := by
  have parts : source = String.ofList (before ++ word ++ after) := by rw [← same,String.ofList_toList]
  rw [Span.text,parts,← utf8Len_eq,← utf8Len_eq]
  exact String.extract_of_valid before word after

/-- What is read as a token is cut into this token before every delimiter. -/
theorem printed_of_read (cursor after : Cursor) (c : Char) (word : List Char) (kind : Kind)
    (passed : Passes cursor (c :: word) after) (solid : isGap c = false)
    (read : scanToken cursor c = .token kind after) : Printed (c :: word) [kind] := by
  intro rest others delimited lexes
  refine lexes_token c word rest kind others solid (fun offset => ?_) lexes
  have beside : Beside after.rest rest cursor ⟨offset, c :: word ++ rest⟩ := ⟨c :: word,passed.rest,rfl⟩
  have again := scanToken_again delimited beside c (word ++ after.rest) passed.rest
  rw [read] at again
  obtain ⟨isKind,clean,front,here,there⟩ := again rfl List.suffix_rfl
  -- The first place has no more before its text than the text itself, and neither has the other.
  have nothing : front = [] := List.self_eq_append_left.mp here
  exact ⟨isKind,clean,by simpa [nothing] using there⟩

/-- A token is the end, with no characters, or is read from its characters. -/
theorem Cut.read {cursor : Cursor} {tokens : List Token} (cut : Cut cursor tokens) (source : String)
    (before : List Char) (reached : Passes ⟨0, source.toList⟩ before cursor) : ∀ token ∈ tokens,
      (token.what = .finish ∧ token.span.text source = "") ∨
      ∃ start after c word, Passes start (c :: word) after ∧ isGap c = false ∧
        scanToken start c = .token token.what after ∧ (token.span.text source).toList = c :: word := by
  induction cut generalizing before with
  | finish cursor ended =>
    intro token inside
    rw [List.mem_singleton.mp inside]
    exact .inl ⟨rfl,by simp [Span.text,String.Pos.Raw.extract]⟩
  | gap cursor c tokens passed _ _ ih => exact ih _ (reached.trans passed)
  | token cursor after c word kind tokens passed solid read _ ih =>
    refine List.forall_mem_cons.mpr ⟨.inr ⟨cursor,after,c,word,passed,solid,read,?_⟩,ih _ (reached.trans passed)⟩
    have whole : source.toList = before ++ (c :: word) ++ after.rest := (reached.trans passed).rest
    have start : cursor.offset = (encode before).length := by rw [reached.offset,Nat.zero_add]
    rw [passed.offset,start,text_eq source before (c :: word) after.rest whole,String.toList_ofList]

theorem Cut.printed {cursor : Cursor} {tokens : List Token} (cut : Cut cursor tokens) (source : String)
    (before : List Char) (reached : Passes ⟨0, source.toList⟩ before cursor) :
    ∀ token ∈ tokens, token.what ≠ .finish → Printed (token.span.text source).toList [token.what] := by
  intro token inside inner
  rcases cut.read source before reached token inside with ⟨ended,_⟩ | ⟨start,after,c,word,passed,solid,read,shown⟩
  · exact absurd ended inner
  · rw [shown]
    exact printed_of_read start after c word token.what passed solid read

/-! ### Words set apart -/

def Blank (gap : String) : Prop := ∀ c ∈ gap.toList, c ∈ [' ', '\t', '\n', '\r', '\x0c']

theorem Blank.gaps {gap : String} (blank : Blank gap) :
    ∀ c ∈ gap.toList, isGap c = true ∧ c ∈ delimiters := by
  intro c inside
  have known := blank c inside
  simp only [List.mem_cons,List.not_mem_nil,or_false] at known
  rcases known with rfl | rfl | rfl | rfl | rfl <;> decide

def spaced (lead : String) (parts : List (String × String)) : String :=
  lead ++ String.join (parts.map fun part => part.1 ++ part.2)

private theorem spaced_toList (lead : String) (parts : List (String × String)) :
    (spaced lead parts).toList = lead.toList ++ parts.flatMap fun part => part.1.toList ++ part.2.toList := by
  simp [spaced,String.toList_join,List.flatMap_map]

private theorem delimited_gap (gap : String) (rest : List Char) (blank : Blank gap)
    (apart : gap = "" → rest = []) :
    Delimited (gap.toList ++ rest) := by
  cases same : gap.toList with
  | nil =>
    rw [apart (String.toList_eq_nil_iff.mp same)]
    exact delimited_nil
  | cons c text =>
    exact delimited_cons c _ (blank.gaps c (by simp [same])).2

private theorem lexes_parts (parts : List (String × String)) (kinds : List Kind)
    (printed : List.Forall₂ (fun part kind => Printed part.1.toList [kind]) parts kinds)
    (blank : ∀ part ∈ parts, Blank part.2) (apart : ∀ part ∈ parts.dropLast, part.2 ≠ "") :
    Lexes (parts.flatMap fun part => part.1.toList ++ part.2.toList) kinds := by
  induction printed with
  | nil => exact lexes_nil
  | @cons part kind parts kinds first _ ih =>
    obtain ⟨gap,others⟩ := List.forall_mem_cons.mp blank
    have alone : part.2 = "" → parts = [] := by
      intro nothing
      cases parts with
      | nil => rfl
      | cons next parts => exact absurd nothing (apart part List.mem_cons_self)
    -- What follows the word is cut before it, and the gap between them, or the end, sets the word apart.
    have later := ih others fun part inside => apart part (by
      cases parts with
      | nil => simp at inside
      | cons next parts => exact List.mem_cons_of_mem _ inside)
    rw [List.flatMap_cons,List.append_assoc]
    refine first _ kinds (delimited_gap part.2 _ gap fun nothing => ?_) ?_
    · rw [alone nothing,List.flatMap_nil]
    · exact lexes_gaps _ _ _ (fun c inside => (gap.gaps c inside).1) later

/-! ### Values and complaints -/

private def Diagnostic.said (diagnostic : Diagnostic) : String × Option String := (diagnostic.message, diagnostic.help?)

private def Halt.said : Option ParseFault → String × Option String
  | some what => (what.message, if what.hints = [] then none else some ("\n".intercalate what.hints))
  | none => ("invalid literal", none)

private theorem ofSource_said (source : String) (tokens : List Token) (cut : lex source = .ok tokens) :
    (ofSource source).mapError Diagnostic.said = ((parse tokens).mapError Halt.what?).mapError Halt.said := by
  unfold ofSource
  rw [cut]
  dsimp only
  cases parse tokens with
  | ok literal => rfl
  | error halt => cases halt <;> rfl

private theorem ofSource_kinds (source other : String) (tokens others : List Token)
    (cut : lex source = .ok tokens)
    (cutOther : lex other = .ok others) (same : Parser.kinds others = Parser.kinds tokens) :
    (ofSource other).mapError Diagnostic.said = (ofSource source).mapError Diagnostic.said := by
  rw [ofSource_said source tokens cut,ofSource_said other others cutOther,parse_alike others tokens same]

private theorem jsonOfSource_said (source : String) :
    (jsonOfSource source).mapError Diagnostic.said = ((ofSource source).mapError Diagnostic.said).map toJson := by
  unfold jsonOfSource
  cases ofSource source <;> rfl

/-- The words of an accepted source, with any gaps around them that are not empty between two words, are cut
into the same tokens; they denote the same value, or are refused with the same message and help. -/
theorem spaced_same (source : String) (tokens : List Token) (cut : lex source = .ok tokens) (lead : String)
    (parts : List (String × String)) (kept : parts.map (·.1) = words source tokens) (blankLead : Blank lead)
    (blank : ∀ part ∈ parts, Blank part.2) (apart : ∀ part ∈ parts.dropLast, part.2 ≠ "") :
    (∃ others, lex (spaced lead parts) = .ok others ∧ Parser.kinds others = Parser.kinds tokens) ∧
    (ofSource (spaced lead parts)).mapError Diagnostic.said = (ofSource source).mapError Diagnostic.said ∧
    (jsonOfSource (spaced lead parts)).mapError Diagnostic.said =
      (jsonOfSource source).mapError Diagnostic.said := by
  obtain ⟨front,finish,rfl,inner,ended⟩ := lex_ends source tokens cut
  have ending : (front ++ [finish]).filter (·.what != .finish) = front := by
    rw [List.filter_append,List.filter_eq_self.mpr (by simpa [Parser.Inner] using inner)]
    simp [ended]
  have printed : List.Forall₂ (fun part kind => Printed part.1.toList [kind]) parts (Parser.kinds front) := by
    have each := (lex_cut source _ cut).printed source [] ⟨rfl,rfl⟩
    rw [words,ending] at kept
    have all : List.Forall₂ (fun word kind => Printed word.toList [kind]) (parts.map (·.1))
        (Parser.kinds front) := by
      rw [kept,Parser.kinds,List.forall₂_map_left_iff,List.forall₂_map_right_iff,List.forall₂_same]
      exact fun token inside => each token (List.mem_append_left _ inside) (inner token inside)
    rwa [List.forall₂_map_left_iff] at all
  have lexes : Lexes (spaced lead parts).toList (Parser.kinds front) := by
    rw [spaced_toList]
    exact lexes_gaps _ _ _ (fun c inside => (blankLead.gaps c inside).1)
      (lexes_parts parts _ printed blank apart)
  obtain ⟨others,last,spread,lastEnded,same⟩ := lex_of_lexes _ _ lexes
  have kinds : Parser.kinds (others ++ [last]) = Parser.kinds (front ++ [finish]) := by
    rw [Parser.kinds_append,Parser.kinds_append,same]
    simp [lastEnded,ended]
  have values := ofSource_kinds source _ _ _ cut spread kinds
  refine ⟨⟨_,spread,kinds⟩,values,?_⟩
  rw [jsonOfSource_said,jsonOfSource_said,values]

/-- A list without gaps, whose string has a prefix and a character of two bytes, and its words set apart. -/
theorem list_spaced_same :
    let source := String.ofList ['[', 'u', '\'', 'é', '\'', ',', '-', '0', 'x', 'F', ']']
    let tokens : List Token := [⟨.mark .listOpen, ⟨0, 1⟩⟩, ⟨.text "é", ⟨1, 6⟩⟩, ⟨.mark .comma, ⟨6, 7⟩⟩,
      ⟨.mark .minus, ⟨7, 8⟩⟩, ⟨.int 15, ⟨8, 11⟩⟩, ⟨.mark .listClose, ⟨11, 12⟩⟩, ⟨.finish, ⟨12, 12⟩⟩]
    let parts := [("[", "\t"), ("u'é'", "\n\r"), (",", " "), ("-", " "), ("0xF", "\x0c"), ("]", "")]
    lex source = .ok tokens ∧ parts.map (·.1) = words source tokens ∧
    (∃ others, lex (spaced " " parts) = .ok others ∧ Parser.kinds others = Parser.kinds tokens) ∧
    (jsonOfSource (spaced " " parts)).mapError Diagnostic.said = .ok (.array [.string "é", .int (-15)]) := by
  intro source tokens parts
  have cut : lex source = .ok tokens := by
    unfold lex
    rw [String.toList_ofList]
    rfl
  have kept : parts.map (·.1) = words source tokens := by decide +kernel
  obtain ⟨spread,-,value⟩ := spaced_same source tokens cut " " parts kept (by simp [Blank]) (by simp [Blank, parts])
    (by decide)
  refine ⟨cut,kept,spread,value.trans ?_⟩
  rw [jsonOfSource_said]
  unfold ofSource
  rw [cut]
  rfl

end Proctor.Literal
