import Proctor.Proofs.Json.Spelling
import Proctor.Proofs.Literal.Fits
import Proctor.Proofs.Literal.Room
import Proctor.Literal.Diagnostic
import Mathlib

/-! Reading the text of a strict JSON value as a literal gives the value back, and every value that is
read is strict, so that reading it once more changes nothing. -/
namespace Proctor.Json
open Literal (Kind Mark)
open Literal.Grammar

mutual
def literal : Json → Literal
  | .null => .null
  | .bool b => .bool b
  | .int n => .int n
  | .float x => .float x
  | .string text => .text text
  | .array items => .list (literalAll items)
  | .object members => .dict (literalMembers members)

def literalAll : List Json → List Literal
  | [] => []
  | item :: rest => literal item :: literalAll rest

def literalMembers : List (String × Json) → List (Literal × Literal)
  | [] => []
  | member :: rest => literalMember member :: literalMembers rest

private def literalMember : String × Json → Literal × Literal
  | (name, value) => (.text name, literal value)
end

private theorem literalAll_eq (items : List Json) : literalAll items = items.map literal :=
  eq_map _ _ rfl (fun _ _ => rfl) items

private theorem literalMembers_eq (members : List (String × Json)) :
    literalMembers members = members.map fun member => (.text member.1, literal member.2) :=
  eq_map _ _ rfl (fun (_,_) _ => rfl) members

/-! ### The literal of a value -/

private theorem toJson_literal (v : Json) (strict : v.Strict) : v.literal.toJson = v := by
  induction strict with
  | null => rfl
  | bool b => rfl
  | int n least greatest =>
    have bounds : -9223372036854775808 ≤ n ∧ n ≤ 18446744073709551615 := by omega
    rw [literal,Literal.toJson,Literal.intJson,if_pos bounds]
  | float x finite => rw [literal,Literal.toJson,Literal.floatJson,if_pos finite]
  | string text => rfl
  | array items inside ih =>
    rw [literal,Literal.toJson,literalAll_eq,Literal.allToJson_eq,List.map_map]
    congr 1
    exact (List.map_congr_left (g := id) ih).trans (List.map_id items)
  | object members distinct inside ih =>
    have same : (members.map fun member => (Literal.text member.1, literal member.2)).map
        Literal.entryToJson = members := by
      rw [List.map_map]
      refine (List.map_congr_left (g := id) ?_).trans (List.map_id members)
      intro member isMember
      exact congrArg (Prod.mk member.1) (ih member isMember)
    rw [literal,Literal.toJson,literalMembers_eq,Literal.entriesToJson_eq,same,
      OrderedMap.ofPairs_eq_self members distinct]

/-! ### The grammar of values -/

private theorem construct_array (One : List Kind → Literal → Prop) (items : List Json)
    (each : ∀ item ∈ items, One item.spelling item.literal) :
    Construct One (Json.array items).spelling (Json.array items).literal := by
  rw [spelling,literal,spellingAll_eq,literalAll_eq]
  refine .list _ _ ?_
  by_cases none : items = []
  · rw [none]
    exact .none
  · have series := series_commas One spelling literal items none each
    simpa using Items.some _ _ _ series .absent

private theorem construct_object (One : List Kind → Literal → Prop)
    (names : ∀ text, One [.text text] (.text text)) (members : List (String × Json))
    (each : ∀ member ∈ members, One member.2.spelling member.2.literal) :
    Construct One (Json.object members).spelling (Json.object members).literal := by
  rw [spelling,literal,spellingMembers_eq,literalMembers_eq]
  by_cases none : members = []
  · rw [none]
    exact .empty
  · have entries (member : String × Json) (isMember : member ∈ members) :
        Entry One (.text member.1 :: .mark .colon :: spelling member.2)
          (.text member.1, literal member.2) :=
      .pair [.text member.1] _ _ _ (names member.1) (each member isMember)
    have series := series_commas (Entry One) _ _ members none entries
    simpa using Construct.dict _ _ _ series .absent

private theorem value_literal (v : Json) (strict : v.Strict) (room : Nat) (depth : v.depth ≤ room) :
    Value room v.spelling v.literal := by
  have scalar {room : Nat} {kinds : List Kind} {a : Literal} (found : Scalar kinds a) :
      Value room kinds a := value_mono 0 room (Nat.zero_le _) kinds a found
  induction strict generalizing room with
  | null => exact scalar .null
  | bool b => exact scalar (.bool b)
  | int n least greatest => exact scalar (scalar_int n (by unfold Literal.maxInt; omega))
  | float x finite => exact scalar (scalar_float x)
  | string text => exact scalar (scalar_text text)
  | array items inside ih =>
    cases room with
    | zero => simp [Json.depth] at depth
    | succ room =>
      rw [Json.depth,Nat.add_le_add_iff_right,depthAll_le] at depth
      exact .inr (construct_array (Value room) items fun item member =>
        ih item member room (depth item member))
  | object members distinct inside ih =>
    cases room with
    | zero => simp [Json.depth] at depth
    | succ room =>
      rw [Json.depth,Nat.add_le_add_iff_right,depthMembers_le] at depth
      exact .inr (construct_object (Value room) (fun text => scalar (scalar_text text)) members
        fun member isMember => ih member isMember room (depth member isMember))

/-! ### Reading texts -/

open Literal (jsonOfSource Lexes)

theorem ofSource_of_lexes (source : String) (v : Json) (strict : v.Strict)
    (lexes : Lexes source.toList v.spelling) (depth : v.depth ≤ 256) : jsonOfSource source = .ok v := by
  obtain ⟨tokens,finish,cut,ended,same⟩ := Literal.lex_of_lexes source _ lexes
  have parsed := Literal.Parser.parse_of_value tokens finish ended v.literal
    (same ▸ value_literal v strict 256 depth)
  simp only [jsonOfSource,Literal.ofSource,cut,parsed]
  exact congrArg Except.ok (toJson_literal v strict)

private theorem tooDeep_of_lexes (source : String) (v : Json) (strict : v.Strict)
    (lexes : Lexes source.toList v.spelling) (depth : 256 < v.depth) : ∃ span,
      jsonOfSource source =
        .error (.ofError source ⟨"Nesting too deep (more than 256 levels)", span, []⟩) := by
  obtain ⟨tokens,finish,cut,ended,same⟩ := Literal.lex_of_lexes source _ lexes
  obtain ⟨front,last,shape,inner,_⟩ := Literal.lex_ends source _ cut
  obtain ⟨rfl,_⟩ := List.append_inj' shape rfl
  have derived := value_literal v strict v.depth le_rfl
  have deep : ¬ Value Literal.maxNesting v.spelling v.literal := by
    intro shallow
    have fits := Literal.fits_of_value _ _ _ shallow
    have bounded := (Literal.toJson_strict _ _ fits).2
    rw [toJson_literal v strict] at bounded
    exact absurd (Nat.lt_of_lt_of_le depth bounded) (lt_irrefl 256)
  rw [← same] at derived deep
  obtain ⟨span,refused⟩ := Literal.Parser.parse_tooDeep tokens finish inner ended _ _ derived deep
  refine ⟨span,?_⟩
  simp only [jsonOfSource,Literal.ofSource,cut,refused]
  rfl

theorem strict_of_source (source : String) (v : Json) (read : jsonOfSource source = .ok v) :
    v.Strict ∧ v.depth ≤ 256 := by
  unfold jsonOfSource Literal.ofSource at read
  cases cut : Literal.lex source with
  | error faults => simp [cut,Except.map] at read
  | ok tokens =>
    obtain ⟨front,finish,rfl,inner,ended⟩ := Literal.lex_ends source tokens cut
    cases parsed : Literal.parse (front ++ [finish]) with
    | error halt => simp [cut,parsed,Except.map] at read
    | ok a =>
      simp only [cut,parsed] at read
      cases read
      have derived := Literal.Parser.value_of_parse front finish inner ended a parsed
      exact Literal.toJson_strict 256 a (Literal.fits_of_value _ _ a derived)

/-- Normalizing strict JSON is the identity: on both texts of a value with at most 256 levels. Deeper
values are refused for their depth. Whatever any source is normalized to is such a value, so that
normalizing it again changes nothing. -/
theorem normalizing_fixes_strict :
    (∀ v : Json, v.Strict → v.depth ≤ 256 →
      jsonOfSource v.toText = .ok v ∧ jsonOfSource v.toPrettyText = .ok v) ∧
    (∀ v : Json, v.Strict → 256 < v.depth → ∀ source ∈ [v.toText, v.toPrettyText], ∃ span,
      jsonOfSource source =
        .error (.ofError source ⟨"Nesting too deep (more than 256 levels)", span, []⟩)) ∧
    ∀ source v, jsonOfSource source = .ok v →
      v.Strict ∧ v.depth ≤ 256 ∧ jsonOfSource v.toText = .ok v := by
  refine ⟨?_,?_,?_⟩
  · intro v strict depth
    obtain ⟨compactText,prettyText⟩ := lex_texts v strict
    exact ⟨ofSource_of_lexes _ v strict compactText depth,ofSource_of_lexes _ v strict prettyText depth⟩
  · intro v strict depth source member
    obtain ⟨compactText,prettyText⟩ := lex_texts v strict
    rcases List.mem_cons.mp member with rfl | other
    · exact tooDeep_of_lexes _ v strict compactText depth
    · rw [List.mem_singleton.mp other]
      exact tooDeep_of_lexes _ v strict prettyText depth
  · intro source v read
    obtain ⟨strict,depth⟩ := strict_of_source source v read
    exact ⟨strict,depth,ofSource_of_lexes _ v strict (lex_texts v strict).1 depth⟩

def nested : Nat → Json
  | 0 => .null
  | n + 1 => .array [nested n]

private theorem nested_strict (n : Nat) : (nested n).Strict ∧ (nested n).depth = n := by
  induction n with
  | zero => exact ⟨.null,rfl⟩
  | succ n ih =>
    refine ⟨.array _ (by simpa [nested] using ih.1),?_⟩
    simp [nested,Json.depth,depthAll,ih.2]

/-- A value with an empty name and an empty text, minus zero and the largest integer stays as it is; one
level too many is refused; a tuple of one item becomes a list, which stays as it is. -/
theorem texts_normalized :
    let v : Json := .object [("", .array [.string "", .float (.zero true), .int 18446744073709551615]),
      ("\n", .null)]
    let one : Json := .array [.int 1]
    (jsonOfSource v.toText = .ok v ∧ jsonOfSource v.toPrettyText = .ok v) ∧
      (∃ span, jsonOfSource (nested 257).toText = .error
        (.ofError (nested 257).toText ⟨"Nesting too deep (more than 256 levels)", span, []⟩)) ∧
      jsonOfSource (String.ofList ['(', '1', ',', ')']) = .ok one ∧ jsonOfSource one.toText = .ok one := by
  intro v one
  have inner : ∀ item ∈ [Json.string "", .float (.zero true), .int 18446744073709551615], item.Strict := by
    intro item member
    simp only [List.mem_cons,List.not_mem_nil,or_false] at member
    rcases member with rfl | rfl | rfl
    · exact .string ""
    · exact .float _ rfl
    · exact .int _ (by norm_num) (by norm_num)
  have strict : v.Strict := by
    refine .object _ (by simp [OrderedMap.keys]) ?_
    intro member inside
    simp only [List.mem_cons,List.not_mem_nil,or_false] at inside
    rcases inside with rfl | rfl
    · exact .array _ inner
    · exact .null
  have cut : Literal.lex (String.ofList ['(', '1', ',', ')']) = .ok [⟨.mark .parenOpen, ⟨0, 1⟩⟩,
      ⟨.int 1, ⟨1, 2⟩⟩, ⟨.mark .comma, ⟨2, 3⟩⟩, ⟨.mark .parenClose, ⟨3, 4⟩⟩, ⟨.finish, ⟨4, 4⟩⟩] := by
    unfold Literal.lex
    rw [String.toList_ofList]
    rfl
  have read : jsonOfSource (String.ofList ['(', '1', ',', ')']) = .ok one := by
    unfold jsonOfSource Literal.ofSource
    rw [cut]
    rfl
  obtain ⟨deepStrict,deep⟩ := nested_strict 257
  exact ⟨normalizing_fixes_strict.1 v strict (by decide),
    normalizing_fixes_strict.2.1 _ deepStrict (by rw [deep]; decide) _ (by simp),read,
    (normalizing_fixes_strict.2.2 _ one read).2.2⟩

end Proctor.Json
