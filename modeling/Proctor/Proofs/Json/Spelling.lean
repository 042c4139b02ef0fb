import Proctor.Proofs.Json.Strict
import Proctor.Proofs.Literal.Printed
import Proctor.Proofs.Literal.Strings
import Proctor.Proofs.Literal.Numbers
import Mathlib

/-! The tokens of a strict JSON value. Its compact and its pretty text are both cut into them. -/
namespace Proctor.Json
open Literal (Kind Mark Lexes Printed Delimited isGap delimiters delimited_cons printed_joined
  printed_brackets printed_word printed_sign)
open Literal.Grammar (commas sign)

mutual
def spelling : Json → List Kind
  | .null => [.null]
  | .bool b => [.bool b]
  | .int n => (sign (n < 0)).map .mark ++ [.int n.natAbs]
  | .float x => (sign x.negative).map .mark ++ [.float { x with negative := false }]
  | .string text => [.text text]
  | .array items => .mark .listOpen :: commas (spellingAll items) ++ [.mark .listClose]
  | .object members => .mark .braceOpen :: commas (spellingMembers members) ++ [.mark .braceClose]

def spellingAll : List Json → List (List Kind)
  | [] => []
  | item :: rest => spelling item :: spellingAll rest

def spellingMembers : List (String × Json) → List (List Kind)
  | [] => []
  | member :: rest => spellingMember member :: spellingMembers rest

private def spellingMember : String × Json → List Kind
  | (name, value) => .text name :: .mark .colon :: spelling value
end

theorem spellingAll_eq (items : List Json) : spellingAll items = items.map spelling :=
  eq_map _ _ rfl (fun _ _ => rfl) items

theorem spellingMembers_eq (members : List (String × Json)) : spellingMembers members =
    members.map fun member => .text member.1 :: .mark .colon :: spelling member.2 :=
  eq_map _ _ rfl (fun (_,_) _ => rfl) members

/-! ### Parts of a text -/

private theorem printed_member (name : String) (gaps text : List Char) (kinds : List Kind)
    (blank : ∀ c ∈ gaps, isGap c = true) (printed : Printed text kinds) :
    Printed (quote name ++ ':' :: gaps ++ text) (.text name :: .mark .colon :: kinds) := by
  intro rest others delimited lexes
  have after := Literal.lexes_mark .colon _ _
    (Literal.lexes_gaps gaps _ _ blank (printed rest others delimited lexes))
  have whole := Literal.lexes_quote name _ _ (delimited_cons ':' _ (by simp [delimiters])) after
  simpa only [List.append_assoc,List.cons_append] using whole

private theorem indent_blank (level : Nat) : ∀ c ∈ indent level, isGap c = true := by
  intro c member
  rcases List.mem_cons.mp member with rfl | space
  · rfl
  · rw [List.eq_of_mem_replicate space]
    rfl

/-- A block of lines between brackets, which stays on one line where it is empty. -/
theorem printed_block {α : Type} (opening closing : Mark) (level : Nat) (text : α → List Char)
    (kinds : α → List Kind) (items : List α) (each : ∀ a ∈ items, Printed (text a) (kinds a))
    (ends : ∀ rest, Delimited (closing.char :: rest)) :
    Printed (block opening.char closing.char level (items.map text))
      (.mark opening :: commas (items.map kinds) ++ [.mark closing]) := by
  cases items with
  | nil =>
    exact printed_brackets opening closing [] [] [] [] (by simp) (by simp) ends
      fun rest others _ lexes => lexes
  | cons a items =>
    exact printed_brackets opening closing (indent (level + 1)) (indent level) _ _
      (indent_blank _) (indent_blank _) (fun rest => delimited_cons '\n' _ (by simp [delimiters]))
      (printed_joined text kinds (indent (level + 1)) (indent_blank _) (a :: items) each)

/-! ### Scalars -/

private theorem printed_int (n : Int) (least : -2 ^ 63 ≤ n) (greatest : n < 2 ^ 64) :
    Printed (compact (.int n)) (spelling (.int n)) := by
  have exact : n.natAbs ≤ Literal.maxInt := by
    unfold Literal.maxInt
    omega
  have signed := printed_sign (n < 0) _ _ (Literal.printed_nat n.natAbs exact)
  simpa only [compact,intText,spelling,withSign,decide_eq_true_eq] using signed

private theorem printed_float (x : Binary64) (finite : x.isFinite = true) :
    Printed (compact (.float x)) (spelling (.float x)) := by
  obtain ⟨d,written,nearest⟩ := x.interchange_written finite
  have printed := Literal.printed_written _ d written
  rw [nearest] at printed
  have signed := printed_sign x.negative _ _ printed
  simpa only [compact,Binary64.interchange,spelling,withSign] using signed

private theorem printed_string (text : String) : Printed (compact (.string text)) (spelling (.string text)) :=
  fun rest others delimited lexes => Literal.lexes_quote text rest others delimited lexes

/-! ### Values -/

private theorem printed_compact (v : Json) (strict : v.Strict) : Printed v.compact v.spelling := by
  induction strict with
  | null => exact printed_word 'n' _ _ rfl ⟨rfl,rfl,rfl,rfl⟩ (by simp; decide) rfl
  | bool b =>
    cases b with
    | true => exact printed_word 't' _ _ rfl ⟨rfl,rfl,rfl,rfl⟩ (by simp; decide) rfl
    | false => exact printed_word 'f' _ _ rfl ⟨rfl,rfl,rfl,rfl⟩ (by simp; decide) rfl
  | int n least greatest => exact printed_int n least greatest
  | float x finite => exact printed_float x finite
  | string text => exact printed_string text
  | array items inside ih =>
    have joined := printed_joined compact spelling [] (by simp) items ih
    have whole := printed_brackets .listOpen .listClose [] [] _ _ (by simp) (by simp)
      (fun rest => delimited_cons ']' rest (by simp [delimiters])) joined
    simpa only [compact,spelling,compactAll_eq,spellingAll_eq,Mark.char,List.append_nil,
      List.cons_append,List.nil_append] using whole
  | object members distinct inside ih =>
    have joined := printed_joined _ _ [] (by simp) members fun member isMember =>
      printed_member member.1 [] _ _ (by simp) (ih member isMember)
    have whole := printed_brackets .braceOpen .braceClose [] [] _ _ (by simp) (by simp)
      (fun rest => delimited_cons '\x7d' rest (by simp [delimiters])) joined
    simpa only [compact,spelling,compactMembers_eq,spellingMembers_eq,Mark.char,List.append_nil,
      List.cons_append,List.nil_append,List.append_assoc] using whole

private theorem printed_pretty (v : Json) (strict : v.Strict) (level : Nat) :
    Printed (prettyAt level v) v.spelling := by
  induction strict generalizing level with
  | null => exact printed_compact _ .null
  | bool b => exact printed_compact _ (.bool b)
  | int n least greatest => exact printed_compact _ (.int n least greatest)
  | float x finite => exact printed_compact _ (.float x finite)
  | string text => exact printed_compact _ (.string text)
  | array items inside ih =>
    have whole := printed_block .listOpen .listClose level (prettyAt (level + 1)) spelling items
      (fun item member => ih item member (level + 1)) fun rest => delimited_cons ']' rest (by simp [delimiters])
    simpa only [prettyAt,spelling,prettyAll_eq,spellingAll_eq,Mark.char] using whole
  | object members distinct inside ih =>
    have whole := printed_block .braceOpen .braceClose level _ _ members
      (fun member isMember => printed_member member.1 [' '] _ _ (by simp [isGap])
        (ih member isMember (level + 1))) fun rest => delimited_cons '\x7d' rest (by simp [delimiters])
    simpa only [prettyAt,spelling,prettyMembers_eq,spellingMembers_eq,Mark.char,
      List.append_assoc,List.cons_append,List.nil_append] using whole

theorem lex_texts (v : Json) (strict : v.Strict) : Lexes v.toText.toList v.spelling ∧
    Lexes v.toPrettyText.toList v.spelling := by
  have compactText := printed_compact v strict [] [] Literal.delimited_nil Literal.lexes_nil
  have prettyText := printed_pretty v strict 0 [] [] Literal.delimited_nil Literal.lexes_nil
  rw [List.append_nil,List.append_nil] at compactText prettyText
  simp only [toText,toPrettyText,String.toList_ofList]
  exact ⟨compactText,prettyText⟩

end Proctor.Json
