import Proctor.Proofs.Literal.Grammar
import Proctor.Proofs.Literal.Lexing
import Proctor.Proofs.Number.Layout
import Mathlib

/-! Texts that are cut into known tokens wherever a delimiter follows them, and how brackets and commas
put such texts together. -/
namespace Proctor.Literal
open Json (joined)
open Grammar (commas sign)

def Printed (text : List Char) (kinds : List Kind) : Prop :=
  ∀ rest others, Delimited rest → Lexes rest others → Lexes (text ++ rest) (kinds ++ others)

theorem Printed.lexes {text : List Char} {kinds : List Kind} (printed : Printed text kinds) : Lexes text kinds := by
  have whole := printed [] [] delimited_nil lexes_nil
  rwa [List.append_nil,List.append_nil] at whole

theorem lex_of_printed (text : List Char) (kinds : List Kind) (printed : Printed text kinds) :
    ∃ tokens, lex (String.ofList text) = .ok tokens ∧ Parser.kinds tokens = kinds ++ [.finish] := by
  obtain ⟨tokens,finish,cut,ended,same⟩ :=
    lex_of_lexes (String.ofList text) kinds (by simpa only [String.toList_ofList] using printed.lexes)
  exact ⟨_,cut,by simp [Parser.kinds_append,same,ended]⟩

theorem printed_joined {α : Type} (text : α → List Char) (kinds : α → List Kind) (gaps : List Char)
    (blank : ∀ c ∈ gaps, isGap c = true) (items : List α)
    (each : ∀ a ∈ items, Printed (text a) (kinds a)) :
    Printed (joined (',' :: gaps) (items.map text)) (commas (items.map kinds)) := by
  induction items with
  | nil => exact fun rest others delimited lexes => lexes
  | cons a items ih =>
    have head := each a (by simp)
    have tail := ih fun b member => each b (List.mem_cons_of_mem _ member)
    cases items with
    | nil => exact head
    | cons b items =>
      intro rest others delimited lexes
      have after := lexes_mark .comma _ _
        (lexes_gaps gaps _ _ blank (tail rest others delimited lexes))
      have whole := head _ _ (delimited_cons ',' _ (by simp [delimiters])) after
      simpa only [List.map_cons,joined,commas,List.append_assoc,List.cons_append] using whole

theorem printed_brackets (opening closing : Mark) (before after inner : List Char) (kinds : List Kind)
    (blankBefore : ∀ c ∈ before, isGap c = true) (blankAfter : ∀ c ∈ after, isGap c = true)
    (ends : ∀ rest, Delimited (after ++ closing.char :: rest)) (printed : Printed inner kinds) :
    Printed (opening.char :: before ++ inner ++ after ++ [closing.char])
      (.mark opening :: kinds ++ [.mark closing]) := by
  intro rest others _ lexes
  have closed := lexes_gaps after _ _ blankAfter (lexes_mark closing _ _ lexes)
  have inside := printed _ _ (ends rest) closed
  have whole := lexes_mark opening _ _ (lexes_gaps before _ _ blankBefore inside)
  simpa only [List.append_assoc,List.cons_append,List.nil_append] using whole

theorem printed_enclosed (opening closing : Mark) (inner : List Char) (kinds : List Kind)
    (ends : closing.char ∈ delimiters) (printed : Printed inner kinds) :
    Printed (opening.char :: inner ++ [closing.char])
      (.mark opening :: kinds ++ [.mark closing]) := by
  have whole := printed_brackets opening closing [] [] inner kinds (by simp) (by simp)
    (fun rest => delimited_cons _ rest ends) printed
  simpa only [List.append_nil,List.nil_append,List.cons_append] using whole

theorem printed_nothing : Printed [] [] := fun _ _ _ lexes => lexes

theorem printed_signs (signs : List Mark) (text : List Char) (kinds : List Kind) (printed : Printed text kinds) :
    Printed (signs.map Mark.char ++ text) (signs.map .mark ++ kinds) := by
  induction signs with
  | nil => exact printed
  | cons mark signs ih =>
    intro rest others delimited lexes
    exact lexes_mark mark _ _ (ih rest others delimited lexes)

theorem printed_sign (negative : Bool) (text : List Char) (kind : Kind) (printed : Printed text [kind]) :
    Printed (withSign negative text) ((sign negative).map .mark ++ [kind]) := by
  have signed := printed_signs (sign negative) text [kind] printed
  cases negative <;> exact signed

/-! ### Words -/

theorem isNamePart_delimiter (rest : List Char) (delimited : Delimited rest) :
    ∀ c ∈ rest.head?, isNamePart c = false :=
  delimited.stops _ (by
    simp [delimiters,isNamePart,Char.isAlphanum,Char.isAlpha,Char.isUpper,Char.isLower,Char.isDigit])

private theorem isQuote_delimiter (rest : List Char) (delimited : Delimited rest) :
    ∀ c ∈ rest.head?, isQuote c = false :=
  delimited.stops _ (by simp [delimiters,isQuote])

theorem printed_word (c : Char) (word : List Char) (kind : Kind)
    (starts : isNameStart c = true)
    (solid : isGap c = false ∧ Mark.ofChar? c = none ∧ isQuote c = false ∧
      isDecimalDigit c = false)
    (letters : ∀ d ∈ c :: word, isNamePart d = true)
    (known : (Kind.keyword? (String.ofList (c :: word))).getD (.ident (String.ofList (c :: word))) = kind) :
    Printed (c :: word) [kind] :=
  fun rest others delimited lexes => lexes_word c word rest kind others starts solid letters known
    (isNamePart_delimiter rest delimited) (isQuote_delimiter rest delimited) lexes

end Proctor.Literal
