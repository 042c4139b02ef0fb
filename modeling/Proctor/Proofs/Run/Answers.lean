import Proctor.Decision

/-! Typed answers: which text stands for which decision, once the blanks around it and the case of its letters are
left out of account. -/
namespace Proctor
namespace Text

/-! ### Trimming -/

structure Trimmed (text core : List Char) : Prop where
  around : ∃ lead trail, text = lead ++ core ++ trail ∧ lead.all isBlank = true ∧ trail.all isBlank = true
  first : core.head?.any isBlank = false
  final : core.getLast?.any isBlank = false

private theorem dropWhile_blank (lead rest : List Char) (blank : lead.all isBlank = true)
    (first : rest.head?.any isBlank = false) : (lead ++ rest).dropWhile isBlank = rest := by
  rw [List.dropWhile_append_of_pos (List.all_eq_true.mp blank)]
  cases rest with
  | nil => rfl
  | cons c rest => rw [List.dropWhile_cons_of_neg (by simpa using first)]

private theorem dropWhile_first (text : List Char) : (text.dropWhile isBlank).head?.any isBlank = false := by
  have shown := List.head?_dropWhile_not isBlank text
  cases begins : (text.dropWhile isBlank).head? with
  | none => rfl
  | some c =>
    rw [begins] at shown
    simpa using shown

private theorem split_blank (text : List Char) :
    ∃ lead, text = lead ++ text.dropWhile isBlank ∧ lead.all isBlank = true :=
  ⟨text.takeWhile isBlank,List.takeWhile_append_dropWhile.symm,List.all_takeWhile⟩

private theorem trim_trimmed (text : List Char) : Trimmed text (trim text) := by
  obtain ⟨lead,begins,leads⟩ := split_blank text
  obtain ⟨tail,ends,trails⟩ := split_blank (trimStart text).reverse
  have back : trimStart text = trim text ++ tail.reverse := by
    rw [← List.reverse_reverse (trimStart text),ends,List.reverse_append]
    rfl
  refine ⟨⟨lead,tail.reverse,?_,leads,by rwa [List.all_reverse]⟩,?_,?_⟩
  · rw [List.append_assoc,← back]
    exact begins
  · -- What begins a text from whose end something is cut off begins the whole of it.
    have first : (trimStart text).head?.any isBlank = false := dropWhile_first text
    cases core : trim text with
    | nil => rfl
    | cons c rest => rwa [back,core,List.cons_append] at first
  · rw [trim,trimEnd,List.getLast?_reverse]
    exact dropWhile_first _

private theorem Trimmed.eq_trim {text core : List Char} (trimmed : Trimmed text core) : trim text = core := by
  obtain ⟨⟨lead,trail,rfl,leads,trails⟩,first,final⟩ := trimmed
  have ended : trimEnd (core ++ trail) = core := by
    unfold trimEnd
    rw [List.reverse_append,dropWhile_blank _ _ (by rwa [List.all_reverse]) (by rwa [List.head?_reverse]),
      List.reverse_reverse]
  cases core with
  | nil =>
    have none : trimStart (lead ++ [] ++ trail) = [] := by
      have all : (lead ++ trail).all isBlank = true := by rw [List.all_append,leads,trails]; rfl
      have dropped := dropWhile_blank (lead ++ trail) [] all rfl
      rwa [List.append_nil] at dropped ⊢
    rw [trim,none]
    rfl
  | cons c core =>
    have started : trimStart (lead ++ c :: core ++ trail) = c :: core ++ trail := by
      rw [List.append_assoc]
      exact dropWhile_blank lead _ leads first
    rw [trim,started,ended]

end Text

namespace Decision
open Text (Trimmed lowerAscii trim)

/-! ### Spellings -/

def spellings (decision : Decision) : List (List Char) :=
  [[decision.shortcut], lowerAscii decision.label.toList, decision.word.toList]

private theorem matchesAnswer_iff (word : List Char) (decision : Decision) :
    matchesAnswer word decision = true ↔ word ∈ decision.spellings := by
  simp [matchesAnswer,spellings,or_assoc]

private theorem spellings_apart (first second : Decision) (word : List Char) (one : word ∈ first.spellings)
    (other : word ∈ second.spellings) : first = second := by
  revert word
  cases first <;> cases second <;> decide

private theorem mem_all (decision : Decision) : decision ∈ all := by cases decision <;> decide

/-- The order in which the decisions are tried is of no account. -/
theorem ofAnswer?_iff (answer : String) (decision : Decision) :
    ofAnswer? answer = some decision ↔ lowerAscii (trim answer.toList) ∈ decision.spellings := by
  rw [← matchesAnswer_iff]
  constructor
  · exact List.find?_some
  · intro stands
    cases tried : ofAnswer? answer with
    | none => exact absurd stands (List.find?_eq_none.mp tried decision (mem_all decision))
    | some other =>
      have found := (matchesAnswer_iff _ other).mp (List.find?_some tried)
      rw [spellings_apart other decision _ found ((matchesAnswer_iff _ decision).mp stands)]

/-- The word in small letters is one for the decision: its letter, its label, its name, or for the last decision a
word of its own. -/
inductive Spells (word : List Char) : Decision → Prop
  | shortcut (decision : Decision) (same : word = [decision.shortcut]) : Spells word decision
  | label (decision : Decision) (same : word = lowerAscii decision.label.toList) : Spells word decision
  | name (decision : Decision) (same : word = decision.name.toList) : Spells word decision
  | opened (same : word = "open".toList) : Spells word .openAndReask

private theorem spells_iff (word : List Char) (other : word ≠ Decision.openAndReask.name.toList)
    (decision : Decision) :
    Spells word decision ↔ word ∈ decision.spellings := by
  constructor
  · intro spells
    cases spells with
    | shortcut _ same => simp [spellings,same]
    | label _ same => simp [spellings,same]
    | name _ same =>
      cases decision with
      | openAndReask => exact absurd same other
      | cancel | runAnyway | skip => simp [spellings,same,Decision.word]
    | opened same => simp [spellings,same,Decision.word]
  · intro inside
    simp only [spellings,List.mem_cons,List.not_mem_nil,or_false] at inside
    rcases inside with same | same | same
    · exact .shortcut decision same
    · exact .label decision same
    · cases decision with
      | openAndReask => exact .opened same
      | cancel | runAnyway | skip => exact .name _ same

/-- An answer stands for a decision if what is left of it without the blanks around it is, in small letters, a word for
that decision, and any other answer is refused with what is left of it. Nothing is said of the name of the last
decision. -/
theorem answers_recognized (answer : String) :
    (∃ core, Trimmed answer.toList core) ∧
    ∀ core, Trimmed answer.toList core → lowerAscii core ≠ Decision.openAndReask.name.toList →
      (∀ decision, ofAnswer? answer = some decision ↔ Spells (lowerAscii core) decision) ∧
      ((∀ decision, ¬ Spells (lowerAscii core) decision) →
        ofAnswer? answer = none ∧ unrecognized answer = "unrecognized choice '" ++ String.ofList core ++ "'") := by
  refine ⟨⟨_,Text.trim_trimmed answer.toList⟩,fun core trimmed other => ?_⟩
  obtain rfl := trimmed.eq_trim
  have recognized (decision : Decision) :
      ofAnswer? answer = some decision ↔ Spells (lowerAscii (trim answer.toList)) decision :=
    (ofAnswer?_iff answer decision).trans (spells_iff _ other decision).symm
  refine ⟨recognized,fun unknown => ⟨?_,rfl⟩⟩
  exact Option.eq_none_iff_forall_ne_some.mpr fun decision stands => unknown decision ((recognized decision).mp stands)

/-- Blanks of any kind and capitals in a label, and an answer that is none. -/
theorem label_recognized_quit_refused :
    let label := String.ofList ['\t', ' ', 'O', 'p', 'e', 'n', ' ', 'F', 'I', 'L', 'E', '\u00a0']
    let quit := String.ofList [' ', 'Q', 'u', 'i', 't', '\n']
    Trimmed label.toList "Open FILE".toList ∧ ofAnswer? label = some .openAndReask ∧
      Trimmed quit.toList "Quit".toList ∧ ofAnswer? quit = none ∧ unrecognized quit = "unrecognized choice 'Quit'" := by
  intro label quit
  have trimmed : Trimmed label.toList "Open FILE".toList := by
    refine ⟨⟨['\t', ' '],['\u00a0'],?_,rfl,rfl⟩,rfl,rfl⟩
    rw [String.toList_ofList]
    rfl
  have quits : Trimmed quit.toList "Quit".toList := by
    refine ⟨⟨[' '],['\n'],?_,rfl,rfl⟩,rfl,rfl⟩
    rw [String.toList_ofList]
    rfl
  obtain ⟨-,labels⟩ := answers_recognized label
  obtain ⟨-,others⟩ := answers_recognized quit
  obtain ⟨recognized,-⟩ := labels _ trimmed (by decide)
  obtain ⟨-,refused⟩ := others _ quits (by decide)
  have unknown (decision : Decision) : ¬ Spells (lowerAscii "Quit".toList) decision := by
    rw [spells_iff _ (by decide)]
    cases decision <;> decide
  obtain ⟨none,reply⟩ := refused unknown
  exact ⟨trimmed,(recognized .openAndReask).mpr (.label _ (by decide)),quits,none,reply⟩

/-- The last decision has a word that is none of its letter, its label and its name, which in turn is refused. -/
theorem word_taken_name_refused :
    ofAnswer? "open" = some .openAndReask ∧
      lowerAscii (trim "open".toList) ∉ [[Decision.openAndReask.shortcut],
        lowerAscii Decision.openAndReask.label.toList, Decision.openAndReask.name.toList] ∧
      ofAnswer? "open-and-reask" = none ∧
      lowerAscii (trim "open-and-reask".toList) = Decision.openAndReask.name.toList := by
  have refused (decision : Decision) :
      lowerAscii (trim "open-and-reask".toList) ∉ decision.spellings := by
    cases decision <;> decide
  refine ⟨(ofAnswer?_iff "open" .openAndReask).mpr (by decide),by decide,?_,by decide⟩
  exact Option.eq_none_iff_forall_ne_some.mpr fun decision stands => refused decision ((ofAnswer?_iff _ _).mp stands)

end Decision
end Proctor
