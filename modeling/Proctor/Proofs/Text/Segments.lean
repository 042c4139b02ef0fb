import Proctor.Text.Segments

/-! A sequence is cut at a separator in one way: into pieces that a separator ends, and a rest without
separators. This is what its segments are, also if the sequence grows. -/
namespace Proctor.Text

variable {α : Type}

/-- The whole is made up of the pieces, each with a separator after it, and of the rest. -/
structure Cut (separator : α) (whole : List α) (pieces : List (List α)) (rest : List α) : Prop where
  joined : whole = pieces.flatMap (· ++ [separator]) ++ rest
  apart : ∀ piece ∈ pieces, separator ∉ piece
  last : separator ∉ rest

def listed (pieces : List (List α)) (rest : List α) : List (List α) :=
  pieces ++ if rest = [] then [] else [rest]

theorem cut_rest (separator : α) (rest : List α) (absent : separator ∉ rest) :
    Cut separator rest [] rest :=
  ⟨rfl,by simp,absent⟩

theorem Cut.cons {separator : α} {whole : List α} {pieces : List (List α)} {rest : List α}
    (cut : Cut separator whole pieces rest) (piece : List α) (absent : separator ∉ piece) :
    Cut separator (piece ++ separator :: whole) (piece :: pieces) rest where
  joined := by simp [cut.joined]
  apart := List.forall_mem_cons.mpr ⟨absent,cut.apart⟩
  last := cut.last

theorem Cut.append {separator : α} {whole more : List α} {pieces others : List (List α)}
    {rest last : List α} (cut : Cut separator whole pieces rest)
    (next : Cut separator (rest ++ more) others last) :
    Cut separator (whole ++ more) (pieces ++ others) last where
  joined := by rw [cut.joined,List.append_assoc,next.joined,List.flatMap_append,List.append_assoc]
  apart := List.forall_mem_append.mpr ⟨cut.apart,next.apart⟩
  last := next.last

variable [DecidableEq α]

private theorem segments_rest (separator : α) (rest : List α) (absent : separator ∉ rest) :
    segments separator rest = if rest = [] then [] else [(rest, false)] := by
  induction rest with
  | nil => rfl
  | cons x rest ih =>
    rw [List.mem_cons,not_or] at absent
    rw [segments,if_neg (Ne.symm absent.1),ih absent.2]
    cases rest <;> rfl

private theorem segments_piece (separator : α) (piece whole : List α) (absent : separator ∉ piece) :
    segments separator (piece ++ separator :: whole) = (piece, true) :: segments separator whole := by
  induction piece with
  | nil => simp [segments]
  | cons x piece ih =>
    rw [List.mem_cons,not_or] at absent
    rw [List.cons_append,segments,if_neg (Ne.symm absent.1),ih absent.2]

theorem Cut.segments {separator : α} {whole : List α} {pieces : List (List α)} {rest : List α}
    (cut : Cut separator whole pieces rest) :
    segments separator whole =
      pieces.map (·, true) ++ if rest = [] then [] else [(rest, false)] := by
  obtain ⟨rfl,apart,last⟩ := cut
  induction pieces with
  | nil => exact segments_rest separator rest last
  | cons piece pieces ih =>
    obtain ⟨absent,apart⟩ := List.forall_mem_cons.mp apart
    rw [List.flatMap_cons,List.append_assoc,List.append_assoc,List.singleton_append,
      segments_piece separator piece _ absent,ih apart]
    rfl

theorem cut_exists (separator : α) (whole : List α) : ∃ pieces rest, Cut separator whole pieces rest := by
  induction whole with
  | nil => exact ⟨[],[],cut_rest separator [] List.not_mem_nil⟩
  | cons x whole ih =>
    obtain ⟨pieces,rest,cut⟩ := ih
    by_cases ends : x = separator
    · subst ends
      exact ⟨[] :: pieces,rest,cut.cons [] List.not_mem_nil⟩
    obtain ⟨joined,apart,last⟩ := cut
    cases pieces with
    | nil =>
      exact ⟨[],x :: rest,by simp [joined],apart,by simp [Ne.symm ends,last]⟩
    | cons piece pieces =>
      obtain ⟨first,apart⟩ := List.forall_mem_cons.mp apart
      refine ⟨(x :: piece) :: pieces,rest,by simp [joined],?_,last⟩
      exact List.forall_mem_cons.mpr ⟨by simp [Ne.symm ends,first],apart⟩

/-! ### Ends of lines -/

theorem dropFinal_append (x : α) (items : List α) : dropFinal x (items ++ [x]) = items := by
  simp [dropFinal]

theorem dropFinal_bare (x : α) (items : List α) (bare : items.getLast? ≠ some x) :
    dropFinal x items = items := by
  simp [dropFinal,bare]

end Proctor.Text
