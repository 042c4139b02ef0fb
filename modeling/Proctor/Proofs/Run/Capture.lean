import Proctor.Proofs.Text.Segments
import Proctor.Run.Capture
import Mathlib.Data.List.Forall2

/-! What is collected of a child program depends on the bytes of its two streams, not on the pieces in which
they arrive or on how the streams take turns. -/
namespace Proctor.Capture
open Text (Cut listed dropFinal)

/-! ### Streams and their lines -/

/-- Arrivals that bring what is still to come of the output and of the error stream, in pieces of any size
and in any order of the two; of a stream that has ended nothing comes. -/
inductive Brings : Option (List UInt8) → Option (List UInt8) → List Arrival → Prop
  | nothing : Brings none none []
  | output (piece output : List UInt8) (error? : Option (List UInt8)) (arrivals : List Arrival)
      (others : Brings (some output) error? arrivals) :
      Brings (some (piece ++ output)) error? (.output piece :: arrivals)
  | outputEnd (error? : Option (List UInt8)) (arrivals : List Arrival)
      (others : Brings none error? arrivals) : Brings (some []) error? (.outputEnd :: arrivals)
  | error (piece error : List UInt8) (output? : Option (List UInt8)) (arrivals : List Arrival)
      (others : Brings output? (some error) arrivals) :
      Brings output? (some (piece ++ error)) (.error piece :: arrivals)
  | errorEnd (output? : Option (List UInt8)) (arrivals : List Arrival)
      (others : Brings output? none arrivals) : Brings output? (some []) (.errorEnd :: arrivals)

/-- The lines of a stream. A newline ends each, but a last one that holds something may lack it. -/
def Lines (stream : List UInt8) (lines : List (List UInt8)) : Prop :=
  ∃ complete last, Cut 0x0a stream complete last ∧ lines = listed complete last

/-- A line as text: decoded as a whole, without a carriage return at its end. -/
inductive Tells : List UInt8 → String → Prop
  | returned (line : List UInt8) :
      Tells (line ++ [0x0d]) (String.ofList (Text.Utf8.decodeLossy line))
  | bare (line : List UInt8) (other : line.getLast? ≠ some 0x0d) :
      Tells line (String.ofList (Text.Utf8.decodeLossy line))

private theorem lineText_tells (line : List UInt8) : Tells line (lineText line) := by
  unfold lineText
  by_cases returned : line.getLast? = some 0x0d
  · obtain ⟨front,rfl⟩ := List.getLast?_eq_some_iff.mp returned
    rw [Text.dropFinal_append]
    exact .returned front
  · rw [Text.dropFinal_bare _ _ returned]
    exact .bare line returned

private theorem cutLines_of_cut {stream : List UInt8} {complete : List (List UInt8)} {last : List UInt8}
    (cut : Cut 0x0a stream complete last) : cutLines stream = (complete, last) := by
  have ended : (complete.map (·, true)).find? (fun segment => !segment.2) = none := by
    simp [List.find?_eq_none]
  unfold cutLines
  dsimp only
  rw [cut.segments,List.find?_append,ended]
  by_cases empty : last = [] <;> simp [empty,List.filter_map,Function.comp_def]

private theorem lines_unique {stream : List UInt8} {lines others : List (List UInt8)} (one : Lines stream lines)
    (other : Lines stream others) : lines = others := by
  obtain ⟨complete,last,cut,rfl⟩ := one
  obtain ⟨_,_,again,rfl⟩ := other
  cases (cutLines_of_cut cut).symm.trans (cutLines_of_cut again)
  rfl

/-! ### One arrival -/

/-- The lines told of a stream of which a part is still to come: those that are complete. -/
inductive Forwarded (stream : List UInt8) : Option (List UInt8) → List UInt8 → List String → Prop
  | running (seen coming last : List UInt8) (complete : List (List UInt8)) (whole : stream = seen ++ coming)
      (cut : Cut 0x0a seen complete last) :
      Forwarded stream (some coming) last (complete.map lineText)
  | ended (lines : List (List UInt8)) (all : Lines stream lines) :
      Forwarded stream none [] (lines.map lineText)

structure Holds (output error : List UInt8) (output? error? : Option (List UInt8)) (capture : Capture) :
    Prop where
  output : capture.output ++ output?.getD [] = output
  outputOpen : capture.outputOpen = output?.isSome
  lines : Forwarded error error? capture.partialLine capture.lines
  errorOpen : capture.errorOpen = error?.isSome

private theorem start_holds (output error : List UInt8) : Holds output error (some output)
    (some error) start where
  output := rfl
  outputOpen := rfl
  lines := .running [] error [] [] rfl (Text.cut_rest 0x0a [] List.not_mem_nil)
  errorOpen := rfl

theorem Holds.finished {output error : List UInt8} {output? error? : Option (List UInt8)}
    {capture : Capture} (holds : Holds output error output? error? capture) :
    capture.finished = (output?.isNone && error?.isNone) := by
  rw [Capture.finished,holds.outputOpen,holds.errorOpen,Option.not_isSome,Option.not_isSome]

section Arrival
variable {output error : List UInt8} {output? error? : Option (List UInt8)} {capture : Capture}

private theorem take_output (piece coming : List UInt8)
    (holds : Holds output error (some (piece ++ coming)) error? capture) :
    Holds output error (some coming) error? (capture.take (.output piece)) := by
  have isOpen : capture.outputOpen = true := holds.outputOpen
  simp only [take,isOpen,if_true]
  exact ⟨by simpa using holds.output,rfl,holds.lines,holds.errorOpen⟩

private theorem take_outputEnd (holds : Holds output error (some []) error? capture) :
    Holds output error none error? (capture.take .outputEnd) :=
  ⟨holds.output,rfl,holds.lines,holds.errorOpen⟩

private theorem take_error (piece coming : List UInt8)
    (holds : Holds output error output? (some (piece ++ coming)) capture) :
    Holds output error output? (some coming) (capture.take (.error piece)) := by
  have isOpen : capture.errorOpen = true := holds.errorOpen
  obtain ⟨text,outputOpen,lines,-⟩ := holds
  obtain ⟨all,lines,start,_,_⟩ := capture
  cases lines with
  | running seen _ _ complete whole cut =>
    obtain ⟨more,last,next⟩ := Text.cut_exists 0x0a (start ++ piece)
    cases isOpen
    simp only [take,if_true,cutLines_of_cut next,← List.map_append]
    exact ⟨text,outputOpen,.running (seen ++ piece) coming last _ (by simp [whole]) (cut.append next),rfl⟩

private theorem take_errorEnd (holds : Holds output error output? (some []) capture) :
    Holds output error output? none (capture.take .errorEnd) := by
  have isOpen : capture.errorOpen = true := holds.errorOpen
  obtain ⟨text,outputOpen,lines,-⟩ := holds
  obtain ⟨all,lines,start,_,_⟩ := capture
  cases lines with
  | running seen _ _ complete whole cut =>
    cases isOpen
    have told : complete.map lineText ++ (if start = [] then [] else [lineText start]) =
        (listed complete start).map lineText := by
      unfold listed
      split <;> simp
    simp only [take,if_true,told]
    exact ⟨text,outputOpen,.ended _ ⟨complete,start,by simpa [whole] using cut,rfl⟩,rfl⟩

end Arrival

/-! ### All arrivals -/

private theorem collect_open (capture : Capture) (arrival : Arrival) (others : List Arrival)
    (running : capture.finished = false) :
    capture.collect (arrival :: others) = (capture.take arrival).collect others := by
  simp [collect,running]

private theorem collect_finished (capture : Capture) (later : List Arrival) (done : capture.finished = true) :
    capture.collect later = (capture, later) := by
  cases later <;> simp [collect,done]

/-- A loop that has ended leaves what comes later; one that has not goes on with it. -/
theorem collect_append (capture : Capture) (front back : List Arrival) :
    capture.collect (front ++ back) =
      if (capture.collect front).1.finished then
        ((capture.collect front).1, (capture.collect front).2 ++ back)
      else (capture.collect front).1.collect back := by
  induction front generalizing capture with
  | nil =>
    cases done : capture.finished with
    | false => simp [collect,done]
    | true => simp [collect,done,collect_finished]
  | cons arrival front ih =>
    cases done : capture.finished with
    | false =>
      rw [List.cons_append,collect_open _ _ _ done,collect_open _ _ _ done]
      exact ih _
    | true => simp [collect_finished,done]

private theorem take_lines (capture : Capture) (arrival : Arrival) :
    capture.lines <+: (capture.take arrival).lines := by
  cases arrival with
  | output piece =>
    simp only [take]
    split <;> exact List.prefix_refl _
  | error piece =>
    simp only [take]
    split
    · exact List.prefix_append _ _
    · exact List.prefix_refl _
  | outputEnd => exact List.prefix_refl _
  | errorEnd =>
    simp only [take]
    split
    · exact List.prefix_append _ _
    · exact List.prefix_refl _

private theorem collect_lines (capture : Capture) (arrivals : List Arrival) :
    capture.lines <+: (capture.collect arrivals).1.lines := by
  induction arrivals generalizing capture with
  | nil => exact List.prefix_refl _
  | cons arrival arrivals ih =>
    cases done : capture.finished with
    | false =>
      rw [collect_open _ _ _ done]
      exact (take_lines capture arrival).trans (ih _)
    | true => simp [collect_finished _ _ done]

private theorem collect_lines_append (capture : Capture) (front back : List Arrival) :
    (capture.collect front).1.lines <+: (capture.collect (front ++ back)).1.lines := by
  rw [collect_append]
  split
  · exact List.prefix_refl _
  · exact collect_lines _ back

private theorem collect_brings (output error : List UInt8) (output? error? : Option (List UInt8))
    (arrivals : List Arrival) (brings : Brings output? error? arrivals) (capture : Capture)
    (holds : Holds output error output? error? capture) (later : List Arrival) :
    ∃ last, capture.collect (arrivals ++ later) = (last, later) ∧ Holds output error none none last := by
  induction brings generalizing capture with
  | nothing =>
    exact ⟨capture,collect_finished capture later holds.finished,holds⟩
  | output piece coming _ arrivals _ ih =>
    rw [List.cons_append,collect_open _ _ _ holds.finished]
    exact ih _ (take_output piece coming holds)
  | outputEnd _ arrivals _ ih =>
    rw [List.cons_append,collect_open _ _ _ holds.finished]
    exact ih _ (take_outputEnd holds)
  | error piece coming _ arrivals _ ih =>
    rw [List.cons_append,collect_open _ _ _ (holds.finished.trans (Bool.and_false _))]
    exact ih _ (take_error piece coming holds)
  | errorEnd _ arrivals _ ih =>
    rw [List.cons_append,collect_open _ _ _ (holds.finished.trans (Bool.and_false _))]
    exact ih _ (take_errorEnd holds)

private theorem collect_unfinished (front back : List Arrival) (more : back ≠ []) (capture last : Capture)
    (collected : capture.collect (front ++ back) = (last, [])) :
    (capture.collect front).1.finished = false := by
  rw [collect_append] at collected
  cases done : (capture.collect front).1.finished with
  | false => rfl
  | true =>
    rw [if_pos done] at collected
    exact absurd (List.append_eq_nil_iff.mp (congrArg Prod.snd collected)).2 more

/-- A child program whose streams have two contents, in whatever pieces and order they come, is collected in
the same way: the output is decoded as a whole, and each line of the error stream is told once, in order.
The loop ends when both streams have ended and not before, and a child that ends in time gives this. -/
theorem capture_ignores_timing (output error : List UInt8) :
    ∃ lines texts, Lines error lines ∧ List.Forall₂ Tells lines texts ∧
      ∀ arrivals, Brings (some output) (some error) arrivals →
        (∀ later, ∃ capture, start.collect (arrivals ++ later) = (capture, later) ∧
          capture.finished = true ∧
          capture.text = String.ofList (Text.Utf8.decodeLossy output) ∧ capture.lines = texts) ∧
        (∀ front back, arrivals = front ++ back → back ≠ [] →
          (start.collect front).1.finished = false ∧ (start.collect front).1.lines <+: texts) ∧
        ∀ (child : Child) (limit? : Option Nanoseconds), child.arrivals.map (·.2) = arrivals →
          child.endsWithin limit? = true → child.follow limit? =
            some (texts, .ok ⟨String.ofList (Text.Utf8.decodeLossy output), child.exitCode?⟩) := by
  obtain ⟨complete,last,cut⟩ := Text.cut_exists 0x0a error
  have all : Lines error (listed complete last) := ⟨complete,last,cut,rfl⟩
  refine ⟨_,(listed complete last).map lineText,all,?_,?_⟩
  · rw [List.forall₂_map_right_iff,List.forall₂_same]
    exact fun line _ => lineText_tells line
  intro arrivals brings
  -- What is told depends on the error stream alone, since its lines are determined by it.
  have ends (later : List Arrival) : ∃ capture, start.collect (arrivals ++ later) = (capture, later) ∧
      capture.finished = true ∧ capture.text = String.ofList (Text.Utf8.decodeLossy output) ∧
      capture.lines = (listed complete last).map lineText := by
    obtain ⟨capture,collected,holds⟩ := collect_brings output error _ _ arrivals brings start
      (start_holds output error) later
    refine ⟨capture,collected,holds.finished,?_,?_⟩
    · rw [text,← holds.output,Option.getD_none,List.append_nil]
    · have forwarded := holds.lines
      generalize capture.partialLine = rest,capture.lines = told at forwarded ⊢
      cases forwarded with
      | ended lines again => rw [lines_unique all again]
  obtain ⟨capture,collected,_,text,told⟩ := ends []
  rw [List.append_nil] at collected
  refine ⟨ends,?_,?_⟩
  · rintro front back rfl more
    refine ⟨collect_unfinished front back more start capture collected,?_⟩
    have grows := collect_lines_append start front back
    rwa [collected,told] at grows
  · rintro child limit? rfl inTime
    simp only [Child.follow,inTime,if_true,ofArrivals,collected,text,told]

/-- A character and the end of a line are cut, and the error stream ends first. -/
theorem cut_pieces_collected :
    let arrivals : List Arrival := [.error [0x61, 0x0d], .output [0xc3], .error [0x0a, 0x62], .errorEnd,
      .output [0xa9], .outputEnd]
    Brings (some [0xc3, 0xa9]) (some [0x61, 0x0d, 0x0a, 0x62]) arrivals ∧
      ∃ capture, start.collect arrivals = (capture, []) ∧ capture.finished = true ∧
        capture.text = "é" ∧ capture.lines = ["a", "b"] := by
  intro arrivals
  have brings : Brings (some [0xc3, 0xa9]) (some [0x61, 0x0d, 0x0a, 0x62]) arrivals :=
    .error [0x61, 0x0d] [0x0a, 0x62] _ _ (.output [0xc3] [0xa9] _ _ (.error [0x0a, 0x62] [] _ _
      (.errorEnd _ _ (.output [0xa9] [] _ _ (.outputEnd _ _ .nothing)))))
  obtain ⟨_,_,_,_,general⟩ := capture_ignores_timing [0xc3, 0xa9] [0x61, 0x0d, 0x0a, 0x62]
  obtain ⟨capture,collected,done,text,-⟩ := (general arrivals brings).1 []
  refine ⟨brings,capture,collected,done,text.trans (by decide +kernel),?_⟩
  have same : capture = (start.collect arrivals).1 := (congrArg Prod.fst collected).symm
  rw [same]
  decide +kernel

end Proctor.Capture
