import Proctor.Run.Console
import Proctor.Proofs.Run.Blocks
import Proctor.Proofs.Run.Keeping
import Proctor.Proofs.Run.Reporting
import Mathlib

/-! The closing lines of a console that watches one run after another. Each tells the account of the targets of its own
run, whatever became of the runs before: every count that is not zero is read off it, under its name. -/
namespace Proctor

/-! ### Accounts -/

structure Account where
  passed : Nat
  failed : Nat
  errors : Nat
  skipped : Nat
deriving DecidableEq, Repr

namespace Account

def isError : Option Outcome → Bool
  | some (.failed _) => true
  | _ => false

def isCompleted : Option Outcome → Bool
  | some (.completed _) => true
  | _ => false

def records (outcomes : List (Option Outcome)) : List Record :=
  outcomes.flatMap fun outcome? => outcome?.elim [] Outcome.records

def ofOutcomes (outcomes : List (Option Outcome)) : Account where
  passed := (records outcomes).countP Record.passed
  failed := (records outcomes).countP fun record => !record.passed
  errors := outcomes.countP isError
  skipped := outcomes.countP Option.isNone

private theorem outcomes_counted (outcomes : List (Option Outcome)) :
    outcomes.countP isCompleted + (ofOutcomes outcomes).errors + (ofOutcomes outcomes).skipped = outcomes.length := by
  simp only [ofOutcomes]
  induction outcomes with
  | nil => rfl
  | cons outcome? outcomes ih =>
    rw [List.countP_cons,List.countP_cons,List.countP_cons,List.length_cons]
    rcases outcome? with _ | _ | _ <;> simp [isCompleted,isError] <;> omega

def counts (account : Account) : List (Nat × Color × String) :=
  [(account.passed, .green, "passed"), (account.failed, .red, "failed"), (account.errors, .red, "error(s)"),
    (account.skipped, .yellow, "skipped")]

def parts (account : Account) (paint : Color → String → String) : List String :=
  (account.counts.filter (0 < ·.1)).map fun (count, color, what) => paint color s!"{count} {what}"

def text (account : Account) (paint : Color → String → String) : String :=
  if account = ⟨0, 0, 0, 0⟩ then "no tests ran" else ", ".intercalate (account.parts paint)

def line (account : Account) (paint : Color → String → String) (duration : Nanoseconds) : String :=
  "\n" ++ (s!"====== {account.text paint} in {duration.clockText} ======" ++ "\n")

private theorem parts_eq_nil (account : Account) (paint : Color → String → String) :
    account.parts paint = [] ↔ account = ⟨0, 0, 0, 0⟩ := by
  obtain ⟨passed,failed,errors,skipped⟩ := account
  simp [parts,counts]

end Account

/-! ### Texts that are told apart -/

private theorem cut_eq {a : Char} {front other rest more : List Char} (first : a ∉ front) (second : a ∉ other)
    (same : front ++ a :: rest = other ++ a :: more) : front = other ∧ rest = more := by
  induction front generalizing other with
  | nil =>
    cases other with
    | nil => exact ⟨rfl,(List.cons.inj same).2⟩
    | cons c other =>
      obtain ⟨rfl,-⟩ := List.cons.inj same
      exact absurd List.mem_cons_self second
  | cons c front ih =>
    cases other with
    | nil =>
      obtain ⟨rfl,-⟩ := List.cons.inj same
      exact absurd List.mem_cons_self first
    | cons d other =>
      obtain ⟨rfl,others⟩ := List.cons.inj same
      simp only [List.mem_cons,not_or] at first second
      obtain ⟨rfl,ends⟩ := ih first.2 second.2 others
      exact ⟨rfl,ends⟩

/-- Parts without commas are told from the text that joins them. -/
theorem joined_eq {parts others : List (List Char)} (plain : ∀ part ∈ parts, ',' ∉ part)
    (bare : ∀ part ∈ others, ',' ∉ part) (some : parts ≠ []) (more : others ≠ [])
    (same : [',', ' '].intercalate parts = [',', ' '].intercalate others) : parts = others := by
  induction parts generalizing others with
  | nil => exact absurd rfl some
  | cons part parts ih =>
    obtain ⟨other,others,rfl⟩ := List.exists_cons_of_ne_nil more
    obtain ⟨noComma,later⟩ := List.forall_mem_cons.mp plain
    obtain ⟨neither,further⟩ := List.forall_mem_cons.mp bare
    -- Where one text goes on behind its part and the other ends, the last part would hold the comma.
    cases parts with
    | nil =>
      cases others with
      | nil => simpa using same
      | cons next others =>
        rw [List.intercalate_singleton,List.intercalate_cons_cons] at same
        simp [same] at noComma
    | cons next parts =>
      cases others with
      | nil =>
        rw [List.intercalate_singleton,List.intercalate_cons_cons] at same
        simp [← same] at neither
      | cons following others =>
        rw [List.intercalate_cons_cons,List.intercalate_cons_cons,List.append_assoc,List.append_assoc] at same
        obtain ⟨rfl,rest⟩ := cut_eq noComma neither same
        rw [ih later further (by simp) (by simp) (List.cons.inj rest).2]

private theorem notMem_count {c : Char} (noDigit : c.isDigit = false) (count : Nat) : c ∉
    (toString count).toList := by
  intro inside
  have digit := Nat.isDigit_of_mem_toDigits (b := 10) (by decide) (by decide) (by simpa using inside)
  rw [digit] at noDigit
  cases noDigit

private theorem count_tells {count other : Nat} {what kind : String}
    (same : s!"{count} {what}" = s!"{other} {kind}") :
    count = other ∧ what = kind := by
  have chars := congrArg String.toList same
  simp only [String.toList_append,List.append_assoc] at chars
  obtain ⟨counts,whats⟩ := cut_eq (notMem_count rfl count) (notMem_count rfl other) chars
  exact ⟨Nat.repr_inj.mp (String.toList_inj.mp counts),String.toList_inj.mp whats⟩

namespace Console
variable (console : Console)

private theorem paint_tells {color other : Color} {text more : String}
    (same : console.paint color text = console.paint other more) : text = more := by
  unfold paint at same
  split at same
  · have code (color : Color) : 'm' ∉ color.code.toList := by cases color <;> decide
    have chars := congrArg String.toList same
    simp only [String.toList_append,List.append_assoc] at chars
    obtain ⟨-,texts⟩ := cut_eq (code color) (code other) (List.append_cancel_left chars)
    exact String.toList_inj.mp (List.append_cancel_right texts)
  · exact same

private theorem part_plain (color : Color) (count : Nat) (what : String) (plain : ',' ∉ what.toList) :
    ',' ∉ (console.paint color s!"{count} {what}").toList := by
  have text : ',' ∉ (s!"{count} {what}").toList := by
    simp only [String.toList_append,List.mem_append,not_or]
    exact ⟨⟨notMem_count rfl count,by decide⟩,plain⟩
  unfold paint
  split
  · have code : ',' ∉ color.code.toList := by cases color <;> decide
    rw [String.toList_append,String.toList_append,String.toList_append,String.toList_append]
    simp only [List.mem_append,not_or]
    exact ⟨⟨⟨⟨by decide,code⟩,by decide⟩,text⟩,by decide⟩
  · exact text

/-- What counts something does not begin like the text for a run without tests. -/
theorem part_head (color : Color) (count : Nat) (what : String) :
    ∃ c rest, (console.paint color s!"{count} {what}").toList = c :: rest ∧ c ≠ 'n' := by
  unfold paint
  split
  · exact ⟨'\x1b',_,by simp; rfl,by decide⟩
  · obtain ⟨c,digits,same⟩ := List.exists_cons_of_ne_nil (Nat.toDigits_ne_nil (n := count) (b := 10))
    have digit : c.isDigit = true := Nat.isDigit_of_mem_toDigits (by decide) (by decide) (same ▸ List.mem_cons_self)
    refine ⟨c,_,by simp [same]; rfl,?_⟩
    rintro rfl
    cases digit

/-! ### Lines that tell their accounts -/

private theorem text_eq_none (account : Account) :
    account.text console.paint = "no tests ran" ↔ account = ⟨0, 0, 0, 0⟩ := by
  unfold Account.text
  by_cases zero : account = ⟨0, 0, 0, 0⟩
  · simp [zero]
  rw [if_neg zero]
  refine ⟨fun shown => ?_,fun is => absurd is zero⟩
  obtain ⟨first,others,same⟩ := List.exists_cons_of_ne_nil (zero ∘ (account.parts_eq_nil console.paint).mp)
  have head : ∃ c rest, first.toList = c :: rest ∧ c ≠ 'n' := by
    have inside : first ∈ account.parts console.paint := same ▸ List.mem_cons_self
    obtain ⟨⟨count,color,what⟩,-,rfl⟩ := List.mem_map.mp inside
    exact console.part_head color count what
  obtain ⟨c,rest,head,other⟩ := head
  have begins := congrArg (List.head? ∘ String.toList) shown
  rw [same] at begins
  refine absurd ?_ other
  cases others with
  | nil => simpa [head] using begins
  | cons next others => simpa [String.intercalate_cons_cons,head] using begins

private theorem parts_plain (account : Account) : ∀ part ∈ account.parts console.paint, ',' ∉ part.toList := by
  intro part inside
  obtain ⟨⟨count,color,what⟩,counted,rfl⟩ := List.mem_map.mp inside
  have names : ∀ entry ∈ account.counts, ',' ∉ entry.2.2.toList := by simp [Account.counts]
  exact console.part_plain color count what (names _ (List.mem_filter.mp counted).1)

private theorem parts_tell (one other : Account)
    (within : ∀ part ∈ one.parts console.paint, part ∈ other.parts console.paint) :
    ∀ entry ∈ one.counts, 0 < entry.1 → ∃ twin ∈ other.counts, twin.1 = entry.1 ∧ twin.2.2 = entry.2.2 := by
  rintro ⟨count,color,what⟩ counted some
  have here : console.paint color s!"{count} {what}" ∈ one.parts console.paint :=
    List.mem_map.mpr ⟨(count, color, what),List.mem_filter.mpr ⟨counted,decide_eq_true some⟩,rfl⟩
  obtain ⟨⟨found,painted,kind⟩,listed,same⟩ := List.mem_map.mp (within _ here)
  have told := count_tells (console.paint_tells same)
  exact ⟨(found, painted, kind),(List.mem_filter.mp listed).1,told⟩

private theorem parts_injective (one other : Account)
    (same : one.parts console.paint = other.parts console.paint) :
    one = other := by
  have forth := console.parts_tell one other (by simp [same])
  have back := console.parts_tell other one (by simp [same])
  obtain ⟨passed,failed,errors,skipped⟩ := one
  obtain ⟨passed',failed',errors',skipped'⟩ := other
  -- The names differ, so that each count is found again at its own place.
  simp [Account.counts] at forth back ⊢
  omega

private theorem text_injective (one other : Account)
    (same : one.text console.paint = other.text console.paint) :
    one = other := by
  by_cases zero : one = ⟨0, 0, 0, 0⟩
  · rw [(console.text_eq_none one).mpr zero] at same
    rw [zero,(console.text_eq_none other).mp same.symm]
  by_cases none : other = ⟨0, 0, 0, 0⟩
  · rw [(console.text_eq_none other).mpr none] at same
    exact absurd ((console.text_eq_none one).mp same) zero
  rw [Account.text,Account.text,if_neg zero,if_neg none] at same
  have chars := congrArg String.toList same
  rw [String.toList_intercalate,String.toList_intercalate] at chars
  apply console.parts_injective
  apply List.map_injective_iff.mpr fun _ _ => String.toList_injective
  refine joined_eq ?_ ?_ ?_ ?_ chars
  · simpa using console.parts_plain one
  · simpa using console.parts_plain other
  · simpa using (one.parts_eq_nil console.paint).not.mpr zero
  · simpa using (other.parts_eq_nil console.paint).not.mpr none

/-! ### The line of a report -/

variable (report : Report) (account : Account)

private theorem closingParts_eq (passed : report.totals.passed = account.passed)
    (failed : report.totals.failed = account.failed)
    (errors : (report.countP fun entry => entry.2.error?.isSome) = account.errors)
    (skipped : console.skipped = account.skipped) : console.closingParts report = account.parts console.paint := by
  have each (counts : List (Nat × Color × String)) :
      (counts.flatMap fun (count, color, what) => if count = 0 then [] else [console.paint color s!"{count} {what}"]) =
        (counts.filter (0 < ·.1)).map fun (count, color, what) => console.paint color s!"{count} {what}" := by
    induction counts with
    | nil => rfl
    | cons first others ih =>
      rw [List.flatMap_cons,ih]
      obtain ⟨_ | count,color,what⟩ := first <;> simp
  rw [Account.parts,← each]
  simp [closingParts,Account.counts,passed,failed,errors,skipped]

private theorem render_complete (duration : Nanoseconds)
    (parts : console.closingParts report = account.parts console.paint) :
    console.render (.runComplete report duration) = account.line console.paint duration := by
  have shown : console.render (.runComplete report duration) = "\n" ++ console.closingLine report duration := rfl
  rw [shown,closingLine,parts,Account.line,Account.text]
  by_cases zero : account = ⟨0, 0, 0, 0⟩
  · rw [if_pos zero,(account.parts_eq_nil _).mpr zero]
    rfl
  · obtain ⟨first,others,same⟩ := List.exists_cons_of_ne_nil (zero ∘ (account.parts_eq_nil console.paint).mp)
    rw [if_neg zero,same]
    rfl

end Console

/-! ### Events on a console -/

def Event.isFrame : Event → Bool
  | .runStart _ => true
  | .runComplete .. => true
  | _ => false

def Event.isSkip : Event → Bool
  | .skipped _ => true
  | _ => false

namespace Console

def afterAll (console : Console) (events : List Event) : Console := events.foldl after console

private theorem after_color (console : Console) (event : Event) : (console.after event).color =
    console.color := by
  cases event <;> rfl

private theorem afterAll_color (console : Console) (events : List Event) :
    (console.afterAll events).color = console.color := by
  induction events generalizing console with
  | nil => rfl
  | cons event events ih => exact (ih _).trans (console.after_color event)

private theorem paint_eq {console other : Console} (same : console.color = other.color) : console.paint =
    other.paint := by
  funext color text
  rw [paint,paint,same]

private theorem afterAll_skipped (console : Console) (events : List Event)
    (inside : ∀ event ∈ events, event.isFrame = false) :
    (console.afterAll events).skipped = console.skipped + events.countP Event.isSkip := by
  induction events generalizing console with
  | nil => rfl
  | cons event events ih =>
    obtain ⟨first,others⟩ := List.forall_mem_cons.mp inside
    have later := ih (console.after event) others
    rw [afterAll,List.foldl_cons,List.countP_cons,← afterAll,later]
    cases event <;> simp [after,Event.isFrame,Event.isSkip] at first ⊢
    omega

private theorem showAll_append (console : Console) (front back : List Event) :
    console.showAll (front ++ back) = console.showAll front ++ (console.afterAll front).showAll back := by
  induction front generalizing console with
  | nil => rfl
  | cons event front ih =>
    rw [List.cons_append,showAll,showAll,ih,List.cons_append]
    rfl

/-- A run that began on the console is closed with the skips of this run alone. -/
theorem render_close (console : Console) (spec : Specification) (inner : List Event)
    (inside : ∀ event ∈ inner, event.isFrame = false) (report : Report) (account : Account) (duration : Nanoseconds)
    (passed : report.totals.passed = account.passed) (failed : report.totals.failed = account.failed)
    (errors : (report.countP fun entry => entry.2.error?.isSome) = account.errors)
    (skipped : inner.countP Event.isSkip = account.skipped) :
    (console.afterAll (.runStart spec :: inner)).render (.runComplete report duration) =
      account.line console.paint duration := by
  have counted : (console.afterAll (.runStart spec :: inner)).skipped = account.skipped := by
    rw [← skipped,afterAll,List.foldl_cons,← afterAll,afterAll_skipped _ inner inside]
    exact Nat.zero_add _
  have colored := paint_eq (console.afterAll_color (.runStart spec :: inner))
  have parts := closingParts_eq _ report account passed failed errors counted
  rw [← colored]
  exact render_complete _ report account duration parts

end Console

/-! ### What a run tells -/

def Step.Tells (P : Event → Prop) (step : Step) : Prop := ∀ event, step.event? = some event → P event

private theorem tells_events {P : Event → Prop} {steps : List Step} (tells : ∀ step ∈ steps, step.Tells P) :
    ∀ event ∈ steps.filterMap Step.event?, P event := by
  intro event told
  obtain ⟨step,inside,same⟩ := List.mem_filterMap.mp told
  exact tells step inside event same

namespace Surroundings
variable {σ : Type} (around : Surroundings σ) (patience : Nat) (request : String)

private theorem handles_tells (P : Event → Prop) (noticed : ∀ notice, P (.noticed notice))
    (judged : ∀ name verdict, P (.scanned name verdict)) :
    Handles around request fun _ _ _ steps => ∀ step ∈ steps, step.Tells P := by
  apply handles_of_steps around request (Step.Tells P)
  · rintro notice _ ⟨⟩
    exact noticed notice
  · rintro name verdict _ ⟨⟩
    exact judged name verdict
  · rintro path _ ⟨⟩
  · rintro about answer _ ⟨⟩
  · rintro path problem? _ ⟨⟩
  · rintro path _ ⟨⟩

/-- Between its start and its end nothing is told of a target that a console counts. -/
theorem runTarget_skips (name path : String) (world : σ) :
    ((around.runTarget patience request name path world).2.2.filterMap Step.event?).countP Event.isSkip = 0 := by
  have handles := around.handles_tells request (fun event => event.isSkip = false) (fun _ => rfl) fun _ _ => rfl
  rw [List.countP_eq_zero]
  intro event told
  rw [tells_events (handles.runTarget patience name path world) event told]
  exact Bool.false_ne_true

private theorem runTargets_inside (targets : Targets) (report : Report) (world : σ) :
    ∀ event ∈ (around.runTargets patience request targets report world).2.2.filterMap Step.event?,
      event.isFrame = false := by
  have handles := around.handles_tells request (fun event => event.isFrame = false) (fun _ => rfl) fun _ _ => rfl
  refine tells_events (handles.runTargets ?_ ?_ patience targets report world)
  · intro name path world
    refine List.forall_mem_singleton.mpr ?_
    rintro _ ⟨⟩
    rfl
  · intro name outcome? world
    refine List.forall_mem_singleton.mpr ?_
    rintro _ ⟨⟩
    cases outcome? <;> rfl

/-- Of targets that are all gone through, those without an outcome are told to be skipped. -/
theorem runTargets_skips (targets : Targets) (report found : Report) (world after : σ) (steps : List Step)
    (ran : around.runTargets patience request targets report world = (some found, after, steps)) :
    ∃ outcomes, Pipeline around request targets world outcomes after ∧
      found = recordAll report (entries targets outcomes) ∧
      (steps.filterMap Step.event?).countP Event.isSkip = outcomes.countP Option.isNone := by
  have course := around.courses_of_runTargets patience request targets report world after _ steps ran
  clear ran
  generalize is : some found = report? at course
  induction course with
  | done report world =>
    cases is
    exact ⟨[],.done world,rfl,rfl⟩
  | abandoned => cases is
  | next name path others report world middle after outcome? _ steps rest treated _ ih =>
    obtain ⟨outcomes,pipeline,same,counted⟩ := ih is
    have treats := around.treats_of_runTarget patience request name path _ middle outcome? steps treated
    refine ⟨outcome? :: outcomes,.next name path others world middle after outcome? outcomes treats pipeline,?_,?_⟩
    · rw [recordAll_entries]
      exact same
    · have silent := around.runTarget_skips patience request name path (around.hear (.targetStart name path) world)
      rw [treated] at silent
      have told (event : Event) : Step.event? (.told event) = some event := rfl
      rw [List.filterMap_append,List.filterMap_cons_some (told _),List.filterMap_cons_some (told _),
        List.countP_append,List.countP_cons,List.countP_cons,List.countP_cons,silent,counted]
      cases outcome? <;> simp [closing,Event.isSkip]

/-! ### Accounts of reports -/

private theorem entries_account (targets : Targets) (outcomes : List (Option Outcome))
    (size : outcomes.length = targets.length) :
    ((entries targets outcomes).flatMap fun entry => entry.2.records) = Account.records outcomes ∧
      ((entries targets outcomes).countP fun entry => entry.2.error?.isSome) = outcomes.countP Account.isError := by
  induction targets generalizing outcomes with
  | nil =>
    obtain rfl := List.length_eq_zero_iff.mp size
    exact ⟨rfl,rfl⟩
  | cons target others ih =>
    obtain ⟨outcome?,rest,rfl⟩ := List.exists_cons_of_length_eq_add_one size
    obtain ⟨records,errors⟩ := ih rest (by simpa using size)
    rcases outcome? with _ | result | error
    · exact ⟨records,errors⟩
    · have entry : entries (target :: others) (some (.completed result) :: rest) =
        (target.1, .completed result) :: entries others rest := rfl
      rw [entry,List.flatMap_cons,List.countP_cons,List.countP_cons,records,errors]
      exact ⟨rfl,rfl⟩
    · have entry : entries (target :: others) (some (.failed error) :: rest) =
        (target.1, .failed error) :: entries others rest := rfl
      rw [entry,List.flatMap_cons,List.countP_cons,List.countP_cons,records,errors]
      exact ⟨rfl,rfl⟩

end Surroundings

/-! ### Runs on one console -/

/-- A run that a console is told of: where it takes place, and of what. -/
structure Occasion where
  World : Type
  around : Surroundings World
  patience : Nat
  elapsed : World → Nanoseconds
  spec : Specification
  world : World
  distinct : (spec.targets.map (·.1)).Nodup

namespace Occasion
open Surroundings

def result? (run : Occasion) : Option (Except WriteError Report) :=
  (run.around.run run.patience run.elapsed run.spec run.world).1

def events (run : Occasion) : List Event :=
  (run.around.run run.patience run.elapsed run.spec run.world).2.2.filterMap Step.event?

/-- The ways in which a console can close a run. One that ends is closed by a line with the account of its targets. -/
inductive Closing (run : Occasion) (console : Console) : List String → Prop
  | unwritten (path reason : String) (after : run.World)
      (refused : run.around.write run.spec.toText run.world = (some (.error (path, reason)), after))
      (failed : run.result? = some (.error ⟨path, reason⟩)) : Closing run console []
  | abandoned (current : Console) (gone : run.result? = none)
      (unclosed : ∀ report duration, .runComplete report duration ∉ run.events) :
      Closing run console (current.showAll run.events)
  | ended (current : Console) (request : String) (written after : run.World) (outcomes : List (Option Outcome))
      (front : List Event) (duration : Nanoseconds)
      (wrote : run.around.write run.spec.toText run.world = (some (.ok request), written))
      (pipeline : Pipeline run.around request run.spec.targets (run.around.hear (.runStart run.spec) written)
        outcomes after)
      (returned : run.result? = some (.ok (entries run.spec.targets outcomes)))
      (told : run.events = front ++ [.runComplete (entries run.spec.targets outcomes) duration])
      (first : ∀ report duration, .runComplete report duration ∉ front)
      (counted : outcomes.countP Account.isCompleted + (Account.ofOutcomes outcomes).errors +
        (Account.ofOutcomes outcomes).skipped = run.spec.targets.length) :
      Closing run console (current.showAll front ++ [(Account.ofOutcomes outcomes).line console.paint duration])

end Occasion

namespace Console

def showRuns (console : Console) : List Occasion → List (List String)
  | [] => []
  | run :: others => console.showAll run.events :: (console.afterAll run.events).showRuns others

private theorem showRuns_flatten (console : Console) (runs : List Occasion) :
    (console.showRuns runs).flatten = console.showAll (runs.flatMap Occasion.events) := by
  induction runs generalizing console with
  | nil => rfl
  | cons run others ih => rw [showRuns,List.flatten_cons,ih,List.flatMap_cons,showAll_append]

end Console

namespace Occasion
open Surroundings

private theorem events_of_ran {run : Occasion} {result? : Option (Except WriteError Report)} {after : run.World}
    {steps : List Step} (ran : run.around.run run.patience run.elapsed run.spec run.world = (result?, after, steps)) :
    run.result? = result? ∧ run.events = steps.filterMap Step.event? := by
  rw [Occasion.result?,Occasion.events,ran]
  exact ⟨rfl,rfl⟩

section
variable (run : Occasion) (request : String) (written after cleaned : run.World) (steps : List Step)

/-- Between the start and the end of a run a console counts what is told of its targets: behind them there may be a
notice of a request that is left over. -/
theorem events_of_ended (report : Report) (problem? : Option String)
    (wrote : run.around.write run.spec.toText run.world = (some (.ok request), written))
    (gone : run.around.runTargets run.patience request run.spec.targets []
      (run.around.hear (.runStart run.spec) written) = (some report, after, steps))
    (removed : run.around.remove request after = (some problem?, cleaned)) :
    run.result? = some (.ok report) ∧ ∃ inner duration,
      run.events = (.runStart run.spec :: inner) ++ [.runComplete report duration] ∧
      (∀ event ∈ inner, event.isFrame = false) ∧
      inner.countP Event.isSkip = (steps.filterMap Step.event?).countP Event.isSkip := by
  obtain ⟨returned,told⟩ := events_of_ran (run.around.run_ended run.patience run.elapsed run.spec run.world written
    request wrote after steps report cleaned gone problem? removed)
  have inside := run.around.runTargets_inside run.patience request run.spec.targets []
    (run.around.hear (.runStart run.spec) written)
  rw [gone] at inside
  refine ⟨returned,steps.filterMap Step.event? ++ (leftover request problem?).map .noticed,
    run.elapsed (run.around.heard (leftover request problem?) cleaned),?_,?_,?_⟩
  · simp [told,List.filterMap_cons,Step.event?,noticed_events]
  · refine List.forall_mem_append.mpr ⟨inside,fun event notice => ?_⟩
    obtain ⟨_,-,rfl⟩ := List.mem_map.mp notice
    rfl
  · rw [List.countP_append,List.countP_map,Nat.add_eq_left,List.countP_eq_zero]
    exact fun _ _ => Bool.false_ne_true

/-- A run that does not come behind the removal of its request tells no end. -/
theorem events_of_abandoned (report? : Option Report)
    (gone : run.around.runTargets run.patience request run.spec.targets []
      (run.around.hear (.runStart run.spec) written) = (report?, after, steps))
    (ran : run.around.run run.patience run.elapsed run.spec run.world = (none, cleaned,
      .wrote request run.spec.toText :: .told (.runStart run.spec) :: steps ++ [.removed request])) :
    run.result? = none ∧ ∀ report duration, .runComplete report duration ∉ run.events := by
  obtain ⟨abandoned,told⟩ := events_of_ran ran
  have inside := run.around.runTargets_inside run.patience request run.spec.targets []
    (run.around.hear (.runStart run.spec) written)
  rw [gone] at inside
  refine ⟨abandoned,fun report duration closes => ?_⟩
  have frame := inside (.runComplete report duration) (by simpa [told,List.filterMap_cons,Step.event?] using closes)
  cases frame

end

section
variable (run : Occasion) (console current : Console) (same : current.color = console.color)
include same

private theorem closing_ended (request : String) (written after cleaned : run.World) (report : Report)
    (problem? : Option String) (steps : List Step)
    (wrote : run.around.write run.spec.toText run.world = (some (.ok request), written))
    (gone : run.around.runTargets run.patience request run.spec.targets []
      (run.around.hear (.runStart run.spec) written) = (some report, after, steps))
    (removed : run.around.remove request after = (some problem?, cleaned)) :
    run.Closing console (current.showAll run.events) := by
  obtain ⟨outcomes,pipeline,whole,skips⟩ := run.around.runTargets_skips run.patience request run.spec.targets []
    report _ after steps gone
  obtain ⟨size,tallied⟩ := run.around.pipeline_tallied request run.spec.targets _ after outcomes pipeline
  rw [recordAll_distinct [] _ (by simpa using (entries_names run.spec.targets outcomes).nodup run.distinct),
    List.nil_append] at whole
  subst whole
  obtain ⟨returned,inner,duration,told,inside,skipped⟩ :=
    run.events_of_ended request written after cleaned steps _ problem? wrote gone removed
  -- The counts of the report are those of the outcomes, and the skips are counted from the start of the run.
  have totals := Report.totals_eq_tally (entries run.spec.targets outcomes)
    fun entry member => tallied entry.2 (entries_outcome run.spec.targets outcomes entry member)
  obtain ⟨records,errors⟩ := entries_account run.spec.targets outcomes size
  rw [records] at totals
  have line := current.render_close run.spec inner inside _ (Account.ofOutcomes outcomes) duration
    (congrArg Summary.passed totals) (congrArg Summary.failed totals) errors (skipped.trans skips)
  have closed : current.showAll run.events = current.showAll (.runStart run.spec :: inner) ++
      [(Account.ofOutcomes outcomes).line console.paint duration] := by
    rw [told,Console.showAll_append,← Console.paint_eq same,← line]
    rfl
  rw [closed]
  refine .ended current request written after outcomes _ duration wrote pipeline returned told ?_ ?_
  · intro report duration closes
    have frame := inside (.runComplete report duration) (by simpa using closes)
    cases frame
  · exact (Account.outcomes_counted outcomes).trans size

theorem closing : run.Closing console (current.showAll run.events) := by
  rcases wrote : run.around.write run.spec.toText run.world with ⟨_ | ⟨path,reason⟩ | request,written⟩
  · obtain ⟨silent,told⟩ := events_of_ran
      (run.around.run_unplaced run.patience run.elapsed run.spec run.world written wrote)
    exact .abandoned current silent (by simp [told])
  · obtain ⟨failed,told⟩ := events_of_ran
      (run.around.run_unwritten run.patience run.elapsed run.spec run.world written path reason wrote)
    rw [told]
    exact .unwritten path reason written wrote failed
  rcases ran : run.around.run run.patience run.elapsed run.spec run.world with ⟨result?,final,steps⟩
  cases run.around.course_of_run run.patience run.elapsed run.spec request written run.world wrote result? final
    steps ran with
  | abandoned after during gone =>
    obtain ⟨abandoned,unclosed⟩ := run.events_of_abandoned request written after _ during none gone ran
    exact .abandoned current abandoned unclosed
  | uncleaned after _ report during gone _ =>
    obtain ⟨abandoned,unclosed⟩ := run.events_of_abandoned request written after _ during (some report) gone ran
    exact .abandoned current abandoned unclosed
  | ended after cleaned _ report problem? during gone removed _ =>
    exact run.closing_ended console current same request written after cleaned report problem? during wrote gone
      removed

end

theorem ends (run : Occasion) (responsive : Responsive run.around) : ∃ bound, ∀ patience, bound ≤ patience →
    (run.around.run patience run.elapsed run.spec run.world).1.isSome := by
  have answers := responsive.writes run.spec.toText run.world
  rcases wrote : run.around.write run.spec.toText run.world with ⟨_ | ⟨path,reason⟩ | request,written⟩
  · rw [wrote] at answers
    cases answers
  · refine ⟨0,fun patience _ => ?_⟩
    rw [run.around.run_unwritten patience run.elapsed run.spec run.world written path reason wrote]
    rfl
  · exact run.around.run_ends run.elapsed run.spec run.world written request wrote responsive

end Occasion

private theorem Console.showRuns_closing (console current : Console) (same : current.color = console.color)
    (runs : List Occasion) :
    List.Forall₂ (fun run shown => Occasion.Closing run console shown) runs (current.showRuns runs) := by
  induction runs generalizing current with
  | nil => exact .nil
  | cons run others ih =>
    exact .cons (run.closing console current same) (ih _ ((current.afterAll_color run.events).trans same))

/-- A console that is told of one run after another closes each run that ends with the account of its targets: the
passed and the failed records of those that were completed, the targets that failed and those that were skipped. The
line names what there is of these, or says that there is nothing, so that it tells the account, and no target is left
out. A run that does not start shows nothing, one that is abandoned is not closed, and neither adds to the account of
another. -/
theorem Console.closing_lines_account (console : Console) (runs : List Occasion) :
    (console.showRuns runs).flatten = console.showAll (runs.flatMap Occasion.events) ∧
    List.Forall₂ (fun run shown => Occasion.Closing run console shown) runs (console.showRuns runs) ∧
    (∀ account : Account, account.text console.paint = "no tests ran" ↔ account = ⟨0, 0, 0, 0⟩) ∧
    (∀ one other : Account, one.text console.paint = other.text console.paint → one = other) ∧
    ∀ run ∈ runs, Surroundings.Responsive run.around → ∃ bound, ∀ patience, bound ≤ patience →
      (run.around.run patience run.elapsed run.spec run.world).1.isSome :=
  ⟨console.showRuns_flatten runs,console.showRuns_closing console rfl runs,console.text_eq_none,
    console.text_injective,fun run _ => run.ends⟩

/-- A run with a skipped target and one that cannot be read, a run whose request is not written, one that is abandoned
behind a skipped target, and one without targets: no skip is in the account of another run. -/
theorem Console.skips_accounted_once :
    let around : Surroundings Unit :=
      { write := fun _ world => (some (.ok "request.json"), world)
        scan := fun path world => (some (if path = "a.py" then .suspicious "eval" else .clean, []), world)
        ask := fun _ world => (some ⟨.skip, ""⟩, world)
        edit := fun _ world => (none, world)
        execute := fun _ _ world => (some (.error (.read "gone"), []), world)
        remove := fun _ world => (some none, world) }
    let full := { around with write := fun _ world => (some (.error ("request.json", "disk full")), world) }
    let silent := { around with
      scan := fun path world => (if path = "a.py" then some (.suspicious "eval", []) else none, world) }
    let run (around : Surroundings Unit) (targets : Targets) (distinct : (targets.map (·.1)).Nodup) : Occasion :=
      ⟨Unit, around, 1, fun _ => 0, ⟨"f", [], targets⟩, (), distinct⟩
    let first := run around [("a", "a.py"), ("b", "b.py")] (by decide)
    let runs := [first, run full [("a", "a.py")] (by decide), run silent [("a", "a.py"), ("c", "c.py")] (by decide),
      run around [] (by decide)]
    let console : Console := ⟨false, false, 7⟩
    (console.showRuns runs).map List.getLast? =
      [some (Account.line ⟨0, 0, 1, 1⟩ console.paint 0), none, some "",
        some (Account.line ⟨0, 0, 0, 0⟩ console.paint 0)] ∧
    Account.text ⟨0, 0, 1, 1⟩ console.paint = "1 error(s), 1 skipped" ∧
    List.Forall₂ (fun run shown => Occasion.Closing run console shown) runs (console.showRuns runs) ∧
    Surroundings.Responsive around ∧ ∃ bound, ∀ patience, bound ≤ patience →
      (around.run patience first.elapsed first.spec first.world).1.isSome := by
  intro around full silent run first runs console
  have responsive : Surroundings.Responsive around :=
    ⟨fun _ _ => rfl,fun _ _ => rfl,fun _ _ _ => rfl,
      fun _ _ => ⟨.skipped,(),.ends () () ⟨.skip, ""⟩ .skipped rfl rfl⟩,fun _ _ => rfl⟩
  obtain ⟨-,closed,-,-,ends⟩ := console.closing_lines_account runs
  exact ⟨rfl,by decide,closed,responsive,ends first List.mem_cons_self responsive⟩

end Proctor
