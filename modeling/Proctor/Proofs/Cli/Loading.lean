import Proctor.Cli.Commands
import Proctor.Proofs.Json.Soundness
import Proctor.Proofs.Spec.Artifact
import Proctor.Proofs.Spec.Targets
import Mathlib

/-! Loading a specification: what the command line adds to the one in the file comes after its own targets
and changes none of them, and whatever stands in the way is a complaint with the exit code for unusable
input. -/
namespace Proctor
open OrderedMap (keys)

/-! ### The targets in a text -/

private theorem Targets.decode_distinct (room : Nat) (text rest : List Char) (targets : Targets)
    (read : Targets.decode room text = .ok (targets, rest)) : (keys targets).Nodup := by
  have none_yet : Traces [] [] := ⟨List.nodup_nil,fun _ => rfl⟩
  have distinct := (none_yet.decode room text).distinct
  simpa only [Targets.apply,read] using distinct

private theorem Specification.ofText_distinct (text : String) (spec : Specification)
    (read : ofText text = .ok spec) : (keys spec.targets).Nodup := by
  let P (draft : Draft) : Prop := ∀ targets, draft.targets? = some targets → (keys targets).Nodup
  have kept : ∀ field ∈ fields, ∀ room draft text draft' rest, P draft →
      field.read room draft text = .ok (draft', rest) → P draft' := by
    intro field inside room draft text draft' rest holds taken
    simp only [fields,List.mem_cons,List.not_mem_nil,or_false] at inside
    rcases inside with rfl | rfl | rfl
    · obtain ⟨function,_,rfl⟩ := (State.map_ok _ _ _ _ _).mp taken
      exact holds
    · obtain ⟨cases,_,rfl⟩ := (State.map_ok _ _ _ _ _).mp taken
      exact holds
    · obtain ⟨targets,found,rfl⟩ := (State.map_ok _ _ _ _ _).mp taken
      rintro _ ⟨⟩
      exact Targets.decode_distinct room text rest targets found
  unfold ofText at read
  split at read
  · next decoded =>
    cases read
    obtain ⟨rest,taken,_⟩ := Json.readAll_ok _ text spec decoded
    obtain ⟨draft,filled,rfl⟩ := (State.map_ok _ _ _ _ _).mp taken
    have holds : P draft := Json.decodeStructure_keeps P fields kept _ _ (by rintro _ ⟨⟩)
      Json.maxOpen _ draft rest filled
    cases found : draft.targets? with
    | none => simp [keys]
    | some targets => simpa [found] using holds targets found
  · cases read

namespace Cli

/-! ### Additions -/

def Named (path : String) : Prop := ∃ file, Path.fileName? path = some file

private theorem addTarget_named (spec : Specification) (path : String) (named : Named path) :
    ∃ name, name ∉ keys spec.targets ∧
      spec.addTarget path = .ok { spec with targets := spec.targets ++ [(name, path)] } := by
  obtain ⟨file,named⟩ := named
  obtain ⟨_,fresh⟩ := spec.targets.freshName_fresh (Targets.suggested file)
  refine ⟨_,fresh.free,?_⟩
  rw [Specification.addTarget,Targets.add_named spec.targets path file named]
  rfl

private theorem addTarget_unnamed (spec : Specification) (path : String) (unnamed : ¬ Named path) :
    spec.addTarget path = .error (.noFileName path) := by
  have nameless : Path.fileName? path = none :=
    Option.eq_none_iff_forall_ne_some.mpr fun file found => unnamed ⟨file,found⟩
  rw [Specification.addTarget,Targets.add_unnamed spec.targets path nameless]
  rfl

/-- Paths with names are added behind the targets that are there, under names that no other target has. -/
theorem addTargets_named (spec : Specification) (scripts : List String)
    (named : ∀ script ∈ scripts, Named script) : ∃ added : Targets,
    addTargets spec scripts = .ok { spec with targets := spec.targets ++ added } ∧
      added.map (·.2) = scripts ∧ ((keys spec.targets).Nodup → (keys (spec.targets ++ added)).Nodup) := by
  unfold addTargets
  induction scripts generalizing spec with
  | nil =>
    refine ⟨[],?_,rfl,?_⟩
    · rw [List.append_nil]
      rfl
    · rw [List.append_nil]
      exact id
  | cons script scripts ih =>
    obtain ⟨first,others⟩ := List.forall_mem_cons.mp named
    obtain ⟨name,free,next⟩ := addTarget_named spec script first
    obtain ⟨added,rest,paths,distinct⟩ :=
      ih { spec with targets := spec.targets ++ [(name, script)] } others
    refine ⟨(name, script) :: added,?_,by rw [List.map_cons,paths],fun start => ?_⟩
    · rw [List.foldlM_cons,next]
      simpa [bind,Except.bind] using rest
    · have longer : (keys (spec.targets ++ [(name, script)])).Nodup := by
        rw [keys,List.map_append]
        exact List.nodup_append_comm.mp (List.nodup_cons.mpr ⟨free,start⟩)
      simpa using distinct longer

private theorem addTargets_unnamed (spec : Specification) (scripts : List String)
    (unnamed : ∃ script ∈ scripts, ¬ Named script) :
    ∃ script ∈ scripts, addTargets spec scripts = .error (.noFileName script) := by
  unfold addTargets
  induction scripts generalizing spec with
  | nil => simp at unnamed
  | cons script scripts ih =>
    rw [List.foldlM_cons]
    by_cases named : Named script
    · obtain ⟨name,_,next⟩ := addTarget_named spec script named
      have later : ∃ other ∈ scripts, ¬ Named other := by simpa [named] using unnamed
      obtain ⟨other,inside,refused⟩ :=
        ih { spec with targets := spec.targets ++ [(name, script)] } later
      rw [next]
      exact ⟨other,List.mem_cons_of_mem _ inside,refused⟩
    · rw [addTarget_unnamed spec script named]
      exact ⟨script,List.mem_cons_self,rfl⟩

/-! ### Loading -/

section Load
variable (path : String) (options : RunOptions)

/-- A text is loaded if it is a specification, the scripts have names and some function is asked for. -/
theorem loadSpec_loads (text : String) (file : Specification) (read : Specification.ofText text = .ok file)
    (named : ∀ script ∈ options.scripts, Named script)
    (function : options.function?.getD file.function ≠ "") : ∃ added : Targets,
    loadSpec path (.ok text) options =
        .ok ⟨options.function?.getD file.function, file.cases, file.targets ++ added⟩ ∧
      added.map (·.2) = options.scripts ∧ (keys (file.targets ++ added)).Nodup := by
  obtain ⟨added,extended,paths,distinct⟩ := addTargets_named
    { file with function := options.function?.getD file.function } options.scripts named
  refine ⟨added,?_,paths,distinct (file.ofText_distinct text read)⟩
  unfold loadSpec
  simp only [read,extended,if_neg function]

private theorem loadSpec_conditions (content : Except Machine.Failure String) (spec : Specification)
    (loaded : loadSpec path content options = .ok spec) : ∃ text file, content = .ok text ∧
      Specification.ofText text = .ok file ∧ (∀ script ∈ options.scripts, Named script) ∧
        options.function?.getD file.function ≠ "" := by
  unfold loadSpec at loaded
  cases content with
  | error failure => cases loaded
  | ok text =>
    cases read : Specification.ofText text with
    | error error => simp [read] at loaded
    | ok file =>
      have named : ∀ script ∈ options.scripts, Named script := by
        by_contra unnamed
        obtain ⟨script,_,refused⟩ := addTargets_unnamed
          { file with function := options.function?.getD file.function } options.scripts
          (by simpa using unnamed)
        simp [read,refused] at loaded
      obtain ⟨added,extended,_⟩ := addTargets_named
        { file with function := options.function?.getD file.function } options.scripts named
      refine ⟨text,file,rfl,read,named,fun none => ?_⟩
      simp only [read,extended,if_pos none] at loaded
      cases loaded

private theorem LoadError.message_nonempty (error : LoadError) : error.message ≠ "" := by
  cases error <;> unfold message <;> simp [toString]

private theorem runSpec_unloaded (machine : Machine) (verbose : Bool) (runner : RunnerOptions)
    (error : LoadError)
    (refused : loadSpec path (machine.readText path) options = .error error) :
    runSpec machine verbose path options runner = ⟨"", error.message ++ "\n", 2, machine⟩ := by
  unfold runSpec
  simp only [refused,Exit.ofComplaint,LoadError.complaint,usageCode,error.message_nonempty,↓reduceIte]

end Load

/-- A specification is loaded exactly if its text is one, every script has the name of a file, and a
function is asked for, by the options or else in the text. Then the cases are those of the text, and so are
the targets, behind which each script stands with its path, in order, all under different names. Otherwise
the command ends with the exit code for unusable input, and nothing is done. -/
theorem loading_only_adds (path : String) (content : Except Machine.Failure String) (options : RunOptions) :
    ((∃ spec, loadSpec path content options = .ok spec) ↔
      ∃ text file, content = .ok text ∧ Specification.ofText text = .ok file ∧
        (∀ script ∈ options.scripts, Named script) ∧ options.function?.getD file.function ≠ "") ∧
    (∀ spec, loadSpec path content options = .ok spec → ∃ text file added,
      content = .ok text ∧ Specification.ofText text = .ok file ∧
      spec = ⟨options.function?.getD file.function, file.cases, file.targets ++ added⟩ ∧
      added.map (·.2) = options.scripts ∧ (keys spec.targets).Nodup) ∧
    ∀ error, loadSpec path content options = .error error → error.complaint.code = 2 ∧
      ∀ machine verbose runner, machine.readText path = content →
        runSpec machine verbose path options runner = ⟨"", error.message ++ "\n", 2, machine⟩ := by
  refine ⟨⟨?_,?_⟩,?_,?_⟩
  · rintro ⟨spec,loaded⟩
    exact loadSpec_conditions path options content spec loaded
  · rintro ⟨text,file,rfl,read,named,function⟩
    obtain ⟨added,loaded,_⟩ := loadSpec_loads path options text file read named function
    exact ⟨_,loaded⟩
  · intro spec loaded
    obtain ⟨text,file,rfl,read,named,function⟩ := loadSpec_conditions path options content spec loaded
    obtain ⟨added,same,paths,distinct⟩ := loadSpec_loads path options text file read named function
    rw [loaded] at same
    cases same
    exact ⟨text,file,added,rfl,read,rfl,paths,distinct⟩
  · rintro error refused
    refine ⟨rfl,?_⟩
    rintro machine verbose runner rfl
    exact runSpec_unloaded path options machine verbose runner error refused

/-- Two scripts of one name behind a target of the same name; a directory above is no script. -/
theorem scripts_added_behind :
    let file : Specification := ⟨"", [([], ⟨"0", .int⟩)], [("a.py", "/x")]⟩
    let options (scripts : List String) : RunOptions := ⟨scripts, some "g", false, false, false, false⟩
    (∃ spec added, loadSpec "spec.json" (.ok file.toText) (options ["/p/a.py", "/q/a.py"]) = .ok spec ∧
      spec = ⟨"g", [([], ⟨"0", .int⟩)], ("a.py", "/x") :: added⟩ ∧
      added.map (·.2) = ["/p/a.py", "/q/a.py"] ∧ (keys spec.targets).Nodup) ∧
    ∃ error, loadSpec "spec.json" (.ok file.toText) (options ["/p/.."]) = .error error ∧
      error.complaint.code = 2 := by
  intro file options
  have read : Specification.ofText file.toText = .ok file := by
    rw [Specification.toText,Specification.document_written]
    exact Specification.ofText_document _ _ file.cases _ (.cons ⟨Params.ofKey_toKey [],rfl⟩ .nil)
      (by decide) (by decide)
  constructor
  · obtain ⟨loads,adds,-⟩ := loading_only_adds "spec.json" (.ok file.toText) (options ["/p/a.py", "/q/a.py"])
    have named : ∀ script ∈ ["/p/a.py", "/q/a.py"], Named script := by
      intro script inside
      simp only [List.mem_cons,List.not_mem_nil,or_false] at inside
      rcases inside with rfl | rfl <;> exact ⟨"a.py".toList,by decide +kernel⟩
    obtain ⟨spec,loaded⟩ := loads.mpr ⟨_,file,rfl,read,named,by decide⟩
    obtain ⟨text,other,added,same,found,shape,paths,distinct⟩ := adds spec loaded
    rw [← Except.ok.inj same,read] at found
    cases found
    exact ⟨spec,added,loaded,shape,paths,distinct⟩
  · obtain ⟨loads,-,refusals⟩ := loading_only_adds "spec.json" (.ok file.toText) (options ["/p/.."])
    cases result : loadSpec "spec.json" (.ok file.toText) (options ["/p/.."]) with
    | error error => exact ⟨error,rfl,(refusals error result).1⟩
    | ok spec =>
      obtain ⟨_,_,_,_,named,_⟩ := loads.mp ⟨spec,result⟩
      obtain ⟨name,found⟩ := named "/p/.." (by simp [options])
      have nameless : Path.fileName? "/p/.." = none := by decide +kernel
      rw [nameless] at found
      cases found

end Cli
end Proctor
