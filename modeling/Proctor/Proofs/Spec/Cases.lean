import Proctor.Proofs.Json.Soundness
import Proctor.Proofs.Spec.Artifact
import Mathlib

/-! The cases of a specification are a map from parameters to outputs, unless a text was loaded in which
two different keys spell one list of parameters. -/
namespace Proctor.Specification
open Json Json.Grammar State

/-! ### The keys in a text -/

structure KeysDraft where
  function? : Option String
  keys? : Option (List String)
  targets? : Option Targets

def keyFields : List (Json.Field KeysDraft) :=
  [⟨"testfunc", false, (·.function?.isSome), fun _ draft => do
      return { draft with function? := some (← decodeString "a string") }⟩,
    ⟨"tests", true, (·.keys?.isSome), fun room draft => do
      return { draft with keys? := some (OrderedMap.keys (← decodeMap room)) }⟩,
    ⟨"scriptPaths", true, (·.targets?.isSome), fun room draft => do
      return { draft with targets? := some (← Targets.decode room) }⟩]

def keysOf (text : String) : Except Fault (List String) :=
  Json.decode (fun room => do
    let draft ← decodeStructure "struct TestSpecification" keyFields ⟨none, none, none⟩ room
    return draft.keys?.getD []) text

/-- No two keys in the text spell the same list of parameters. -/
def SpelledOnce (text : String) : Prop :=
  ∀ keys, keysOf text = .ok keys → ∀ key ∈ keys, ∀ other ∈ keys,
    Params.ofKey key = Params.ofKey other → key = other

/-- Different keys that are read as the parameters of the cases, one after another. -/
structure Spell (keys : List String) (cases : List (Params × TypedValue)) : Prop where
  distinct : keys.Nodup
  read : keys.map Params.ofKey = (OrderedMap.keys cases).map .ok

private theorem casesOfMembers_ok (members : List (String × Json)) (cases : List (Params × TypedValue))
    (denoted : casesOfMembers members = .ok cases) :
    (OrderedMap.keys members).map Params.ofKey = (OrderedMap.keys cases).map .ok := by
  unfold casesOfMembers at denoted
  induction members generalizing cases with
  | nil =>
    cases denoted
    rfl
  | cons member members ih =>
    obtain ⟨key,value⟩ := member
    rw [List.mapM_cons] at denoted
    cases spelled : Params.ofKey key with
    | error error => simp [spelled,bind,Except.bind] at denoted
    | ok params =>
      cases typed : TypedValue.ofJson value with
      | error fault => simp [spelled,typed,bind,Except.bind] at denoted
      | ok expected =>
        simp only [spelled,typed,bind,Except.bind] at denoted
        split at denoted
        · cases denoted
        · next found others =>
          cases denoted
          simp only [OrderedMap.keys,List.map_cons,spelled] at ih ⊢
          rw [ih found others]

private theorem decodeCases_ok (room : Nat) (text : List Char) (cases : List (Params × TypedValue))
    (rest : List Char) (read : decodeCases room text = .ok (cases, rest)) :
    ∃ members, decodeMap room text = .ok (members, rest) ∧ Spell (OrderedMap.keys members) cases := by
  unfold decodeCases at read
  rw [bind_ok] at read
  obtain ⟨members,after,found,read⟩ := read
  cases denoted : casesOfMembers members with
  | error fault =>
    rw [denoted] at read
    cases read
  | ok denotedCases =>
    rw [denoted] at read
    cases read
    exact ⟨members,found,decodeMap_distinct _ _ _ _ found,casesOfMembers_ok members cases denoted⟩

structure Alike (draft : Draft) (keys : KeysDraft) : Prop where
  function : keys.function? = draft.function?
  targets : keys.targets? = draft.targets?
  cases : Option.Rel Spell keys.keys? draft.cases?

theorem fields_mirrored : List.Forall₂ (Mirrors Alike) fields keyFields := by
  refine .cons ⟨rfl,rfl,?_,?_⟩ (.cons ⟨rfl,rfl,?_,?_⟩ (.cons ⟨rfl,rfl,?_,?_⟩ .nil))
  · intro draft keys alike
    dsimp only
    rw [alike.function]
  · intro room draft keys text _ rest alike taken
    obtain ⟨function,read,rfl⟩ := (map_ok _ _ _ _ _).mp taken
    exact ⟨_,(map_ok _ _ _ _ _).mpr ⟨function,read,rfl⟩,rfl,alike.targets,alike.cases⟩
  · intro draft keys alike
    obtain ⟨_,_,same⟩ := alike
    dsimp only
    generalize keys.keys? = keys?,draft.cases? = cases? at same
    cases same <;> rfl
  · intro room draft keys text _ rest alike taken
    obtain ⟨cases,read,rfl⟩ := (map_ok _ _ _ _ _).mp taken
    obtain ⟨members,found,spell⟩ := decodeCases_ok room text cases rest read
    exact ⟨_,(map_ok _ _ _ _ _).mpr ⟨members,found,rfl⟩,alike.function,alike.targets,.some spell⟩
  · intro draft keys alike
    dsimp only
    rw [alike.targets]
  · intro room draft keys text _ rest alike taken
    obtain ⟨targets,read,rfl⟩ := (map_ok _ _ _ _ _).mp taken
    exact ⟨_,(map_ok _ _ _ _ _).mpr ⟨targets,read,rfl⟩,alike.function,rfl,alike.cases⟩

private theorem ofText_keys (text : String) (spec : Specification) (read : ofText text = .ok spec) :
    ∃ keys, keysOf text = .ok keys ∧ Spell keys spec.cases := by
  unfold ofText at read
  split at read
  · next decoded =>
    cases read
    obtain ⟨rest,taken,blank⟩ := readAll_ok _ text spec decoded
    obtain ⟨draft,filled,rfl⟩ := (map_ok _ _ _ _ _).mp taken
    obtain ⟨keys,found,alike⟩ := decodeStructure_mirrored Alike fields keyFields fields_mirrored _ _
      ⟨none, none, none⟩ ⟨rfl,rfl,.none⟩ maxOpen _ draft rest filled
    refine ⟨keys.keys?.getD [],readAll_complete _ text _ rest
      ((map_ok _ _ _ _ _).mpr ⟨keys,found,rfl⟩) blank,?_⟩
    obtain ⟨_,_,same⟩ := alike
    generalize keys.keys? = keys?,draft.cases? = cases? at same
    cases same with
    | none => exact ⟨List.nodup_nil,rfl⟩
    | some spell => exact spell
  · cases read

/-- A text gives cases with different parameters exactly if no two of its keys spell the same ones. -/
theorem loaded_distinct (text : String) (spec : Specification) (read : ofText text = .ok spec) :
    (OrderedMap.keys spec.cases).Nodup ↔ SpelledOnce text := by
  obtain ⟨keys,found,spell⟩ := ofText_keys text spec read
  have once : SpelledOnce text ↔ (keys.map Params.ofKey).Nodup := by
    rw [List.nodup_map_iff_inj_on spell.distinct]
    simp only [SpelledOnce,found,Except.ok.injEq,forall_eq']
  rw [once,spell.read,List.nodup_map_iff (fun _ _ => Except.ok.inj)]

def twoSpellings : Json :=
  document "f" [("[[\"1\",\"int\"]]", ⟨"1", .int⟩), ("[[\"1\",\"integer\"]]", ⟨"2", .int⟩)] []

/-- Both spellings are kept as cases, so that the second is left when the parameters are removed. -/
theorem spellings_repeat_case : ∃ spec,
    ofText twoSpellings.toPrettyText = .ok spec ∧ ¬ (OrderedMap.keys spec.cases).Nodup ∧
      (spec.removeCase [⟨"1", .int⟩]).expectedFor? [⟨"1", .int⟩] = some ⟨"2", .int⟩ := by
  have first := Params.ofKey_named "[[\"1\",\"int\"]]" "1" "int" .int rfl (by simp [quote,escaped])
  have second := Params.ofKey_named "[[\"1\",\"integer\"]]" "1" "integer" .int rfl
    (by simp [quote,escaped])
  refine ⟨⟨"f", [([⟨"1", .int⟩], ⟨"1", .int⟩), ([⟨"1", .int⟩], ⟨"2", .int⟩)], []⟩,
    ofText_document _ _ _ _ (.cons ⟨first,rfl⟩ (.cons ⟨second,rfl⟩ .nil)) ?_ List.nodup_nil,?_,?_⟩
  · simp [OrderedMap.keys]
  · simp [OrderedMap.keys]
  · simp [removeCase,expectedFor?,OrderedMap.erase,OrderedMap.get?]

/-! ### Reachable specifications -/

/-- The specifications that arise from new ones and from loaded texts by adding and removing cases. -/
inductive Reachable : Specification → Prop
  | new (function : String) : Reachable (new function)
  | load (text : String) (spec : Specification) (read : ofText text = .ok spec)
      (once : SpelledOnce text) : Reachable spec
  | addCase (spec : Specification) (params : Params) (expected : TypedValue) (before : Reachable spec) :
      Reachable (spec.addCase params expected)
  | removeCase (spec : Specification) (params : Params) (before : Reachable spec) :
      Reachable (spec.removeCase params)

private theorem reachable_distinct (spec : Specification) (reachable : Reachable spec) :
    (OrderedMap.keys spec.cases).Nodup := by
  induction reachable with
  | new function => exact List.nodup_nil
  | load text spec read once => exact (loaded_distinct text spec read).mpr once
  | addCase spec params expected _ ih => exact OrderedMap.nodup_put params expected _ ih
  | removeCase spec params _ ih => exact OrderedMap.nodup_erase params _ ih

/-- The cases of a reachable specification are a map: no parameters occur twice, removed parameters have
no output any more, added ones occur once with their output, and the names that are written differ. -/
theorem cases_form_map (spec : Specification) (reachable : Reachable spec) :
    (OrderedMap.keys spec.cases).Nodup ∧
      (∀ params, (spec.removeCase params).expectedFor? params = none) ∧
      (∀ params expected,
        (spec.addCase params expected).cases.filter (·.1 = params) = [(params, expected)]) ∧
      ∃ members, spec.toJson.field? "tests" = some (.object members) ∧
        (OrderedMap.keys members).Nodup := by
  have distinct := reachable_distinct spec reachable
  exact ⟨distinct,fun params => OrderedMap.get?_erase params _ distinct,
    fun params expected => OrderedMap.filter_put params expected _ distinct,_,rfl,
    Params.toKey_distinct TypedValue.toJson _ distinct⟩

theorem loaded_forms_map : ∃ spec, Reachable spec ∧
    spec.cases = [([⟨"1", .int⟩], ⟨"2", .int⟩), ([], ⟨"0", .int⟩)] ∧
    (OrderedMap.keys spec.cases).Nodup ∧
    ∀ params, (spec.removeCase params).expectedFor? params = none := by
  let loaded : Specification := ⟨"f", [([⟨"1", .int⟩], ⟨"2", .int⟩)], []⟩
  have key := Params.ofKey_named "[[\"1\",\"integer\"]]" "1" "integer" .int rfl
    (by simp [quote,escaped])
  have read : ofText (document "f" [("[[\"1\",\"integer\"]]", ⟨"2", .int⟩)] []).toPrettyText =
      .ok loaded :=
    ofText_document _ _ _ _ (.cons ⟨key,rfl⟩ .nil) (by simp [OrderedMap.keys]) List.nodup_nil
  have once := (loaded_distinct _ loaded read).mp (by simp [loaded,OrderedMap.keys])
  have reachable := (Reachable.load _ loaded read once).addCase _ [] ⟨"0", .int⟩
  have map := cases_form_map _ reachable
  exact ⟨_,reachable,by simp [loaded,addCase,OrderedMap.put],map.1,map.2.1⟩

end Proctor.Specification
