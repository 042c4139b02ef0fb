import Proctor.Proofs.OrderedMap
import Proctor.Proofs.State
import Proctor.Spec.Codec

/-! The targets that come of any operations: their names are different, a new one is the first that is free,
and each has the path that was last stored under it. -/
namespace Proctor.Targets
open Json
open OrderedMap (keys)

/-! ### Fresh names -/

private theorem candidate_next (base : String) (n : Nat) :
    (candidate base (n + 1)).toList =
      base.toList ++ ([' ', '('] ++ ((n + 2).repr.toList ++ [')'])) := by
  simp [candidate,toString]

private theorem candidate_injective (base : String) (n m : Nat) (same : candidate base n = candidate base m) :
    n = m := by
  have letters := congrArg String.toList same
  cases n with
  | zero =>
    cases m with
    | zero => rfl
    | succ m =>
      rw [candidate_next] at letters
      simp [candidate] at letters
  | succ n =>
    cases m with
    | zero =>
      rw [candidate_next] at letters
      simp [candidate] at letters
    | succ m =>
      simp only [candidate_next,List.append_cancel_left_eq,List.append_cancel_right_eq] at letters
      have numbers := Nat.repr_inj.mp (String.toList_injective letters)
      omega

/-- One of the first candidates is free, since there are more of them than names. -/
theorem candidate_free (targets : Targets) (base : String) :
    ∃ n, n ≤ targets.length ∧ candidate base n ∉ keys targets := by
  by_contra noneFree
  have taken (n : Nat) (small : n ≤ targets.length) : candidate base n ∈ keys targets :=
    by_contra fun free => noneFree ⟨n,small,free⟩
  have distinct : ((List.range (targets.length + 1)).map (candidate base)).Nodup :=
    List.nodup_range.map (candidate_injective base)
  have inside : (List.range (targets.length + 1)).map (candidate base) ⊆ keys targets := by
    intro name member
    obtain ⟨n,small,rfl⟩ := List.mem_map.mp member
    exact taken n (Nat.lt_succ_iff.mp (List.mem_range.mp small))
  have few := (distinct.subperm inside).length_le
  simp [keys] at few

private theorem freshFrom_first (targets : Targets) (base : String) (tries n : Nat)
    (free : ∃ later, n ≤ later ∧ later ≤ n + tries ∧ candidate base later ∉ keys targets) :
    ∃ first, n ≤ first ∧ first ≤ n + tries ∧ freshFrom targets base tries n = candidate base first ∧
      candidate base first ∉ keys targets ∧
      ∀ earlier, n ≤ earlier → earlier < first → candidate base earlier ∈ keys targets := by
  -- A free candidate lies within the tries that are left, so it is never their number that ends the search.
  induction tries generalizing n with
  | zero =>
    obtain ⟨later,least,most,isFree⟩ := free
    obtain rfl : later = n := by omega
    exact ⟨later,least,most,rfl,isFree,fun _ _ _ => by omega⟩
  | succ tries ih =>
    obtain ⟨later,least,most,isFree⟩ := free
    by_cases taken : candidate base n ∈ keys targets
    · have apart : later ≠ n := by
        rintro rfl
        exact isFree taken
      obtain ⟨first,after,bound,found,firstFree,before⟩ := ih (n + 1) ⟨later,by omega,by omega,isFree⟩
      refine ⟨first,by omega,by omega,?_,firstFree,fun earlier from_n less => ?_⟩
      · rw [freshFrom,if_pos ((OrderedMap.contains_iff _ _).mpr taken),found]
      · rcases Nat.eq_or_lt_of_le from_n with rfl | more
        · exact taken
        · exact before earlier more less
    · refine ⟨n,Nat.le_refl n,Nat.le_add_right _ _,?_,taken,fun _ _ _ => by omega⟩
      rw [freshFrom,if_neg (fun found => taken ((OrderedMap.contains_iff _ _).mp found))]

def suggested (file : List Char) : String :=
  String.ofList (if file.length ≤ 64 then file else file.take 64 ++ "...".toList)

/-- The name is the first of the candidates that is not there; so many are tried before it. -/
structure Fresh (targets : Targets) (base name : String) (tries : Nat) : Prop where
  few : tries ≤ targets.length
  chosen : name = candidate base tries
  free : name ∉ keys targets
  taken : ∀ earlier, earlier < tries → candidate base earlier ∈ keys targets

theorem freshName_fresh (targets : Targets) (base : String) :
    ∃ tries, Fresh targets base (targets.freshName base) tries := by
  obtain ⟨n,few,free⟩ := candidate_free targets base
  obtain ⟨first,_,bound,found,firstFree,before⟩ := freshFrom_first targets base targets.length 0
    ⟨n,Nat.zero_le n,by omega,free⟩
  have same : targets.freshName base = candidate base first := found
  exact ⟨first,by omega,same,same ▸ firstFree,fun earlier => before earlier (Nat.zero_le _)⟩

theorem add_unnamed (targets : Targets) (path : String) (unnamed : Path.fileName? path = none) :
    targets.add path = .error (.noFileName path) := by
  rw [add,baseName,unnamed]
  rfl

theorem add_named (targets : Targets) (path : String) (file : List Char)
    (named : Path.fileName? path = some file) :
    let name := targets.freshName (suggested file)
    targets.add path = .ok (name, targets ++ [(name, path)]) := by
  rw [add,baseName,named]
  by_cases long : maxNameLength < file.length
  · have notShort : ¬ file.length ≤ 64 := Nat.not_le.mpr long
    simp only [if_pos long,suggested,if_neg notShort]
    rfl
  · have short : file.length ≤ 64 := Nat.not_lt.mp long
    simp only [if_neg long,suggested,if_pos short]
    rfl

/-! ### Operations -/

inductive Operation
  | add (path : String)
  | insert (name path : String)
  | remove (name : String)
  /-- Reads targets from a JSON text, in place of those that there were. -/
  | decode (room : Nat) (text : List Char)

def apply (targets : Targets) : Operation → Targets
  | .add path =>
    match targets.add path with
    | .ok (_, others) => others
    | .error _ => targets
  | .insert name path => targets.insert name path
  | .remove name => targets.remove name
  | .decode room text =>
    match decode room text with
    | .ok (others, _) => others
    | .error _ => targets

inductive Change
  | stored (name path : String)
  | removed (name : String)
  | cleared

def stores (members : List (String × Json)) : List Change :=
  members.filterMap fun
    | (name, .string path) => some (.stored name path)
    | _ => none

/-- The changes that an operation makes. A JSON text stores its members one after another, in a map that is
empty before. -/
def changes (targets : Targets) : Operation → List Change
  | .add path =>
    match targets.add path with
    | .ok (name, _) => [.stored name path]
    | .error _ => []
  | .insert name path => [.stored name path]
  | .remove name => [.removed name]
  | .decode room text =>
    match decode room text, decodeMap room text with
    | .ok _, .ok (members, _) => .cleared :: stores members
    | _, _ => []

def next (state : Targets × List Change) (operation : Operation) : Targets × List Change :=
  (state.1.apply operation, state.2 ++ state.1.changes operation)

def run (operations : List Operation) : Targets × List Change := operations.foldl next ([], [])

def Change.after (name : String) (path? : Option String) : Change → Option String
  | .stored other path => if other = name then some path else path?
  | .removed other => if other = name then none else path?
  | .cleared => none

def lastStored? (name : String) (changes : List Change) : Option String :=
  changes.foldl (Change.after name) none

private theorem lastStored?_append (name : String) (front back : List Change) :
    lastStored? name (front ++ back) = back.foldl (Change.after name) (lastStored? name front) :=
  List.foldl_append

private theorem get?_remove (targets : Targets) (name other : String) (distinct : (keys targets).Nodup) :
    (targets.remove name).get? other = if name = other then none else targets.get? other := by
  split
  · next same =>
    subst same
    exact OrderedMap.get?_erase name targets distinct
  · next apart => exact OrderedMap.get?_erase_other name other targets (Ne.symm apart)

/-- The names are different, and each has the path that was last stored under it. -/
structure Traces (targets : Targets) (changes : List Change) : Prop where
  distinct : (keys targets).Nodup
  found : ∀ name, targets.get? name = lastStored? name changes

section Steps
variable {targets : Targets} {earlier : List Change}

theorem Traces.insert (traces : Traces targets earlier) (name path : String) :
    Traces (targets.insert name path) (earlier ++ [Change.stored name path]) where
  distinct := OrderedMap.nodup_put name path targets traces.distinct
  found other := by
    rw [lastStored?_append,← traces.found]
    exact OrderedMap.get?_put name other path targets

theorem Traces.remove (traces : Traces targets earlier) (name : String) :
    Traces (targets.remove name) (earlier ++ [Change.removed name]) where
  distinct := OrderedMap.nodup_erase name targets traces.distinct
  found other := by
    rw [lastStored?_append,← traces.found]
    exact get?_remove targets name other traces.distinct

private theorem insert_fresh (base name path : String) (tries : Nat) (fresh : Fresh targets base name tries) :
    targets.insert name path = targets ++ [(name, path)] :=
  OrderedMap.put_absent name path targets fresh.free

theorem Traces.add (traces : Traces targets earlier) (path : String) :
    Traces (targets.apply (.add path)) (earlier ++ targets.changes (.add path)) := by
  cases named : Path.fileName? path with
  | none => simpa [apply,changes,add_unnamed targets path named] using traces
  | some file =>
    obtain ⟨tries,fresh⟩ := freshName_fresh targets (suggested file)
    simp only [apply,changes,add_named targets path file named]
    rw [← insert_fresh _ _ path tries fresh]
    exact traces.insert _ path

end Steps

private theorem traces_cleared (earlier : List Change) : Traces [] (earlier ++ [Change.cleared]) where
  distinct := List.nodup_nil
  found name := by
    rw [lastStored?_append]
    rfl

private theorem traces_members (members : List (String × Json)) (start targets : Targets)
    (earlier : List Change) (traces : Traces start earlier)
    (denoted : members.foldlM (fun targets (name, value) =>
      match value with
      | .string path => Except.ok (targets.insert name path)
      | _ => .error (.refused s!"path of target '{name}' must be a string")) start =
        (.ok targets : Except Fault Targets)) :
    Traces targets (earlier ++ stores members) := by
  induction members generalizing start earlier with
  | nil =>
    cases denoted
    simpa [stores] using traces
  | cons member members ih =>
    obtain ⟨name,value⟩ := member
    rw [List.foldlM_cons] at denoted
    cases value with
    | string path =>
      have rest := ih (start.insert name path) (earlier ++ [Change.stored name path])
        (traces.insert name path) denoted
      simpa [stores] using rest
    | _ => cases denoted

private theorem decode_members (room : Nat) (text rest : List Char) (targets : Targets)
    (read : decode room text = .ok (targets, rest)) :
    ∃ members, decodeMap room text = .ok (members, rest) ∧ ofMembers members = .ok targets := by
  unfold decode at read
  obtain ⟨members,after,found,denoted⟩ := (State.bind_ok _ _ _ _).mp read
  cases denotes : ofMembers members with
  | error fault =>
    rw [denotes] at denoted
    cases denoted
  | ok others =>
    rw [denotes] at denoted
    cases denoted
    exact ⟨members,found,denotes⟩

theorem Traces.decode {targets : Targets} {earlier : List Change} (traces : Traces targets earlier)
    (room : Nat) (text : List Char) :
    Traces (targets.apply (.decode room text)) (earlier ++ targets.changes (.decode room text)) := by
  cases read : Targets.decode room text with
  | error fault => simpa [apply,changes,read] using traces
  | ok result =>
    obtain ⟨decoded,rest⟩ := result
    obtain ⟨members,found,denotes⟩ := decode_members room text rest decoded read
    have state : targets.apply (.decode room text) = decoded := by simp only [apply,read]
    have made : targets.changes (.decode room text) = .cleared :: stores members := by
      simp only [changes,read,found]
    have stored := traces_members members [] decoded _ (traces_cleared earlier) denotes
    rw [state,made]
    simpa using stored

/-- What one operation preserves. -/
theorem Traces.apply {targets : Targets} {earlier : List Change} (traces : Traces targets earlier)
    (operation : Operation) :
    Traces (targets.apply operation) (earlier ++ targets.changes operation) := by
  cases operation with
  | add path => exact traces.add path
  | insert name path => exact traces.insert name path
  | remove name => exact traces.remove name
  | decode room text => exact traces.decode room text

/-- What all operations preserve. -/
theorem run_traces (operations : List Operation) : Traces (run operations).1 (run operations).2 := by
  induction operations using List.reverseRecOn with
  | nil => exact ⟨List.nodup_nil,fun _ => rfl⟩
  | append_singleton operations operation ih =>
    rw [run,List.foldl_append]
    exact ih.apply operation

/-- Whatever operations are done from no targets on, the names are different and each has the path that was
last stored under it. A path is added unless it has no file name: at the end, under the first name that is
free, which is found after no more names than there are and one. A name that is there keeps its place when it
is stored again, and to remove it leaves the others as they are. -/
theorem operations_keep_names (operations : List Operation) :
    let targets := (run operations).1
    (keys targets).Nodup ∧
    (∀ name, targets.get? name = lastStored? name (run operations).2) ∧
    (∀ path, Path.fileName? path = none →
      targets.add path = .error (.noFileName path) ∧ targets.apply (.add path) = targets) ∧
    (∀ path file, Path.fileName? path = some file → ∃ name tries,
      Fresh targets (suggested file) name tries ∧
      targets.add path = .ok (name, targets ++ [(name, path)])) ∧
    (∀ before name old after, targets = before ++ (name, old) :: after →
      (∀ path, targets.insert name path = before ++ (name, path) :: after) ∧
      targets.remove name = before ++ after) ∧
    ∀ name, name ∉ keys targets →
      (∀ path, targets.insert name path = targets ++ [(name, path)]) ∧ targets.remove name = targets := by
  intro targets
  have traces := run_traces operations
  refine ⟨traces.distinct,traces.found,?_,?_,?_,?_⟩
  · intro path unnamed
    have refused := add_unnamed targets path unnamed
    exact ⟨refused,by simp [apply,refused]⟩
  · intro path file named
    obtain ⟨tries,fresh⟩ := freshName_fresh targets (suggested file)
    exact ⟨_,tries,fresh,add_named targets path file named⟩
  · intro before name old after split
    have distinct : (keys targets).Nodup := traces.distinct
    have absent : name ∉ keys before := by
      rw [split,OrderedMap.keys,List.map_append,List.nodup_append] at distinct
      exact fun present => distinct.2.2 name present name (by simp) rfl
    rw [split]
    exact ⟨fun path => OrderedMap.put_split name old path before after absent,
      OrderedMap.erase_split name old before after absent⟩
  · intro name absent
    exact ⟨fun path => OrderedMap.put_absent name path targets absent,
      OrderedMap.erase_absent name targets absent⟩

/-- A name that was given stands in the way of one that is found, and a name that was removed is free. -/
theorem given_name_avoided :
    let operations : List Operation := [.insert "a.py (2)" "/x", .add "/p/a.py", .add "/q/a.py",
      .remove "a.py", .add "/r/a.py"]
    let targets := (run operations).1
    targets = [("a.py (2)", "/x"), ("a.py (3)", "/q/a.py"), ("a.py", "/r/a.py")] ∧
      (∃ tries, Fresh targets (suggested "a.py".toList) "a.py (4)" tries ∧
        targets.add "/s/a.py" = .ok ("a.py (4)", targets ++ [("a.py (4)", "/s/a.py")])) ∧
      targets.insert "a.py (3)" "/y" = [("a.py (2)", "/x"), ("a.py (3)", "/y"), ("a.py", "/r/a.py")] ∧
      targets.remove "b" = targets := by
  intro operations targets
  have state : targets = [("a.py (2)", "/x"), ("a.py (3)", "/q/a.py"), ("a.py", "/r/a.py")] := by
    decide +kernel
  obtain ⟨_,_,_,adds,stores,others⟩ := operations_keep_names operations
  obtain ⟨name,tries,fresh,added⟩ := adds "/s/a.py" "a.py".toList (by decide +kernel)
  have called : (targets.add "/s/a.py").toOption.map (·.1) = some "a.py (4)" := by decide +kernel
  rw [added] at called
  cases called
  obtain ⟨replaced,_⟩ := stores [("a.py (2)", "/x")] "a.py (3)" "/q/a.py" [("a.py", "/r/a.py")] state
  exact ⟨state,⟨tries,fresh,added⟩,replaced "/y",(others "b" (by decide +kernel)).2⟩

end Proctor.Targets
