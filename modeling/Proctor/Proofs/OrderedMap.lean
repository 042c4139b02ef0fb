import Proctor.OrderedMap
import Mathlib

/-! Maps that are made from pairs: their keys are distinct and in the order of their first pairs, each with
the value of its last pair, and pairs with distinct keys are a map already. Keys that are stored are there
once, and keys that are erased are gone. -/
namespace Proctor.OrderedMap

variable {κ ν : Type}

theorem keys_map {μ : Type} (f : ν → μ) (entries : List (κ × ν)) :
    keys (entries.map fun (key, value) => (key, f value)) = keys entries := by
  simp [keys,Function.comp_def]

variable [DecidableEq κ]

private theorem ofPairs_snoc (pairs : List (κ × ν)) (pair : κ × ν) :
    ofPairs (pairs ++ [pair]) = put pair.1 pair.2 (ofPairs pairs) := by
  simp only [ofPairs,List.foldl_append,List.foldl_cons,List.foldl_nil]

theorem nodup_put (key : κ) (value : ν) (entries : List (κ × ν)) (distinct : (keys entries).Nodup) :
    (keys (put key value entries)).Nodup := by
  rw [keys_put]
  split
  · exact distinct
  · next absent =>
    rw [List.nodup_append]
    refine ⟨distinct,List.nodup_singleton key,?_⟩
    intro other present k same
    rw [List.mem_singleton.mp same]
    rintro rfl
    exact absent present

theorem nodup_ofPairs (pairs : List (κ × ν)) : (keys (ofPairs pairs)).Nodup := by
  induction pairs using List.reverseRecOn with
  | nil => exact List.nodup_nil
  | append_singleton pairs pair ih =>
    rw [ofPairs_snoc]
    exact nodup_put _ _ _ ih

theorem mem_put (key : κ) (value : ν) (entries : List (κ × ν)) (entry : κ × ν)
    (member : entry ∈ put key value entries) : entry ∈ entries ∨ entry.2 = value := by
  induction entries with
  | nil =>
    simp only [put,List.mem_singleton] at member
    exact .inr (by rw [member])
  | cons first rest ih =>
    obtain ⟨k,v⟩ := first
    simp only [put] at member
    split at member
    · rcases List.mem_cons.mp member with same | inside
      · exact .inr (by rw [same])
      · exact .inl (List.mem_cons_of_mem _ inside)
    · rcases List.mem_cons.mp member with same | inside
      · exact .inl (by simp [same])
      · exact (ih inside).imp (List.mem_cons_of_mem _) id

theorem put_absent (key : κ) (value : ν) (entries : List (κ × ν)) (absent : key ∉ keys entries) :
    put key value entries = entries ++ [(key, value)] := by
  induction entries with
  | nil => rfl
  | cons first rest ih =>
    obtain ⟨k,v⟩ := first
    simp only [keys,List.map_cons,List.mem_cons,not_or] at absent
    simp only [put,Ne.symm absent.1,↓reduceIte,ih absent.2,List.cons_append]

theorem ofPairs_eq_self (pairs : List (κ × ν)) (distinct : (keys pairs).Nodup) :
    ofPairs pairs = pairs := by
  induction pairs using List.reverseRecOn with
  | nil => rfl
  | append_singleton pairs pair ih =>
    simp only [keys,List.map_append,List.map_cons,List.map_nil] at distinct
    have apart := List.nodup_append.mp distinct
    rw [ofPairs_snoc,ih apart.1,put_absent]
    intro present
    exact apart.2.2 _ present pair.1 (by simp) rfl

theorem keys_ofPairs (pairs : List (κ × ν)) : keys (ofPairs pairs) = (keys pairs).eraseDups := by
  induction pairs using List.reverseRecOn with
  | nil => rfl
  | append_singleton pairs pair ih =>
    have split : keys (pairs ++ [pair]) = keys pairs ++ [pair.1] := by simp [keys]
    rw [ofPairs_snoc,keys_put,ih,split,List.eraseDups_append]
    by_cases present : pair.1 ∈ keys pairs
    · simp [present,List.removeAll]
    · simp [present,List.removeAll,List.eraseDups_cons]

theorem ofPairs_map_self (f : ν → ν) (pairs : List (κ × ν)) (distinct : (keys pairs).Nodup)
    (fixed : ∀ pair ∈ pairs, f pair.2 = pair.2) :
    ofPairs (pairs.map fun (key, value) => (key, f value)) = pairs := by
  have same : pairs.map (fun (key, value) => (key, f value)) = pairs.map id :=
    List.map_congr_left fun pair inside => by simp [fixed pair inside]
  rw [same,List.map_id,ofPairs_eq_self _ distinct]

/-! ### Single keys -/

theorem get?_eq_none (key : κ) (entries : List (κ × ν)) :
    get? key entries = none ↔ key ∉ keys entries := by
  induction entries with
  | nil => simp [get?,keys]
  | cons entry rest ih =>
    obtain ⟨k,v⟩ := entry
    by_cases same : k = key
    · simp [get?,keys,same]
    · simpa [get?,keys,same,Ne.symm same] using ih

theorem get?_eq_some (key : κ) (value : ν) (entries : List (κ × ν)) (distinct : (keys entries).Nodup) :
    get? key entries = some value ↔ (key, value) ∈ entries := by
  induction entries with
  | nil => simp [get?]
  | cons entry rest ih =>
    obtain ⟨k,v⟩ := entry
    have apart := List.nodup_cons.mp distinct
    by_cases same : k = key
    · subst same
      have absent : (k, value) ∉ rest := fun inside =>
        apart.1 (List.mem_map.mpr ⟨_,inside,rfl⟩)
      simp [get?,absent,eq_comm]
    · simp [get?,same,Ne.symm same,ih apart.2]

/-- The pair is the last one under its key. -/
def Last (key : κ) (value : ν) (pairs : List (κ × ν)) : Prop :=
  ∃ before after, pairs = before ++ (key, value) :: after ∧ key ∉ keys after

theorem last_snoc (key other : κ) (value stored : ν) (pairs : List (κ × ν)) :
    Last key value (pairs ++ [(other, stored)]) ↔
      if other = key then stored = value else Last key value pairs := by
  constructor
  · rintro ⟨before,after,same,absent⟩
    rcases List.eq_nil_or_concat after with rfl | ⟨after,last,rfl⟩
    · obtain ⟨-,last⟩ := List.append_inj' same rfl
      cases last
      simp
    · rw [List.concat_eq_append,← List.cons_append,← List.append_assoc] at same
      obtain ⟨rfl,last⟩ := List.append_inj' same rfl
      cases last
      simp only [List.concat_eq_append,keys,List.map_append,List.mem_append,List.map_cons,List.map_nil,
        List.mem_singleton,not_or] at absent
      rw [if_neg (Ne.symm absent.2)]
      exact ⟨before,after,rfl,absent.1⟩
  · split
    · next same =>
      rintro rfl
      exact ⟨pairs,[],by rw [same],List.not_mem_nil⟩
    · next apart =>
      rintro ⟨before,after,rfl,absent⟩
      refine ⟨before,after ++ [(other, stored)],by simp,?_⟩
      simpa [keys,Ne.symm apart] using absent

theorem mem_ofPairs_iff (key : κ) (value : ν) (pairs : List (κ × ν)) :
    (key, value) ∈ ofPairs pairs ↔ Last key value pairs := by
  rw [← get?_eq_some key value _ (nodup_ofPairs pairs)]
  induction pairs using List.reverseRecOn with
  | nil => simp [ofPairs,get?,Last]
  | append_singleton pairs pair ih =>
    rw [ofPairs_snoc,get?_put,last_snoc,← ih]
    split <;> simp

theorem mem_ofPairs (pairs : List (κ × ν)) (entry : κ × ν) (member : entry ∈ ofPairs pairs) :
    entry ∈ pairs := by
  obtain ⟨before,after,rfl,_⟩ := (mem_ofPairs_iff entry.1 entry.2 pairs).mp member
  simp

theorem keys_erase (key : κ) (entries : List (κ × ν)) :
    keys (erase key entries) = (keys entries).erase key := by
  induction entries with
  | nil => rfl
  | cons entry rest ih =>
    obtain ⟨k,v⟩ := entry
    by_cases same : k = key
    · simp [erase,keys,same]
    · simpa [erase,keys,same] using ih

theorem nodup_erase (key : κ) (entries : List (κ × ν)) (distinct : (keys entries).Nodup) :
    (keys (erase key entries)).Nodup := by
  rw [keys_erase]
  exact distinct.erase key

theorem get?_erase (key : κ) (entries : List (κ × ν)) (distinct : (keys entries).Nodup) :
    get? key (erase key entries) = none := by
  rw [get?_eq_none,keys_erase]
  exact distinct.not_mem_erase

theorem get?_erase_other (key other : κ) (entries : List (κ × ν)) (apart : other ≠ key) :
    get? other (erase key entries) = get? other entries := by
  induction entries with
  | nil => rfl
  | cons entry rest ih =>
    obtain ⟨k,v⟩ := entry
    by_cases same : k = key
    · subst same
      simp [erase,get?,Ne.symm apart]
    · simp [erase,get?,same,ih]

theorem contains_iff (key : κ) (entries : List (κ × ν)) :
    contains key entries = true ↔ key ∈ keys entries := by
  rw [contains,← not_iff_not,← get?_eq_none]
  simp

/-! ### The place of a key -/

theorem put_split (key : κ) (old value : ν) (before after : List (κ × ν)) (absent : key ∉ keys before) :
    put key value (before ++ (key, old) :: after) = before ++ (key, value) :: after := by
  induction before with
  | nil => simp [put]
  | cons entry before ih =>
    obtain ⟨k,v⟩ := entry
    simp only [keys,List.map_cons,List.mem_cons,not_or] at absent
    simp [put,Ne.symm absent.1,ih absent.2]

theorem erase_split (key : κ) (value : ν) (before after : List (κ × ν)) (absent : key ∉ keys before) :
    erase key (before ++ (key, value) :: after) = before ++ after := by
  induction before with
  | nil => simp [erase]
  | cons entry before ih =>
    obtain ⟨k,v⟩ := entry
    simp only [keys,List.map_cons,List.mem_cons,not_or] at absent
    simp [erase,Ne.symm absent.1,ih absent.2]

theorem erase_absent (key : κ) (entries : List (κ × ν)) (absent : key ∉ keys entries) :
    erase key entries = entries := by
  induction entries with
  | nil => rfl
  | cons entry rest ih =>
    obtain ⟨k,v⟩ := entry
    simp only [keys,List.map_cons,List.mem_cons,not_or] at absent
    simp [erase,Ne.symm absent.1,ih absent.2]

theorem filter_put (key : κ) (value : ν) (entries : List (κ × ν)) (distinct : (keys entries).Nodup) :
    (put key value entries).filter (·.1 = key) = [(key, value)] := by
  induction entries with
  | nil => simp [put]
  | cons entry rest ih =>
    obtain ⟨k,v⟩ := entry
    have apart := List.nodup_cons.mp distinct
    by_cases same : k = key
    · subst same
      have others : rest.filter (·.1 = k) = [] := by
        rw [List.filter_eq_nil_iff]
        intro other inside found
        exact apart.1 (List.mem_map.mpr ⟨other,inside,by simpa using found⟩)
      simp [put,others]
    · simp [put,same,ih apart.2]

/-! ### The entries of other keys -/

theorem others_put (key : κ) (value : ν) (entries : List (κ × ν)) :
    (put key value entries).filter (·.1 ≠ key) = entries.filter (·.1 ≠ key) := by
  induction entries with
  | nil => simp [put]
  | cons entry rest ih =>
    obtain ⟨k,v⟩ := entry
    by_cases same : k = key
    · simp [put,same]
    · simpa [put,same] using ih

theorem others_erase (key : κ) (entries : List (κ × ν)) :
    (erase key entries).filter (·.1 ≠ key) = entries.filter (·.1 ≠ key) := by
  induction entries with
  | nil => rfl
  | cons entry rest ih =>
    obtain ⟨k,v⟩ := entry
    by_cases same : k = key
    · simp [erase,same]
    · simpa [erase,same] using ih

theorem erase_eq_filter (key : κ) (entries : List (κ × ν)) (distinct : (keys entries).Nodup) :
    erase key entries = entries.filter (·.1 ≠ key) := by
  rw [← others_erase]
  refine (List.filter_eq_self.mpr fun entry inside => ?_).symm
  have gone : key ∉ keys (erase key entries) :=
    (get?_eq_none _ _).mp (get?_erase key entries distinct)
  refine decide_eq_true fun same => gone (List.mem_map.mpr ⟨entry,inside,same⟩)

/-! ### Maps with related values -/

section Related
variable {μ : Type} (R : ν → μ → Prop)

abbrev Related (entries : List (κ × ν)) (others : List (κ × μ)) : Prop :=
  List.Forall₂ (fun entry other => entry.1 = other.1 ∧ R entry.2 other.2) entries others

private theorem related_put (key : κ) (value : ν) (other : μ) (related : R value other)
    (entries : List (κ × ν)) (others : List (κ × μ)) (all : Related R entries others) :
    Related R (put key value entries) (put key other others) := by
  induction all with
  | nil => exact .cons ⟨rfl,related⟩ .nil
  | @cons entry second entries others first rest ih =>
    obtain ⟨k,v⟩ := entry
    obtain ⟨k',w⟩ := second
    obtain ⟨rfl,same⟩ := first
    simp only [put]
    split
    · exact .cons ⟨rfl,related⟩ rest
    · exact .cons ⟨rfl,same⟩ ih

theorem related_ofPairs (pairs : List (κ × ν)) (others : List (κ × μ)) (all : Related R pairs others) :
    Related R (ofPairs pairs) (ofPairs others) := by
  have stored (entries : List (κ × ν)) (stored : List (κ × μ)) (start : Related R entries stored) :
      Related R (pairs.foldl (fun entries (key, value) => put key value entries) entries)
        (others.foldl (fun entries (key, value) => put key value entries) stored) := by
    induction all generalizing entries stored with
    | nil => exact start
    | @cons pair other pairs others first rest ih =>
      obtain ⟨key,value⟩ := pair
      obtain ⟨key',value'⟩ := other
      obtain ⟨rfl,same⟩ := first
      exact ih _ _ (related_put R key value value' same entries stored start)
  exact stored [] [] .nil

end Related

end Proctor.OrderedMap
