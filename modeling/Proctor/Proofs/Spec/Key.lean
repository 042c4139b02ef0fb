import Proctor.Proofs.Json.Accepting
import Proctor.Spec.Param
import Mathlib

/-! The keys of lists of parameters. All JSON spellings of a list are read as the list, and nothing else
is read; the key that is written is one of them, so that different lists have different keys. -/
namespace Proctor
open Json Json.Grammar State

/-! ### Typed values -/

private theorem ValueType.ofName?_name (type : ValueType) : ValueType.ofName? type.name = some type := by
  cases type <;> rfl

private theorem ValueType.ofName?_eq_some (name : String) (type : ValueType) :
    ofName? name = some type ↔ name = type.name ∨ name ∈ type.aliases := by
  constructor
  · intro found
    have same := List.find?_some found
    simp only [Bool.or_eq_true,beq_iff_eq,List.contains_iff_mem] at same
    exact same.imp Eq.symm id
  · rintro (rfl | other)
    · exact type.ofName?_name
    · have resolved : ∀ type : ValueType, ∀ other ∈ type.aliases, ofName? other = some type := by
        intro type
        cases type <;> decide
      exact resolved type name other

private theorem ValueType.takes_name (room : Nat) (body characters : List Char)
    (inside : Characters body characters) (type : ValueType)
    (named : ofName? (String.ofList characters) = some type) :
    Takes (ValueType.decode room) ('"' :: body ++ ['"']) type := by
  intro before rest blank delimited
  have read := takes_characters "a string" body characters inside before rest blank delimited
  unfold ValueType.decode
  rw [bind_of_ok _ _ _ _ _ read]
  simp only [ofName,named]
  rfl

theorem ValueType.decode_ok (room : Nat) (text : List Char) (type : ValueType) (rest : List Char)
    (taken : ValueType.decode room text = .ok (type, rest)) :
    Took (fun used type => ∃ name, Quoted used name ∧ ofName? name = some type) text type rest := by
  unfold ValueType.decode at taken
  rw [bind_ok] at taken
  obtain ⟨name,_,read,taken⟩ := taken
  obtain ⟨before,used,blank,rfl,quoted⟩ := decodeString_ok _ _ _ _ read
  cases named : ofName? name with
  | none =>
    simp only [ofName,named] at taken
    cases taken
  | some type =>
    simp only [ofName,named] at taken
    cases taken
    exact ⟨before,used,blank,rfl,name,quoted,named⟩

namespace TypedValue

/-- The spellings of a typed value: a pair of the value and a name of the type, with blanks anywhere. -/
inductive Spelled : List Char → TypedValue → Prop
  | pair (first body characters second third name letters fourth : List Char) (type : ValueType)
      (blankFirst : Blank first) (value : Characters body characters) (blankSecond : Blank second)
      (blankThird : Blank third) (typeName : Characters name letters) (blankFourth : Blank fourth)
      (named : ValueType.ofName? (String.ofList letters) = some type) :
      Spelled ('[' :: (first ++ ('"' :: body ++ ['"']) ++ (second ++ ',' :: (third ++
        ('"' :: name ++ ['"']) ++ (fourth ++ [']'])))))
        ⟨String.ofList characters, type⟩

private theorem spelled_headed : Headed Spelled StartsItem := by
  rintro _ _ ⟨⟩
  exact ⟨'[',_,rfl,rfl,by decide⟩

private theorem takes_spelled (room : Nat) (text : List Char) (value : TypedValue)
    (spelled : Spelled text value) : Takes (TypedValue.decode (room + 1)) text value := by
  obtain ⟨first,body,characters,second,third,name,letters,fourth,type,blankFirst,inside,blankSecond,
    blankThird,typeName,blankFourth,named⟩ := spelled
  have value := takes_characters "a string" body characters inside
  have typed := ValueType.takes_name room name letters typeName type named
  have pair := takes_pair (fun _ => decodeString "a string") ValueType.decode room first
    ('"' :: body ++ ['"']) second third ('"' :: name ++ ['"']) fourth _ type blankFirst blankSecond
    blankThird blankFourth ⟨'"',_,rfl,rfl,by decide⟩ ⟨'"',_,rfl,rfl,by decide⟩ value typed
  intro before rest blank delimited
  unfold TypedValue.decode
  rw [bind_of_ok _ _ _ _ _ (pair before rest blank delimited)]
  rfl

private theorem spelled_of_paired (text : List Char) (pair : String × ValueType)
    (paired : Paired Quoted (fun used type => ∃ name, Quoted used name ∧ ValueType.ofName? name = some type)
      text pair) : Spelled text ⟨pair.1, pair.2⟩ := by
  obtain ⟨first,_,second,third,_,fourth,_,type,blankFirst,blankSecond,blankThird,blankFourth,
    ⟨body,characters,rfl,inside,rfl⟩,_,⟨name,letters,rfl,typeName,rfl⟩,named⟩ := paired
  exact .pair first body characters second third name letters fourth type blankFirst inside blankSecond
    blankThird typeName blankFourth named

theorem decode_ok (room : Nat) (text : List Char) (value : TypedValue) (rest : List Char)
    (taken : TypedValue.decode room text = .ok (value, rest)) : Took Spelled text value rest := by
  unfold TypedValue.decode at taken
  rw [bind_ok] at taken
  obtain ⟨pair,_,read,taken⟩ := taken
  cases taken
  obtain ⟨before,used,blank,same,paired⟩ := decodePair_ok _ _ _ _ (fun _ => decodeString_ok "a string")
    ValueType.decode_ok room text pair _ read
  exact ⟨before,used,blank,same,spelled_of_paired used pair paired⟩

private theorem spelled_named (value name : String) (type : ValueType)
    (named : ValueType.ofName? name = some type) :
    Spelled ('[' :: (quote value ++ ',' :: (quote name ++ [']']))) ⟨value, type⟩ := by
  have pair := Spelled.pair [] _ _ [] [] _ _ [] type blank_nil (characters_escaped value.toList)
    blank_nil blank_nil (characters_escaped name.toList) blank_nil (by rwa [String.ofList_toList])
  rw [String.ofList_toList] at pair
  simpa [quote_eq] using pair

private theorem spelled_compact (value : TypedValue) : Spelled value.toJson.compact value := by
  have pair := spelled_named value.value value.type.name value.type value.type.ofName?_name
  simpa [toJson,compact,compactAll_eq,joined] using pair

theorem ofJson_toJson (value : TypedValue) : ofJson value.toJson = .ok value := by
  have named : ValueType.ofName value.type.name = .ok value.type := by
    rw [ValueType.ofName,value.type.ofName?_name]
  simp [ofJson,toJson,textOf,named,bind,Except.bind]

theorem toJson_plain (value : TypedValue) : value.toJson.Plain := by
  refine .array _ ?_
  simp only [List.mem_cons,List.not_mem_nil,or_false]
  rintro _ (rfl | rfl) <;> exact .string _

theorem toJson_depth (value : TypedValue) : value.toJson.depth = 1 := rfl

theorem toJson_settle (value : TypedValue) : value.toJson.settle = value.toJson := rfl

end TypedValue

/-! ### Keys -/

namespace Params

/-- A key spells a list of parameters: with any blanks, any escapes and any names of the types. -/
def Spells (key : String) (params : Params) : Prop :=
  ∃ before text after, Blank before ∧ Blank after ∧ key.toList = before ++ text ++ after ∧
    Listed TypedValue.Spelled text params

private theorem ofKey_complete (key : String) (before inner after : List Char) (params : Params)
    (blankBefore : Blank before) (blankAfter : Blank after)
    (same : key.toList = before ++ ('[' :: inner ++ [']']) ++ after)
    (inside : Parts TypedValue.Spelled inner params) : ofKey key = .ok params := by
  have taken := takes_list TypedValue.decode _ 126 (TypedValue.takes_spelled 125)
    TypedValue.spelled_headed inner params inside before after blankBefore
    (delimited_blanks after blankAfter)
  rw [← same] at taken
  have read : Json.decode (decodeList TypedValue.decode) key = .ok params :=
    readAll_complete _ key params after taken blankAfter
  rw [ofKey,read]

theorem ofKey_named (key value name : String) (type : ValueType)
    (named : ValueType.ofName? name = some type)
    (same : key.toList = '[' :: ('[' :: (quote value ++ ',' :: (quote name ++ [']'])) ++ [']'])) :
    ofKey key = .ok [⟨value, type⟩] := by
  have inside := Parts.some [] _ _ [] [] blank_nil (TypedValue.spelled_named value name type named)
    (.none [] blank_nil)
  rw [List.nil_append,List.append_nil] at inside
  exact ofKey_complete key [] _ [] _ blank_nil blank_nil (by simpa using same) inside

private theorem toKey_spelled (params : Params) : ∃ inner,
    (toKey params).toList = '[' :: (inner ++ [']']) ∧ Parts TypedValue.Spelled inner params := by
  have parts := parts_written TypedValue.Spelled (fun value => value.toJson.compact) id [] [] blank_nil
    blank_nil [] blank_nil params fun value _ => value.spelled_compact
  rw [List.map_id,List.nil_append,List.append_nil] at parts
  refine ⟨_,?_,parts⟩
  rw [toKey,toText,String.toList_ofList,compact,compactAll_eq,List.map_map]
  rfl

theorem ofKey_toKey (params : Params) : ofKey (toKey params) = .ok params := by
  obtain ⟨inner,same,inside⟩ := toKey_spelled params
  exact ofKey_complete _ [] inner [] params blank_nil blank_nil (by simpa using same) inside

private theorem toKey_injective : Function.Injective toKey := by
  intro params others same
  have read := ofKey_toKey params
  rw [same,ofKey_toKey others] at read
  exact (Except.ok.inj read).symm

/-- A key is read as the list that it spells, and as nothing else. -/
theorem ofKey_ok_iff (key : String) (params : Params) : ofKey key = .ok params ↔ Spells key params := by
  constructor
  · intro found
    have read : Json.decode (decodeList TypedValue.decode) key = .ok params := by
      cases decoded : Json.decode (decodeList TypedValue.decode) key with
      | error fault => simp [ofKey,decoded] at found
      | ok params => simpa [ofKey,decoded] using found
    obtain ⟨after,taken,blankAfter⟩ := readAll_ok _ key params read
    obtain ⟨before,text,blank,same,listed⟩ :=
      decodeList_ok TypedValue.decode _ TypedValue.decode_ok _ _ _ _ taken
    exact ⟨before,text,after,blank,blankAfter,same,listed⟩
  · rintro ⟨before,_,after,blankBefore,blankAfter,same,inner,rfl,inside⟩
    exact ofKey_complete key before inner after params blankBefore blankAfter same inside

/-- The keys of different lists of parameters are different, whatever is stored under them. -/
theorem toKey_distinct {ν μ : Type} (f : ν → μ) (entries : List (Params × ν))
    (distinct : (OrderedMap.keys entries).Nodup) :
    (OrderedMap.keys (entries.map fun (params, value) => (params.toKey, f value))).Nodup := by
  have written : OrderedMap.keys (entries.map fun (params, value) => (params.toKey, f value)) =
      (OrderedMap.keys entries).map toKey := by simp [OrderedMap.keys]
  rw [written]
  exact distinct.map toKey_injective

/-- A list is read back from its key, no two lists share a key, and a key is accepted exactly if it
spells a list: then it is read as that list, and the key that is written for it is read in the same way.
The names of a type in a key are its own and its aliases, which no other type has. -/
theorem key_faithful :
    (∀ params, ofKey (toKey params) = .ok params) ∧
      (∀ params others, toKey params = toKey others ↔ params = others) ∧
      (∀ key params, ofKey key = .ok params ↔ Spells key params) ∧
      (∀ key, (ofKey key).bind (fun params => ofKey (toKey params)) = ofKey key) ∧
      ∀ name type, ValueType.ofName? name = some type ↔ name = type.name ∨ name ∈ type.aliases := by
  refine ⟨ofKey_toKey,fun params others => toKey_injective.eq_iff,ofKey_ok_iff,?_,
    ValueType.ofName?_eq_some⟩
  intro key
  cases read : ofKey key with
  | error error => rfl
  | ok params => exact ofKey_toKey params

end Params
end Proctor
