import Proctor.Proofs.Run.Output
import Mathlib

/-! The text that a record shows as received: it is read back as the value in the item, so that different
values have different texts, and none of them is the text that stands for no value. -/
namespace Proctor.Output
open Json
open Literal (jsonOfSource)

/-! ### Fields and their texts -/

private theorem has_unique (item : Json) (strict : item.Strict) (name : String) (value other : Json)
    (has : Has item name value) (hasOther : Has item name other) : value = other := by
  obtain ⟨members,rfl,_⟩ := id has
  rw [has_iff members strict] at has hasOther
  exact Option.some.inj (has.symm.trans hasOther)

private theorem not_has_of_lacks (item : Json) (name : String) (value : Json) (absent : Lacks item name) :
    ¬ Has item name value := by
  rintro ⟨members,rfl,member⟩
  obtain ⟨_,same,absent⟩ := absent
  cases same
  exact absent (List.mem_map_of_mem member)

/-- Any value inside a list of objects that is read is read back from its own text. -/
theorem field_read_back (items : List Json) (strict : (Json.array items).Strict)
    (depth : (Json.array items).depth ≤ 256) (item : Json) (inside : item ∈ items) (name : String)
    (value : Json) (has : Has item name value) : jsonOfSource value.toText = .ok value := by
  obtain ⟨members,rfl,member⟩ := has
  cases strict with
  | array _ itemsStrict =>
    cases itemsStrict _ inside with
    | object _ _ membersStrict =>
      have valueStrict := membersStrict _ member
      have itemDepth := (depthAll_le items 255).mp (Nat.le_of_succ_le_succ depth) _ inside
      have valueDepth := (depthMembers_le members 254).mp (Nat.le_of_succ_le_succ itemDepth) _ member
      exact ofSource_of_lexes _ value valueStrict (lex_texts value valueStrict).1
        (Nat.le_trans valueDepth (by decide))

/-- No value has the text that stands for none, since it is no literal. -/
theorem noValue_unreadable : ∃ diagnostic, jsonOfSource "<no value>" = .error diagnostic := ⟨_,rfl⟩

private theorem readable_ne_noValue (text : String) (value : Json) (read : jsonOfSource text = .ok value) :
    text ≠ "<no value>" := by
  rintro rfl
  obtain ⟨diagnostic,refused⟩ := noValue_unreadable
  rw [refused] at read
  cases read

/-! ### Records and their items -/

/-- In the list that raw output denotes, the item at an index is the one that the record is made of. -/
structure MadeOf (raw : String) (index : Nat) (item : Json) (record : Record) : Prop where
  listed : ∃ items, jsonOfSource raw = .ok (.array items) ∧ items[index]? = some item
  recorded : ∃ records, normalize raw = .ok records ∧ records[index]? = some record

section Made
variable {raw : String} {index : Nat} {item : Json} {record : Record}

theorem MadeOf.describes (made : MadeOf raw index item record) : Describes item record := by
  obtain ⟨⟨items,read,itemAt⟩,records,normalized,recordAt⟩ := made
  have strict := (strict_of_source raw _ read).1
  rw [normalize_of_read raw _ read,recordsOf_ok_iff _ strict] at normalized
  obtain ⟨_,same,all⟩ := normalized
  cases same
  obtain ⟨itemBound,rfl⟩ := List.getElem?_eq_some_iff.mp itemAt
  obtain ⟨recordBound,rfl⟩ := List.getElem?_eq_some_iff.mp recordAt
  exact all.get itemBound recordBound

theorem MadeOf.received (made : MadeOf raw index item record) :
    ∃ text, record.received? = some text ∧ Received item text := by
  cases made.describes with
  | passed _ _ text _ _ _ shown => exact ⟨text,rfl,shown⟩
  | failed _ _ text _ _ _ _ shown => exact ⟨text,rfl,shown⟩

theorem MadeOf.strict (made : MadeOf raw index item record) : item.Strict := by
  obtain ⟨⟨items,read,itemAt⟩,_⟩ := made
  cases (strict_of_source raw _ read).1 with
  | array _ inside => exact inside item (List.mem_of_getElem? itemAt)

private theorem MadeOf.read_back (made : MadeOf raw index item record) (value : Json)
    (has : Has item "received" value) : jsonOfSource value.toText = .ok value := by
  obtain ⟨⟨items,read,itemAt⟩,_⟩ := made
  obtain ⟨strict,depth⟩ := strict_of_source raw _ read
  exact field_read_back items strict depth item (List.mem_of_getElem? itemAt) "received" value has

theorem MadeOf.shown (made : MadeOf raw index item record) (value : Json) (has : Has item "received" value) :
    record.received? = some value.toText := by
  obtain ⟨text,same,received⟩ := made.received
  rw [same]
  cases received with
  | shown found hasFound => rw [has_unique item made.strict _ _ _ has hasFound]
  | nothing absent => exact absurd has (not_has_of_lacks item _ value absent)

theorem MadeOf.nothing (made : MadeOf raw index item record) (absent : Lacks item "received") :
    record.received? = some "<no value>" := by
  obtain ⟨text,same,received⟩ := made.received
  rw [same]
  cases received with
  | nothing => rfl
  | shown found has => exact absurd has (not_has_of_lacks item _ found absent)

private theorem MadeOf.lacks_or_has (made : MadeOf raw index item record) :
    Lacks item "received" ∨ ∃ value, Has item "received" value := by
  obtain ⟨_,_,received⟩ := made.received
  cases received with
  | shown value has => exact .inr ⟨value,has⟩
  | nothing absent => exact .inl absent

end Made

private theorem madeOf_exists (raw : String) (records : List Record) (normalized : normalize raw = .ok records)
    (index : Nat) (record : Record) (recordAt : records[index]? = some record) :
    ∃ item, MadeOf raw index item record := by
  cases read : jsonOfSource raw with
  | error diagnostic => simp [normalize,read] at normalized
  | ok value =>
    have found := normalized
    rw [normalize_of_read raw value read,recordsOf_ok_iff value (strict_of_source raw value read).1] at found
    obtain ⟨items,rfl,all⟩ := found
    obtain ⟨bound,_⟩ := List.getElem?_eq_some_iff.mp recordAt
    rw [← all.length_eq] at bound
    exact ⟨items[index],⟨items,read,List.getElem?_eq_getElem bound⟩,records,normalized,recordAt⟩

/-- A record that shows the same text is made of an item with the same value. -/
theorem has_of_same_text {raw other : String} {index place : Nat} {item twin : Json}
    {record double : Record} (made : MadeOf raw index item record) (alike : MadeOf other place twin double)
    (same : record.received? = double.received?) (value : Json) (has : Has item "received" value) :
    Has twin "received" value := by
  have read := made.read_back value has
  rw [made.shown value has] at same
  rcases alike.lacks_or_has with absent | ⟨found,hasFound⟩
  · rw [alike.nothing absent] at same
    exact absurd (Option.some.inj same) (readable_ne_noValue _ value read)
  · rw [alike.shown found hasFound] at same
    rw [Option.some.inj same,alike.read_back found hasFound] at read
    cases read
    exact hasFound

/-- Two records show the same text exactly if their items have the same value, or none, as received. -/
theorem received_eq_iff {raw other : String} {index place : Nat} {item twin : Json} {record double : Record}
    (made : MadeOf raw index item record) (alike : MadeOf other place twin double) :
    record.received? = double.received? ↔
      ∀ value, Has item "received" value ↔ Has twin "received" value := by
  constructor
  · exact fun same value =>
      ⟨has_of_same_text made alike same value,has_of_same_text alike made same.symm value⟩
  · intro same
    rcases made.lacks_or_has with absent | ⟨value,has⟩
    · rcases alike.lacks_or_has with absentTwin | ⟨value,has⟩
      · rw [made.nothing absent,alike.nothing absentTwin]
      · exact absurd ((same value).mpr has) (not_has_of_lacks item _ value absent)
    · rw [made.shown value has,alike.shown value ((same value).mp has)]

/-- Every record is made of the item at its place in the output. If the item has a received value, the text
in the record is read back as this very value, and differs from the text that stands for no value; if it has
none, that text is in the record, and no literal. So two records, of any outputs, show the same text exactly
if their items have the same value or both have none. -/
theorem received_text_faithful :
    (∀ raw records, normalize raw = .ok records → ∀ index record, records[index]? = some record →
      ∃ item, MadeOf raw index item record) ∧
    (∀ raw index item record, MadeOf raw index item record →
      (∀ value, Has item "received" value → ∃ text, record.received? = some text ∧
        jsonOfSource text = .ok value ∧ text ≠ "<no value>") ∧
      (Lacks item "received" → record.received? = some "<no value>") ∧
      (Lacks item "received" ∨ ∃ value, Has item "received" value)) ∧
    (∃ diagnostic, jsonOfSource "<no value>" = .error diagnostic) ∧
    ∀ raw index item record other place twin double,
      MadeOf raw index item record → MadeOf other place twin double →
      (record.received? = double.received? ↔
        ∀ value, Has item "received" value ↔ Has twin "received" value) := by
  refine ⟨madeOf_exists,?_,noValue_unreadable,fun _ _ _ _ _ _ _ _ => received_eq_iff⟩
  intro raw index item record made
  refine ⟨fun value has => ?_,made.nothing,made.lacks_or_has⟩
  have read := made.read_back value has
  exact ⟨_,made.shown value has,read,readable_ne_noValue _ value read⟩

/-- No value, null, and the very text that stands for no value are three different texts. -/
theorem absent_null_and_text_differ :
    let item (fields : List (String × Json)) : Json :=
      .object (("test", .string "t") :: ("passed", .bool true) :: fields)
    let items : List Json := [item [], item [("received", .null)], item [("received", .string "<no value>")]]
    let raw := (Json.array items).toText
    ∃ none null text : Record, normalize raw = .ok [none, null, text] ∧
      none.received? = some "<no value>" ∧
      (∃ shown, null.received? = some shown ∧ jsonOfSource shown = .ok .null ∧ shown ≠ "<no value>") ∧
      (∃ shown, text.received? = some shown ∧ jsonOfSource shown = .ok (.string "<no value>") ∧
        shown ≠ "<no value>") ∧
      null.received? ≠ text.received? := by
  intro item items raw
  have strict : (Json.array items).Strict := by
    refine .array _ ?_
    simp only [items,item,List.forall_mem_cons,List.not_mem_nil,false_imp_iff,implies_true,and_true]
    refine ⟨.object _ (by decide) ?_,.object _ (by decide) ?_,.object _ (by decide) ?_⟩ <;>
      simp [Strict.null,Strict.bool,Strict.string]
  have read : jsonOfSource raw = .ok (.array items) :=
    ofSource_of_lexes _ _ strict (lex_texts _ strict).1 (by decide)
  have normalized : normalize raw = .ok [⟨"t", some "<no value>", none⟩, ⟨"t", some "null", none⟩,
      ⟨"t", some (Json.string "<no value>").toText, none⟩] := by
    rw [normalize_of_read raw _ read]
    rfl
  have made (index : Nat) (one : Json) (record : Record) (itemAt : items[index]? = some one)
      (recordAt : [(⟨"t", some "<no value>", none⟩ : Record), ⟨"t", some "null", none⟩,
        ⟨"t", some (Json.string "<no value>").toText, none⟩][index]? = some record) :
      MadeOf raw index one record := ⟨⟨items,read,itemAt⟩,_,normalized,recordAt⟩
  have first := made 0 _ _ rfl rfl
  have second := made 1 _ _ rfl rfl
  have third := made 2 _ _ rfl rfl
  have null : Has (item [("received", .null)]) "received" .null := ⟨_,rfl,by simp⟩
  have text : Has (item [("received", .string "<no value>")]) "received" (.string "<no value>") :=
    ⟨_,rfl,by simp⟩
  obtain ⟨-,each,-,same⟩ := received_text_faithful
  refine ⟨_,_,_,normalized,(each _ _ _ _ first).2.1 ⟨_,rfl,by decide⟩,(each _ _ _ _ second).1 _ null,
    (each _ _ _ _ third).1 _ text,fun equal => ?_⟩
  obtain ⟨members,shape,member⟩ := ((same _ _ _ _ _ _ _ _ second third).mp equal .null).mp null
  cases shape
  simp at member

end Proctor.Output
