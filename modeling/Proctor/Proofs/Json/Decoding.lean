import Proctor.Proofs.Json.Completeness
import Proctor.Proofs.Json.Writing
import Proctor.Proofs.OrderedMap
import Proctor.Json.Decode
import Mathlib

/-! Decoders take the spellings of what they decode: strings, lists, maps, and structures by the names of
their fields. -/
namespace Proctor.Json
open Grammar State
open Literal (Delimited delimiters delimited_cons)

def Takes {α : Type} (p : Reader α) (text : List Char) (a : α) : Prop :=
  ∀ before rest, Blank before → Delimited rest → p (before ++ text ++ rest) = .ok (a, rest)

theorem Takes.map {α β : Type} (p : Reader α) (f : α → β) (text : List Char) (a : α)
    (taken : Takes p text a) : Takes (do return f (← p)) text (f a) := by
  intro before rest blank delimited
  exact (map_ok _ _ _ _ _).mpr ⟨a,taken before rest blank delimited,rfl⟩

theorem mismatch_error {α : Type} (wanted : String) (text : List Char) (result : α × List Char) :
    mismatch wanted text ≠ .ok result := by
  unfold mismatch
  intro taken
  rw [bind_ok] at taken
  obtain ⟨c?,rest,_,taken⟩ := taken
  split at taken
  · cases taken
  · cases taken
  · cases taken
  · rw [bind_ok] at taken
    obtain ⟨_,_,_,thrown⟩ := taken
    cases thrown

/-! ### Strings, lists and maps -/

private theorem peekValue_cons (gaps rest : List Char) (c : Char) (blank : Blank gaps)
    (solid : isSpace c = false) : peekValue (gaps ++ c :: rest) = .ok (c, c :: rest) := by
  unfold peekValue
  rw [bind_of_ok _ _ _ _ _ (peek_cons gaps rest c blank solid)]
  rfl

theorem takes_characters (wanted : String) (body characters : List Char)
    (inside : Characters body characters) :
    Takes (decodeString wanted) ('"' :: body ++ ['"']) (String.ofList characters) := by
  intro before rest blank delimited
  have read := stringToken_complete body characters rest inside
  simp only [List.append_assoc,List.cons_append,List.nil_append] at read ⊢
  unfold decodeString
  rw [bind_of_ok _ _ _ _ _ (peekValue_cons before _ '"' blank rfl),if_pos rfl]
  exact read

theorem takes_string (wanted text : String) : Takes (decodeString wanted) (quote text) text := by
  have read := takes_characters wanted _ text.toList (characters_escaped text.toList)
  rwa [String.ofList_toList,← quote_eq] at read

theorem takes_bool (room : Nat) (b : Bool) : Takes (decodeBool room) (Json.bool b).compact b := by
  intro before rest blank delimited
  unfold decodeBool
  cases b with
  | true =>
    rw [List.append_assoc]
    exact bind_of_ok _ _ _ _ _ (peekValue_cons before ('r' :: 'u' :: 'e' :: rest) 't' blank rfl)
  | false =>
    rw [List.append_assoc]
    exact bind_of_ok _ _ _ _ _ (peekValue_cons before ('a' :: 'l' :: 's' :: 'e' :: rest) 'f' blank rfl)

private theorem takes_some {α : Type} (decode : Decoder α) (room : Nat) (text : List Char) (c : Char) (a : α)
    (solid : isSpace c = false) (notNull : c ≠ 'n') (taken : Takes (decode room) (c :: text) a) :
    Takes (decodeOptional decode room) (c :: text) (some a) := by
  intro before rest blank delimited
  unfold decodeOptional
  simp only [List.append_assoc,List.cons_append]
  rw [bind_of_ok _ _ _ _ _ (peek_cons before _ c blank solid),if_neg (by simpa using notNull)]
  exact bind_of_ok _ _ _ _ _ (taken [] rest blank_nil delimited)

private theorem takes_null {α : Type} (decode : Decoder α) (room : Nat) :
    Takes (decodeOptional decode room) Json.null.compact none := by
  intro before rest blank delimited
  unfold decodeOptional
  rw [List.append_assoc]
  exact bind_of_ok _ _ _ _ _ (peek_cons before ('u' :: 'l' :: 'l' :: rest) 'n' blank rfl)

theorem takes_optional (decode : Decoder String) (room : Nat) (text? : Option String)
    (taken : ∀ text ∈ text?, Takes (decode room) (quote text) text) :
    Takes (decodeOptional decode room) (Json.ofText? text?).compact text? := by
  cases text? with
  | none => exact takes_null decode room
  | some text => exact takes_some decode room _ '"' text rfl (by decide) (taken text rfl)

private theorem entering_succ {α : Type} (room : Nat) (inside : Nat → Reader α) (c : Char) (rest : List Char) :
    entering (room + 1) inside (c :: rest) = inside room rest := rfl

theorem takes_list {α : Type} (decode : Decoder α) (One : List Char → α → Prop) (room : Nat)
    (each : ∀ text a, One text a → Takes (decode room) text a) (headed : Headed One StartsItem)
    (inner : List Char) (found : List α) (inside : Parts One inner found) :
    Takes (decodeList decode (room + 1)) ('[' :: inner ++ [']']) found := by
  intro before rest blank delimited
  have complete : Complete (decode room) One := fun used a rest one =>
    each used a one [] rest blank_nil
  have enough := parts_length headed inner found inside
  have read := loop_complete separates_items complete headed (by simp [delimiters]) .endOfList inner
    found inside ((inner ++ ']' :: rest).length + 1) (by simp only [List.length_append]; omega) rest
  rw [← items_eq_loop] at read
  unfold decodeList
  simp only [List.append_assoc,List.cons_append,List.nil_append]
  rw [bind_of_ok _ _ _ _ _ (peekValue_cons before _ '[' blank rfl),if_pos rfl,
    entering_succ,bind_of_ok _ _ _ _ _ rfl,bind_of_ok _ _ _ _ _ read]
  exact bind_of_ok _ _ _ _ _ (endList_close [] rest blank_nil)

theorem takes_pair {α β : Type} (left : Decoder α) (right : Decoder β) (room : Nat)
    (first text second third other fourth : List Char) (a : α) (b : β) (blankFirst : Blank first)
    (blankSecond : Blank second) (blankThird : Blank third) (blankFourth : Blank fourth)
    (starts : ∃ c others, text = c :: others ∧ StartsItem c)
    (otherStarts : ∃ c others, other = c :: others ∧ StartsItem c)
    (taken : Takes (left room) text a) (otherTaken : Takes (right room) other b) :
    Takes (decodePair left right (room + 1))
      ('[' :: (first ++ text ++ (second ++ ',' :: (third ++ other ++ (fourth ++ [']']))))) (a, b) := by
  intro before rest blank delimited
  obtain ⟨c,others,rfl,starts⟩ := starts
  obtain ⟨d,more,rfl,otherStarts⟩ := otherStarts
  have closed := delimited_blank fourth _ blankFourth (delimited_cons ']' rest (by simp [delimiters]))
  have comma (after : List Char) := delimited_blank second _ blankSecond
    (delimited_cons ',' after (by simp [delimiters]))
  have firstRead := taken [] _ blank_nil (comma (third ++ (d :: more ++ (fourth ++ ']' :: rest))))
  have secondRead := otherTaken [] _ blank_nil closed
  simp only [List.append_assoc,List.cons_append,List.nil_append] at firstRead secondRead ⊢
  unfold decodePair
  rw [bind_of_ok _ _ _ _ _ (peekValue_cons before _ '[' blank rfl),if_pos rfl,entering_succ,
    bind_of_ok _ _ _ _ _ (separates_items.first first c _ blankFirst starts)]
  change (left room >>= _) _ = _
  rw [bind_of_ok _ _ _ _ _ firstRead,
    bind_of_ok _ _ _ _ _ (separates_items.later second third d _ blankSecond blankThird otherStarts)]
  change (right room >>= _) _ = _
  rw [bind_of_ok _ _ _ _ _ secondRead]
  exact bind_of_ok _ _ _ _ _ (endList_close fourth rest blankFourth)

private theorem container_of_object (room : Nat) (text : List Char) (members : List (String × Json))
    (derived : Value stepwise (room + 1) text (.object members)) :
    Container (Value stepwise room) text (.object members) := by
  rcases derived with scalar | container
  · cases scalar with
    | number negative text d integral _ magnitude valued =>
      unfold Numeral.value at valued
      grind
  · exact container

/-- An object is decoded as a map, in which a name keeps its first place and its last value. -/
theorem takes_object (room : Nat) (text : List Char) (members : List (String × Json))
    (derived : Value stepwise (room + 1) text (.object members)) :
    Takes (decodeMap (room + 1)) text
      (OrderedMap.ofPairs (members.map fun (name, value) => (name, value.settle))) := by
  intro before rest blank delimited
  cases container_of_object room text members derived with
  | object inner _ inside =>
    have enough := parts_length (member_headed (Value stepwise room)) inner members inside
    have read := loop_complete separates_names (member_complete _ _ (value_complete stepwise room))
      (member_headed _) (by simp [delimiters]) .endOfObject inner members inside
      ((inner ++ '\x7d' :: rest).length + 1) (by simp only [List.length_append]; omega) rest
    rw [← members_eq_loop] at read
    unfold decodeMap
    simp only [List.append_assoc,List.cons_append,List.nil_append]
    rw [bind_of_ok _ _ _ _ _ (peekValue_cons before _ '\x7b' blank rfl),if_pos rfl,
      entering_succ,bind_of_ok _ _ _ _ _ rfl,bind_of_ok _ _ _ _ _ read]
    exact bind_of_ok _ _ _ _ _ (endObject_close [] rest blank_nil)

theorem decodeMap_distinct (room : Nat) (text : List Char) (members : List (String × Json))
    (rest : List Char) (read : decodeMap room text = .ok (members, rest)) :
    (OrderedMap.keys members).Nodup := by
  unfold decodeMap at read
  rw [bind_ok] at read
  obtain ⟨c,_,_,read⟩ := read
  split at read
  · cases room with
    | zero => cases read
    | succ room =>
      simp only [entering,bind_ok] at read
      obtain ⟨_,_,_,_,_,_,found,_,_,_,_,_,returned⟩ := read
      cases returned
      exact OrderedMap.nodup_ofPairs _
  · exact absurd read (mismatch_error "a map" _ _)

/-! ### Structures -/

section Structures
variable {σ : Type} (fields : List (Field σ)) (room : Nat)

/-- Members with these names and texts fill the fields of a structure, one after another. -/
inductive Fills : σ → List (String × List Char) → σ → Prop
  | none (partly : σ) : Fills partly [] partly
  | more (partly filled found : σ) (name : String) (text : List Char)
      (others : List (String × List Char)) (field : Field σ)
      (named : fields.find? (·.name == name) = some field) (empty : field.filled partly = false)
      (taken : Takes (field.read room partly) text filled) (rest : Fills filled others found) :
      Fills partly ((name, text) :: others) found

private theorem fillByName_end (bound : Nat) (first : Bool) (partly : σ) (text rest : List Char)
    (asked : nextName first text = .ok (false, rest)) :
    fillByName fields room (bound + 1) first partly text = .ok (partly, rest) := by
  unfold fillByName
  rw [bind_of_ok _ _ _ _ _ asked]
  rfl

private theorem fillByName_member (bound : Nat) (first : Bool) (partly filled : σ) (text used rest : List Char)
    (name : String) (value : List Char) (field : Field σ)
    (asked : nextName first text = .ok (true, used ++ rest)) (member : Member Eq used (name, value))
    (named : fields.find? (·.name == name) = some field) (empty : field.filled partly = false)
    (taken : Takes (field.read room partly) value filled) (delimited : Delimited rest) :
    fillByName fields room (bound + 1) first partly text =
      fillByName fields room bound false filled rest := by
  obtain ⟨body,characters,before,after,value,_,spelled,blankBefore,blankAfter,rfl⟩ := member
  have token := stringToken_complete body characters (before ++ ':' :: (after ++ value ++ rest)) spelled
  have opened := colon_close before (after ++ value ++ rest) blankBefore
  have read := taken after rest blankAfter delimited
  simp only [List.append_assoc,List.cons_append] at asked token opened read
  conv_lhs => unfold fillByName
  rw [bind_of_ok _ _ _ _ _ asked,if_pos rfl,bind_of_ok _ _ _ _ _ token]
  simp only [named,empty,Bool.false_eq_true,if_false]
  rw [bind_of_ok _ _ _ _ _ opened,bind_of_ok _ _ _ _ _ read]

private theorem fillByName_others (partly found : σ) (text : List Char) (members : List (String × List Char))
    (others : Others (Member Eq) text members) (fills : Fills fields room partly members found)
    (bound : Nat) (enough : members.length < bound) (rest : List Char) :
    fillByName fields room bound false partly (text ++ '\x7d' :: rest) =
      .ok (found, '\x7d' :: rest) := by
  induction others generalizing partly bound with
  | none gaps blank =>
    cases fills
    cases bound with
    | zero => simp at enough
    | succ bound => exact fillByName_end _ _ _ _ _ _ _ (separates_names.ends false gaps rest blank)
  | more before after used member others members blankBefore blankAfter one tail ih =>
    cases bound with
    | zero => simp at enough
    | succ bound =>
      cases fills with
      | more _ filled _ name value _ field named empty taken fills =>
        obtain ⟨c,more,rfl,starts⟩ := member_headed _ _ _ one
        have delimited := others_delimits _ _ tail _ (delimited_cons '\x7d' rest (by simp [delimiters]))
        have asked := separates_names.later before after c (more ++ (others ++ '\x7d' :: rest))
          blankBefore blankAfter starts
        simp only [List.append_assoc,List.cons_append] at asked ⊢
        rw [fillByName_member fields room bound false partly filled _ (c :: more) _ name value field
          asked one named empty taken delimited]
        exact ih filled fills bound (by simpa using enough)

private theorem fillByName_complete (partly found : σ) (text : List Char) (members : List (String × List Char))
    (parts : Parts (Member Eq) text members) (fills : Fills fields room partly members found)
    (bound : Nat) (enough : members.length < bound) (rest : List Char) :
    fillByName fields room bound true partly (text ++ '\x7d' :: rest) =
      .ok (found, '\x7d' :: rest) := by
  cases bound with
  | zero => simp at enough
  | succ bound =>
    cases parts with
    | none gaps blank =>
      cases fills
      exact fillByName_end _ _ _ _ _ _ _ (separates_names.ends true text rest blank)
    | some before used member others members blank one tail =>
      cases fills with
      | more _ filled _ name value _ field named empty taken fills =>
        obtain ⟨c,more,rfl,starts⟩ := member_headed _ _ _ one
        have delimited := others_delimits _ _ tail _ (delimited_cons '\x7d' rest (by simp [delimiters]))
        have asked := separates_names.first before c (more ++ (others ++ '\x7d' :: rest)) blank starts
        simp only [List.append_assoc,List.cons_append] at asked ⊢
        rw [fillByName_member fields room bound true partly filled _ (c :: more) _ name value field
          asked one named empty taken delimited]
        exact fillByName_others fields room filled found others members tail fills bound
          (by simpa using enough) rest

/-- A structure is decoded from an object whose members fill all fields that may not be left out. -/
theorem takes_structure (type : String) (empty found : σ) (inner : List Char)
    (members : List (String × List Char)) (inside : Parts (Member Eq) inner members)
    (fills : Fills fields room empty members found)
    (whole : fields.find? (fun field => !field.optional && !field.filled found) = none) :
    Takes (decodeStructure type fields empty (room + 1)) ('\x7b' :: inner ++ ['\x7d']) found := by
  intro before rest blank delimited
  have enough := parts_length (member_headed Eq) inner members inside
  have filled := fillByName_complete fields room empty found inner members inside fills
    ((inner ++ '\x7d' :: rest).length + 1) (by simp only [List.length_append]; omega) rest
  unfold decodeStructure
  simp only [List.append_assoc,List.cons_append,List.nil_append]
  rw [bind_of_ok _ _ _ _ _ (peekValue_cons before _ '\x7b' blank rfl)]
  change entering (room + 1) _ _ = _
  rw [entering_succ,bind_of_ok _ _ _ _ _ rfl,bind_of_ok _ _ _ _ _ filled]
  simp only [whole]
  exact bind_of_ok _ _ _ _ _ (endObject_close [] rest blank_nil)

end Structures

/-! ### Lists that are decoded alike -/

section Alike
variable {α β : Type} (f : α → β)

private theorem items_map (item : Reader α) (other : Reader β)
    (each : ∀ text a rest, item text = .ok (a, rest) → other text = .ok (f a, rest))
    (bound : Nat) (first : Bool) (text : List Char) (found : List α) (rest : List Char)
    (read : items item bound first text = .ok (found, rest)) :
    items other bound first text = .ok (found.map f, rest) := by
  induction bound generalizing first text found with
  | zero => cases read
  | succ bound ih =>
    unfold items at read ⊢
    rw [bind_ok] at read
    obtain ⟨more,next,asked,read⟩ := read
    rw [bind_of_ok _ _ _ _ _ asked]
    cases more with
    | false =>
      cases read
      rfl
    | true =>
      rw [if_pos rfl,bind_ok] at read
      obtain ⟨a,_,itemRead,read⟩ := read
      rw [bind_ok] at read
      obtain ⟨others,_,continued,returned⟩ := read
      cases returned
      rw [if_pos rfl,bind_of_ok _ _ _ _ _ (each _ _ _ itemRead),
        bind_of_ok _ _ _ _ _ (ih false _ others continued)]
      rfl

theorem decodeList_map (decode : Decoder α) (other : Decoder β)
    (each : ∀ room text a rest, decode room text = .ok (a, rest) → other room text = .ok (f a, rest))
    (room : Nat) (text : List Char) (found : List α) (rest : List Char)
    (read : decodeList decode room text = .ok (found, rest)) :
    decodeList other room text = .ok (found.map f, rest) := by
  unfold decodeList at read ⊢
  rw [bind_ok] at read
  obtain ⟨c,opened,peeked,read⟩ := read
  rw [bind_of_ok _ _ _ _ _ peeked]
  split at read
  · next bracket =>
    rw [if_pos bracket]
    cases room with
    | zero => cases read
    | succ room =>
      simp only [entering,bind_ok] at read ⊢
      obtain ⟨_,inner,entered,bound,_,bounded,_,after,itemsRead,_,_,ended,returned⟩ := read
      cases returned
      have mapped := items_map f _ _ (each room) bound true _ found after itemsRead
      exact ⟨(),inner,entered,bound,_,bounded,found.map f,after,mapped,(),_,ended,rfl⟩
  · exact absurd read (mismatch_error "a sequence" _ _)

end Alike

/-! ### Structures that are decoded alike -/

section Mirrors
variable {σ τ : Type} (R : σ → τ → Prop)

/-- The other field is read wherever the field is, and leaves related structures related. -/
structure Mirrors (field : Field σ) (other : Field τ) : Prop where
  name : other.name = field.name
  optional : other.optional = field.optional
  filled : ∀ s t, R s t → other.filled t = field.filled s
  read : ∀ room s t text s' rest, R s t → field.read room s text = .ok (s', rest) →
    ∃ t', other.read room t text = .ok (t', rest) ∧ R s' t'

variable (fields : List (Field σ)) (others : List (Field τ))
variable (mirrored : List.Forall₂ (Mirrors R) fields others)
include mirrored

private theorem find_mirrored (P : Field σ → Bool) (Q : Field τ → Bool)
    (same : ∀ field other, Mirrors R field other → Q other = P field) :
    Option.Rel (Mirrors R) (fields.find? P) (others.find? Q) := by
  induction mirrored with
  | nil => exact .none
  | @cons field other fields others first rest ih =>
    rw [List.find?_cons,List.find?_cons,same field other first]
    cases P field with
    | true => exact .some first
    | false => exact ih

private theorem fillByName_mirrored (room bound : Nat) (first : Bool) (s : σ) (t : τ) (text : List Char)
    (s' : σ)
    (rest : List Char) (related : R s t)
    (read : fillByName fields room bound first s text = .ok (s', rest)) :
    ∃ t', fillByName others room bound first t text = .ok (t', rest) ∧ R s' t' := by
  induction bound generalizing first s t text with
  | zero => cases read
  | succ bound ih =>
    unfold fillByName at read
    rw [bind_ok] at read
    obtain ⟨more,named,asked,read⟩ := read
    cases more with
    | false =>
      cases read
      exact ⟨t,fillByName_end others room bound first t text _ asked,related⟩
    | true =>
      rw [if_pos rfl,bind_ok] at read
      obtain ⟨name,valued,token,read⟩ := read
      have found := find_mirrored R fields others mirrored (·.name == name) (·.name == name)
        fun field other mirrors => by rw [mirrors.name]
      unfold fillByName
      rw [bind_of_ok _ _ _ _ _ asked,if_pos rfl,bind_of_ok _ _ _ _ _ token]
      generalize fields.find? (·.name == name) = field? at found read
      generalize others.find? (·.name == name) = other? at found ⊢
      revert read
      cases found with
      | none =>
        simp only [bind_ok]
        rintro ⟨_,opened,colonRead,_,after,skipped,read⟩
        obtain ⟨t',done,ends⟩ := ih false s t after related read
        exact ⟨t',⟨_,opened,colonRead,_,after,skipped,done⟩,ends⟩
      | @some field other mirrors =>
        dsimp only
        rw [mirrors.filled s t related]
        cases field.filled s with
        | true => rintro ⟨⟩
        | false =>
          simp only [Bool.false_eq_true,if_false,bind_ok]
          rintro ⟨_,opened,colonRead,filled,after,fieldRead,read⟩
          obtain ⟨filled',otherRead,related⟩ := mirrors.read room s t _ _ _ related fieldRead
          obtain ⟨t',done,ends⟩ := ih false filled filled' after related read
          exact ⟨t',⟨_,opened,colonRead,filled',after,otherRead,done⟩,ends⟩

private theorem fillInOrder_mirrored (wanted : String) (room index : Nat) (first : Bool) (s : σ) (t : τ)
    (text : List Char) (s' : σ) (rest : List Char) (related : R s t)
    (read : fillInOrder wanted room fields index first s text = .ok (s', rest)) :
    ∃ t', fillInOrder wanted room others index first t text = .ok (t', rest) ∧ R s' t' := by
  induction mirrored generalizing index first s t text with
  | nil =>
    cases read
    exact ⟨t,rfl,related⟩
  | @cons field other fields others mirrors _ ih =>
    unfold fillInOrder at read ⊢
    simp only [bind_ok] at read ⊢
    obtain ⟨more,named,asked,read⟩ := read
    cases more with
    | true =>
      simp only [if_true,bind_ok] at read
      obtain ⟨filled,after,fieldRead,read⟩ := read
      obtain ⟨filled',otherRead,related⟩ := mirrors.read room s t _ _ _ related fieldRead
      obtain ⟨t',done,ends⟩ := ih (index + 1) false filled filled' after related read
      exact ⟨t',⟨true,named,asked,(bind_ok _ _ _ _).mpr ⟨filled',after,otherRead,done⟩⟩,ends⟩
    | false =>
      simp only [Bool.false_eq_true,if_false] at read
      cases optional : field.optional with
      | false => simp [optional] at read
      | true =>
        rw [if_pos optional] at read
        obtain ⟨t',done,ends⟩ := ih (index + 1) first s t named related read
        refine ⟨t',⟨false,named,asked,?_⟩,ends⟩
        rw [if_neg (by simp),if_pos (by rw [mirrors.optional,optional])]
        exact done

/-- Whenever a structure is decoded, so is the one with the other fields, from as much of the text. -/
theorem decodeStructure_mirrored (type : String) (empty : σ) (empty' : τ) (start : R empty empty')
    (room : Nat) (text : List Char) (s' : σ) (rest : List Char)
    (read : decodeStructure type fields empty room text = .ok (s', rest)) :
    ∃ t', decodeStructure type others empty' room text = .ok (t', rest) ∧ R s' t' := by
  unfold decodeStructure at read ⊢
  rw [bind_ok] at read
  obtain ⟨c,opened,peeked,read⟩ := read
  rw [bind_of_ok _ _ _ _ _ peeked]
  split at read
  · cases room with
    | zero => cases read
    | succ room =>
      simp only [entering,bind_ok] at read ⊢
      obtain ⟨_,inner,entered,found,after,filled,_,closed,ended,returned⟩ := read
      cases returned
      obtain ⟨t',done,ends⟩ := fillInOrder_mirrored R fields others mirrored _ room 0 true empty empty'
        inner _ after start filled
      rw [mirrored.length_eq] at done
      exact ⟨t',⟨(),inner,entered,t',after,done,(),_,ended,rfl⟩,ends⟩
  · cases room with
    | zero => cases read
    | succ room =>
      simp only [entering,bind_ok] at read ⊢
      obtain ⟨_,inner,entered,limit,whole,counted,found,after,filled,read⟩ := read
      obtain ⟨t',done,ends⟩ := fillByName_mirrored R fields others mirrored room limit true empty empty'
        whole found after start filled
      have missing := find_mirrored R fields others mirrored
        (fun field => !field.optional && !field.filled found)
        (fun other => !other.optional && !other.filled t')
        fun field other mirrors => by rw [mirrors.optional,mirrors.filled found t' ends]
      cases absent : fields.find? (fun field => !field.optional && !field.filled found) with
      | some field =>
        rw [absent] at read
        cases read
      | none =>
        rw [absent] at missing read
        dsimp only at read
        rw [bind_ok] at read
        obtain ⟨_,_,ended,returned⟩ := read
        cases returned
        refine ⟨t',⟨(),inner,entered,limit,whole,counted,t',after,done,?_⟩,ends⟩
        generalize others.find? (fun other => !other.optional && !other.filled t') = other? at missing ⊢
        cases missing
        exact (bind_ok _ _ _ _).mpr ⟨(),_,ended,rfl⟩
  · exact absurd read (mismatch_error type opened _)

end Mirrors

theorem decodeStructure_keeps {σ : Type} (P : σ → Prop) (fields : List (Field σ))
    (kept : ∀ field ∈ fields, ∀ room s text s' rest, P s → field.read room s text = .ok (s', rest) → P s')
    (type : String) (empty : σ) (start : P empty) (room : Nat) (text : List Char) (s' : σ)
    (rest : List Char) (read : decodeStructure type fields empty room text = .ok (s', rest)) : P s' := by
  have mirrored : List.Forall₂ (Mirrors fun s t => s = t ∧ P s) fields fields := by
    refine List.forall₂_same.mpr fun field inside => ⟨rfl,rfl,?_,?_⟩
    · rintro s _ ⟨rfl,_⟩
      rfl
    · rintro room s _ text s' rest ⟨rfl,holds⟩ taken
      exact ⟨s',taken,rfl,kept field inside room s text s' rest holds taken⟩
  obtain ⟨_,_,_,holds⟩ := decodeStructure_mirrored _ fields fields mirrored type empty empty ⟨rfl,start⟩
    room text s' rest read
  exact holds

end Proctor.Json
