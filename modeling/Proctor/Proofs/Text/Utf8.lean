import Proctor.Proofs.Text.Segments
import Proctor.Text.Utf8

/-! The bytes of a text decode to the text, and the lines of the bytes are the bytes of the lines. -/
namespace Proctor.Text.Utf8

/-! ### Bytes by their numbers -/

private theorem width_eq (b : UInt8) : width b =
    if b.toNat < 0x80 then 1 else if b.toNat < 0xc2 then 0 else if b.toNat < 0xe0 then 2
      else if b.toNat < 0xf0 then 3 else if b.toNat < 0xf5 then 4 else 0 := by
  simp [width,UInt8.lt_iff_toNat_lt]

private theorem follows_iff (b c : UInt8) : follows b c = true ↔
    (if b.toNat = 0xe0 then 0xa0 else if b.toNat = 0xf0 then 0x90 else 0x80) ≤ c.toNat ∧
    c.toNat < if b.toNat = 0xed then 0xa0 else if b.toNat = 0xf4 then 0x90 else 0xc0 := by
  simp only [follows,isContinuation,← UInt8.toNat_inj,UInt8.lt_iff_toNat_lt,UInt8.le_iff_toNat_le,
    UInt8.reduceToNat]
  grind

private theorem later_continues (b : UInt8) (n : Nat) (later : b.toNat = n % 64 + 128) :
    isContinuation b = true := by
  simp only [isContinuation,UInt8.lt_iff_toNat_lt,UInt8.le_iff_toNat_le,UInt8.reduceToNat]
  grind

private theorem toNat_ofNat_small (n : Nat) (small : n < 256) : (UInt8.ofNat n).toNat = n := by
  simp [Nat.mod_eq_of_lt small]

private theorem toNat_later (n : Nat) : (UInt8.ofNat (n % 64 + 128)).toNat = n % 64 + 128 :=
  toNat_ofNat_small _ (by omega)

/-! ### Characters by how many bytes they take -/

section Characters
variable (v : Nat) (b c d e : UInt8) (rest : List UInt8)

private theorem decodeLossy_one (small : v < 0x80) (lead : b.toNat = v) :
    decodeLossy (b :: rest) = Char.ofNat v :: decodeLossy rest := by
  have wide : width b = 1 := by
    rw [width_eq,lead,if_pos small]
  have char : assemble 1 b [] = Char.ofNat v := congrArg Char.ofNat lead
  rw [decodeLossy.eq_def]
  simp [wide,char]

private theorem decodeLossy_two (large : 0x80 ≤ v) (small : v < 0x800) (lead : b.toNat = v / 64 % 32 + 192)
    (second : c.toNat = v % 64 + 128) :
    decodeLossy (b :: c :: rest) = Char.ofNat v :: decodeLossy rest := by
  have wide : width b = 2 := by grind [width_eq]
  have next : follows b c = true := by grind [follows_iff]
  have char : assemble 2 b [c] = Char.ofNat v := by
    change Char.ofNat (b.toNat % 32 * 64 + c.toNat % 64) = _
    exact congrArg Char.ofNat (by omega)
  rw [decodeLossy.eq_def]
  simp [wide,next,char]

private theorem decodeLossy_three (large : 0x800 ≤ v) (small : v < 0x10000)
    (scalar : v < 0xd800 ∨ 0xdfff < v) (lead : b.toNat = v / 4096 % 16 + 224)
    (second : c.toNat = v / 64 % 64 + 128) (third : d.toNat = v % 64 + 128) :
    decodeLossy (b :: c :: d :: rest) = Char.ofNat v :: decodeLossy rest := by
  have wide : width b = 3 := by grind [width_eq]
  have next : follows b c = true := by grind [follows_iff]
  have char : assemble 3 b [c, d] = Char.ofNat v := by
    change Char.ofNat ((b.toNat % 16 * 64 + c.toNat % 64) * 64 + d.toNat % 64) = _
    exact congrArg Char.ofNat (by omega)
  rw [decodeLossy.eq_def]
  simp [wide,next,later_continues d v third,char]

private theorem decodeLossy_four (large : 0x10000 ≤ v) (small : v < 0x110000)
    (lead : b.toNat = v / 262144 % 8 + 240) (second : c.toNat = v / 4096 % 64 + 128)
    (third : d.toNat = v / 64 % 64 + 128) (fourth : e.toNat = v % 64 + 128) :
    decodeLossy (b :: c :: d :: e :: rest) = Char.ofNat v :: decodeLossy rest := by
  have wide : width b = 4 := by grind [width_eq]
  have next : follows b c = true := by grind [follows_iff]
  have char : assemble 4 b [c, d, e] = Char.ofNat v := by
    change Char.ofNat (((b.toNat % 8 * 64 + c.toNat % 64) * 64 + d.toNat % 64) * 64 +
      e.toNat % 64) = _
    exact congrArg Char.ofNat (by omega)
  rw [decodeLossy.eq_def]
  simp [wide,next,later_continues d _ third,later_continues e v fourth,char]

end Characters

private theorem decodeLossy_char (char : Char) (rest : List UInt8) :
    decodeLossy (String.utf8EncodeChar char ++ rest) = char :: decodeLossy rest := by
  have scalar : char.val.toNat < 0xd800 ∨ 0xdfff < char.val.toNat ∧ char.val.toNat < 0x110000 :=
    char.valid
  refine Eq.trans ?_ (congrArg (· :: decodeLossy rest) (Char.ofNat_toNat char))
  unfold String.utf8EncodeChar
  dsimp only [Char.toNat]
  generalize char.val.toNat = v at scalar
  split
  · exact decodeLossy_one v _ rest (by omega) (toNat_ofNat_small _ (by omega))
  split
  · exact decodeLossy_two v _ _ rest (by omega) (by omega) (toNat_ofNat_small _ (by omega))
      (toNat_later v)
  split
  · exact decodeLossy_three v _ _ _ rest (by omega) (by omega) (by omega)
      (toNat_ofNat_small _ (by omega)) (toNat_later _) (toNat_later v)
  · exact decodeLossy_four v _ _ _ _ rest (by omega) (by omega) (toNat_ofNat_small _ (by omega))
      (toNat_later _) (toNat_later _) (toNat_later v)

/-! ### Texts -/

private theorem decodeLossy_encode (text : List Char) : decodeLossy (encode text) = text := by
  induction text with
  | nil => rfl
  | cons char text ih =>
    rw [encode,List.flatMap_cons,decodeLossy_char]
    exact congrArg _ ih

theorem decode?_encode (text : List Char) : decode? (encode text) = some text := by
  simp [decode?,decodeLossy_encode]

/-! ### Lines -/

theorem encode_append (front back : List Char) : encode (front ++ back) = encode front ++ encode back :=
  List.flatMap_append

theorem encode_nil_iff (text : List Char) : encode text = [] ↔ text = [] := by
  cases text <;> simp [encode,String.utf8EncodeChar_ne_nil]

private theorem large_bytes (char : Char) (large : 0x80 ≤ char.val.toNat) :
    ∀ byte ∈ String.utf8EncodeChar char, 0x80 ≤ byte.toNat := by
  unfold String.utf8EncodeChar
  dsimp only
  generalize char.val.toNat = v at large
  split
  · omega
  split
  · simp only [List.forall_mem_cons,UInt8.toNat_ofNat',List.not_mem_nil,false_imp_iff,implies_true,
      and_true]
    omega
  split
  · simp only [List.forall_mem_cons,UInt8.toNat_ofNat',List.not_mem_nil,false_imp_iff,implies_true,
      and_true]
    omega
  · simp only [List.forall_mem_cons,UInt8.toNat_ofNat',List.not_mem_nil,false_imp_iff,implies_true,
      and_true]
    omega

/-- A byte below 0x80 is no part of a longer character. -/
theorem char_of_small_byte (char x : Char) (small : x.toNat < 0x80)
    (member : UInt8.ofNat x.toNat ∈ String.utf8EncodeChar char) : char = x := by
  have value : (UInt8.ofNat x.toNat).toNat = x.toNat := toNat_ofNat_small _ (by omega)
  by_cases large : 0x80 ≤ char.val.toNat
  · have bound := large_bytes char large _ member
    omega
  · have alone : String.utf8EncodeChar char = [UInt8.ofNat char.toNat] := by
      unfold String.utf8EncodeChar
      exact if_pos (by omega)
    rw [alone,List.mem_singleton] at member
    have same := congrArg UInt8.toNat member
    rw [value,toNat_ofNat_small _ (by change char.val.toNat < 256; omega)] at same
    exact Char.toNat_inj.mp same.symm

private theorem small_mem_encode (text : List Char) (x : Char) (small : x.toNat < 0x80)
    (member : UInt8.ofNat x.toNat ∈ encode text) : x ∈ text := by
  obtain ⟨char,inside,member⟩ := List.mem_flatMap.mp member
  rwa [← char_of_small_byte char x small member]

theorem cut_encode {text : List Char} {complete : List (List Char)} {last : List Char}
    (cut : Cut '\n' text complete last) :
    Cut 0x0a (encode text) (complete.map encode) (encode last) where
  joined := by
    have ended (line : List Char) : encode (line ++ ['\n']) = encode line ++ [0x0a] :=
      encode_append line ['\n']
    rw [cut.joined,encode_append,encode,List.flatMap_assoc,List.flatMap_map]
    exact congrArg (List.flatMap · complete ++ encode last) (funext ended)
  apart := by
    intro _ member inside
    obtain ⟨line,inList,rfl⟩ := List.mem_map.mp member
    exact cut.apart line inList (small_mem_encode line '\n' (by decide) inside)
  last inside := cut.last (small_mem_encode last '\n' (by decide) inside)

theorem utf8ByteSize_eq (text : List Char) : (String.ofList text).utf8ByteSize = (encode text).length := by
  rw [← String.size_toByteArray,String.toByteArray_ofList]
  simp [List.utf8Encode,encode]

theorem getElem?_encode (text : String) (i : Nat) (inside : i < text.toByteArray.size) :
    (encode text.toList)[i]? = some text.toByteArray[i] := by
  have bytes : text.toByteArray.data.toList = encode text.toList := by
    rw [← String.utf8Encode_toList]
    simp [List.utf8Encode,encode]
  rw [← bytes]
  exact List.getElem?_eq_getElem (by simpa using inside)

theorem dropFinal_encode (line : List Char) :
    dropFinal 0x0d (encode line) = encode (dropFinal '\r' line) := by
  rcases List.eq_nil_or_concat line with rfl | ⟨body,char,rfl⟩
  · rfl
  rw [List.concat_eq_append]
  by_cases final : char = '\r'
  · subst final
    have ended : encode (body ++ ['\r']) = encode body ++ [0x0d] := encode_append body ['\r']
    rw [dropFinal_append,ended,dropFinal_append]
  · rw [dropFinal_bare '\r' _ (by simp [final]),dropFinal_bare]
    intro last
    have single : encode [char] = String.utf8EncodeChar char := List.append_nil _
    rw [encode_append,single,List.getLast?_append,Option.or_eq_some_iff] at last
    rcases last with last | ⟨none,-⟩
    · exact final (char_of_small_byte char '\r' (by decide) (List.mem_of_getLast? last))
    · exact String.utf8EncodeChar_ne_nil (List.getLast?_eq_none_iff.mp none)

end Proctor.Text.Utf8
