import Mathlib.Tactic.Lemma

/-!
# The bytes of characters

A text is the bytes of its characters, one character after the other: the bytes behind the
characters `before` are those of the next one (`getUTF8Byte_mem`). The byte of a line feed stands for
nothing but a line feed.
-/

namespace FrontEnd

/-- The number of bytes of some characters, whatever it is. -/
def byteCount (chars : List Char) : Nat := chars.foldr (fun ch n => ch.utf8Size + n) 0

@[simp] lemma byteCount_nil : byteCount [] = 0 := rfl

@[simp] lemma byteCount_cons (ch : Char) (chars : List Char) :
    byteCount (ch :: chars) = ch.utf8Size + byteCount chars := rfl

@[simp] lemma byteCount_append (xs ys : List Char) :
    byteCount (xs ++ ys) = byteCount xs + byteCount ys := by
  induction xs with
  | nil => simp
  | cons ch xs ih => simp [ih, Nat.add_assoc]

@[simp] lemma byteCount_reverse (chars : List Char) : byteCount chars.reverse = byteCount chars := by
  induction chars with
  | nil => rfl
  | cons ch chars ih => simp [ih, Nat.add_comm]

@[simp] lemma utf8ByteSize_ofList (chars : List Char) :
    (String.ofList chars).utf8ByteSize = byteCount chars := by
  induction chars with
  | nil => rfl
  | cons ch chars ih =>
    rw [show ch :: chars = [ch] ++ chars from rfl, String.ofList_append, String.utf8ByteSize_append,
      ih, ← String.singleton_eq_ofList, String.utf8ByteSize_singleton]
    simp

lemma byteCount_toList (text : String) : byteCount text.toList = text.utf8ByteSize := by
  rw [← utf8ByteSize_ofList, String.ofList_toList]

lemma utf8ByteSize_eq {text : String} {before after : List Char} (h : text.toList = before ++ after) :
    text.utf8ByteSize = byteCount before + byteCount after := by
  rw [← byteCount_toList, h, byteCount_append]

lemma length_le_byteCount (chars : List Char) : chars.length ≤ byteCount chars := by
  induction chars with
  | nil => exact Nat.le_refl _
  | cons ch chars ih =>
    have hpos := ch.utf8Size_pos
    rw [List.length_cons, byteCount_cons]
    omega

lemma byteCount_replicate (n : Nat) (ch : Char) :
    byteCount (List.replicate n ch) = n * ch.utf8Size := by
  induction n with
  | zero => simp
  | succ n ih => rw [List.replicate_succ, byteCount_cons, ih, Nat.succ_mul, Nat.add_comm]

/-- The bytes behind some characters are those of the next character. -/
lemma getUTF8Byte_mem {text : String} {before after : List Char} {ch : Char} {i : Nat}
    (htext : text.toList = before ++ ch :: after) (hi : i < ch.utf8Size)
    (h : (⟨byteCount before + i⟩ : String.Pos.Raw) < text.rawEndPos) :
    text.getUTF8Byte ⟨byteCount before + i⟩ h ∈ String.utf8EncodeChar ch := by
  have hbytes : text.toByteArray =
      before.utf8Encode ++ ((String.utf8EncodeChar ch).toByteArray ++ after.utf8Encode) := by
    rw [← String.utf8Encode_toList, htext, List.utf8Encode_append, List.utf8Encode_cons,
      List.utf8Encode_singleton]
  have hsize : before.utf8Encode.size = byteCount before := by
    rw [← String.toByteArray_ofList, String.size_toByteArray, utf8ByteSize_ofList]
  simp only [String.getUTF8Byte_eq_getElem, hbytes]
  rw [ByteArray.getElem_append_right (by omega)]
  simp only [hsize, Nat.add_sub_cancel_left]
  rw [ByteArray.getElem_append_left (by simpa using hi)]
  simp

lemma lineFeed_not_mem {ch : Char} (h : ch ≠ '\n') : (10 : UInt8) ∉ String.utf8EncodeChar ch := by
  have hne : ch.val.toNat ≠ 10 := fun hval => h (Char.ext (UInt32.toNat_inj.1 hval))
  fun_cases String.utf8EncodeChar ch <;> simp [← UInt8.toNat_inj] <;> omega

end FrontEnd
