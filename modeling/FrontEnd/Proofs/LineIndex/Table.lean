import FrontEnd.LineIndex
import FrontEnd.Proofs.Text.LineFeeds

/-!
# The table of line starts

The bytes of a text of fewer than 2^32 bytes give the line starts that its characters have
(`toNat_starts`), and halving the table finds the line of an offset. So an offset is placed where its
line and column are by counting: the line as far as 32 bits go, and nowhere if they do not hold the
column (`locate_ofText`).
-/

namespace FrontEnd.LineIndex

open Text

variable {text : String} {before rest : List Char} {starts : Array UInt32}

/-! ### Reading the bytes -/

lemma scanFrom_eq_self {offset : Nat} (h : text.utf8ByteSize ≤ offset) (starts : Array UInt32) :
    scanFrom text starts offset = starts := by
  rw [scanFrom, dif_neg (Nat.not_lt.2 h)]

/-- Bytes that are no line feed leave the table as it is. -/
lemma scanFrom_add {offset width : Nat} (hsize : offset + width ≤ text.utf8ByteSize)
    (hbytes : ∀ i h, i < width → text.getUTF8Byte ⟨offset + i⟩ h ≠ 10) (starts : Array UInt32) :
    scanFrom text starts (offset + width) = scanFrom text starts offset := by
  induction width with
  | zero => rfl
  | succ width ih =>
    have hlt : offset + width < text.utf8ByteSize := by omega
    have hstep : scanFrom text starts (offset + width) = scanFrom text starts (offset + width + 1) := by
      rw [scanFrom, dif_pos hlt, if_neg (hbytes width hlt (Nat.lt_succ_self width))]
    exact hstep.symm.trans (ih (by omega) fun i h hi => hbytes i h (by omega))

lemma scanFrom_lineFeed (hfits : text.utf8ByteSize < UInt32.size)
    (htext : text.toList = before ++ '\n' :: rest) (starts : Array UInt32) :
    scanFrom text starts (byteCount before) =
      scanFrom text (starts.push (UInt32.ofNat (byteCount before + 1))) (byteCount before + 1) := by
  have hsize := utf8ByteSize_eq htext
  rw [byteCount_cons, show '\n'.utf8Size = 1 from rfl] at hsize
  have hlt : byteCount before < text.utf8ByteSize := by omega
  have hbyte : text.getUTF8Byte ⟨byteCount before⟩ hlt = 10 :=
    List.mem_singleton.1 (getUTF8Byte_mem (i := 0) htext (by decide) hlt)
  rw [scanFrom, dif_pos hlt, if_pos hbyte, if_pos (by omega)]

/-- Behind some characters, the bytes add the line starts of the characters that follow. -/
lemma toList_scanFrom (hfits : text.utf8ByteSize < UInt32.size)
    (htext : text.toList = before ++ rest) (starts : Array UInt32) :
    (scanFrom text starts (byteCount before)).toList =
      starts.toList ++ (lineFeedsFrom (byteCount before) rest).map fun p => UInt32.ofNat (p + 1) := by
  induction rest generalizing before starts with
  | nil =>
    rw [scanFrom_eq_self (by simp [utf8ByteSize_eq htext])]
    simp [lineFeedsFrom]
  | cons ch rest ih =>
    have htext' : text.toList = (before ++ [ch]) ++ rest := by simpa using htext
    have hcount : byteCount (before ++ [ch]) = byteCount before + ch.utf8Size := by simp
    have hrest := ih htext'
    rw [hcount] at hrest
    rw [lineFeedsFrom]
    by_cases hch : ch = '\n'
    · subst hch
      rw [scanFrom_lineFeed hfits htext, show byteCount before + 1 = _ from hcount.symm, hcount, hrest]
      simp [show '\n'.utf8Size = 1 from rfl]
    · have hsize : byteCount before + ch.utf8Size ≤ text.utf8ByteSize := by
        rw [utf8ByteSize_eq htext']
        omega
      have hskip := scanFrom_add hsize
        (fun i h hi he => lineFeed_not_mem hch (he ▸ getUTF8Byte_mem htext hi h)) starts
      rw [if_neg hch, ← hskip, hrest]

/-- The table holds the line starts of the text. -/
lemma toNat_starts (hfits : text.utf8ByteSize < UInt32.size) :
    (ofText text).starts.toList.map UInt32.toNat = lineStarts text := by
  have htable := toList_scanFrom hfits (List.nil_append text.toList).symm #[0]
  rw [byteCount_nil] at htable
  rw [ofText, htable, lineStarts, List.map_append, List.map_map]
  refine congrArg (0 :: ·) (List.map_congr_left fun p hp => ?_)
  have hlt := (mem_lineFeedsFrom hp).2
  rw [byteCount_toList] at hlt
  exact UInt32.toNat_ofNat_of_lt' (by omega)

lemma getElem?_starts (hfits : text.utf8ByteSize < UInt32.size) (i : Nat) :
    (ofText text).starts[i]?.map UInt32.toNat = (lineStarts text)[i]? := by
  rw [← toNat_starts hfits, List.getElem?_map, Array.getElem?_toList]

lemma lineCount_eq (hfits : text.utf8ByteSize < UInt32.size) :
    (ofText text).lineCount = (lineStarts text).length := by
  rw [← toNat_starts hfits, List.length_map]
  rfl

lemma toNat_len (hfits : text.utf8ByteSize < UInt32.size) :
    (ofText text).len.toNat = text.utf8ByteSize := by
  rw [ofText, UInt32.toNat_ofNatClamp_of_lt hfits]

/-! ### Halving the table -/

/-- Halving finds how many starts are at most the offset, if these are the first ones. -/
lemma linesUpTo_eq {offset : UInt32} {n lo hi : Nat}
    (h : ∀ i < starts.size, starts.getD i 0 ≤ offset ↔ i < n) (hlo : lo ≤ n) (hhi : n ≤ hi)
    (hsize : hi ≤ starts.size) : linesUpTo starts offset lo hi = n := by
  fun_induction linesUpTo starts offset lo hi with
  | case1 lo hi hlt mid hle ih =>
    have hmid := (h mid (by omega)).1 hle
    exact ih hmid hhi hsize
  | case2 lo hi hlt mid hnot ih =>
    have hmid := mt (h mid (by omega)).2 hnot
    exact ih hlo (by omega) (by omega)
  | case3 lo hi hlt => omega

/-- The offset that is looked up: none is past the end. -/
lemma toNat_clamp (hfits : text.utf8ByteSize < UInt32.size) (offset : UInt32) :
    (if offset ≤ (ofText text).len then offset else (ofText text).len).toNat =
      min offset.toNat text.utf8ByteSize := by
  have hlen := toNat_len hfits
  split
  next h =>
    rw [UInt32.le_iff_toNat_le] at h
    omega
  next h =>
    rw [UInt32.le_iff_toNat_le] at h
    omega

lemma linesUpTo_ofText (hfits : text.utf8ByteSize < UInt32.size) (offset : UInt32) :
    linesUpTo (ofText text).starts offset 0 (ofText text).starts.size =
      lineAt text offset.toNat := by
  have hcount : (ofText text).starts.size = (lineStarts text).length := lineCount_eq hfits
  apply linesUpTo_eq
  · intro i hi
    have hstart := getElem?_starts hfits i
    rw [Array.getElem?_eq_getElem hi, Option.map_some, List.getElem?_eq_getElem (hcount ▸ hi),
      Option.some.injEq] at hstart
    rw [← getElem_lineStarts_le_iff (hcount ▸ hi), ← hstart, ← UInt32.le_iff_toNat_le,
      Array.getD, dif_pos hi]
    rfl
  · exact Nat.zero_le _
  · exact hcount ▸ lineAt_le_length text _
  · exact Nat.le_refl _

/-- The start of the line of an offset is in the table. -/
lemma exists_start (hfits : text.utf8ByteSize < UInt32.size) (k : Nat) :
    ∃ start, (ofText text).starts[lineAt text k - 1]? = some start ∧
      start.toNat = lineBegin text k := by
  have h := getElem?_starts hfits (lineAt text k - 1)
  rwa [getElem?_lineStarts_lineAt, Option.map_eq_some_iff] at h

/-- A column is one more than the bytes since the line start, or it is refused. -/
lemma column_eq {start offset : UInt32} {n : Nat} (hle : start ≤ offset)
    (hn : offset.toNat - start.toNat + 1 = n) :
    column start offset = if n < UInt32.size then .ok (UInt32.ofNat n) else .error .add := by
  rw [column, Checked.sub_of_le hle]
  apply Checked.add_eq
  rw [UInt32.toNat_sub_of_le offset start hle]
  exact hn

/-- An offset is placed by counting line feeds, as long as the column fits 32 bits. -/
lemma locate_ofText (hfits : text.utf8ByteSize < UInt32.size) {offset : UInt32} {k : Nat}
    (hk : min offset.toNat text.utf8ByteSize = k) :
    (ofText text).locate offset =
      if columnAt text k < UInt32.size then
        .ok ⟨UInt32.ofNatClamp (lineAt text k), UInt32.ofNat (columnAt text k)⟩
      else .error .add := by
  have hclamp := toNat_clamp hfits offset
  rw [hk] at hclamp
  rw [locate]
  generalize (if offset ≤ (ofText text).len then offset else (ofText text).len) = o at hclamp
  obtain ⟨start, hstart, hbegin⟩ := exists_start hfits k
  have hle : start ≤ o := by
    rw [UInt32.le_iff_toNat_le, hbegin, hclamp]
    exact lineBegin_le text k
  have hcol : o.toNat - start.toNat + 1 = columnAt text k := by
    rw [columnAt, hclamp, hbegin, Nat.add_comm]
  simp only [linesUpTo_ofText hfits, hclamp, Array.getD_eq_getD_getElem?, hstart, Option.getD_some,
    column_eq hle hcol]
  split <;> rfl

end FrontEnd.LineIndex
