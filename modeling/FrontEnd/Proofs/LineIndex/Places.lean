import FrontEnd.Proofs.LineIndex.Table
import FrontEnd.Span

/-!
# Places by counting

The place of a byte offset is what counting the characters in front of it gives
(`locate_counts_lineFeeds`). In a text of 2^32 - 1 bytes, the longest that is opened, this ends with
the last offset: the column behind a single line overflows, so that there is no place, and the line
behind nothing but line feeds saturates. No other offset is touched
(`locate_overflows_at_longest_end`).
-/

namespace FrontEnd.LineIndex

open Text

variable {text : String} {k : Nat}

lemma columnAt_le (text : String) (k : Nat) : columnAt text k ≤ k + 1 := by
  rw [columnAt]
  omega

lemma lineAt_le (text : String) (k : Nat) : lineAt text k ≤ k + 1 :=
  Nat.le_trans (lineAt_le_lineBegin text k) (Nat.succ_le_succ (lineBegin_le text k))

/-- There is no place exactly if the column needs more than 32 bits. -/
lemma locate_eq_error_iff (hfits : text.utf8ByteSize < UInt32.size) {offset : UInt32}
    {overflow : Overflow} (hk : min offset.toNat text.utf8ByteSize = k) :
    (ofText text).locate offset = .error overflow ↔
      overflow = .add ∧ UInt32.size ≤ columnAt text k := by
  rw [locate_ofText hfits hk, ← Nat.not_lt]
  by_cases hcol : columnAt text k < UInt32.size
  · rw [if_pos hcol]
    exact iff_of_false nofun fun h => h.2 hcol
  · rw [if_neg hcol, Except.error.injEq, eq_comm, and_iff_left hcol]

lemma exists_locate (hfits : text.utf8ByteSize < UInt32.size) {offset : UInt32}
    (hk : min offset.toNat text.utf8ByteSize = k) (hcol : columnAt text k < UInt32.size) :
    ∃ place, (ofText text).locate offset = .ok place := by
  rw [locate_ofText hfits hk, if_pos hcol]
  exact ⟨_, rfl⟩

/-- The column of a place is exact, and its line goes as far as 32 bits do. -/
lemma of_locate (hfits : text.utf8ByteSize < UInt32.size) {offset : UInt32}
    (hk : min offset.toNat text.utf8ByteSize = k) {place : LineCol}
    (hplace : (ofText text).locate offset = .ok place) :
    place.line = UInt32.ofNatClamp (lineAt text k) ∧ place.col.toNat = columnAt text k := by
  rw [locate_ofText hfits hk] at hplace
  split at hplace
  next hcol =>
    cases hplace
    exact ⟨rfl, UInt32.toNat_ofNat_of_lt' hcol⟩
  next => cases hplace

/-- In a text short of the longest, no line needs more than 32 bits. -/
lemma toNat_of_locate (hlen : text.utf8ByteSize < UInt32.size - 1) {offset : UInt32}
    (hk : min offset.toNat text.utf8ByteSize = k) {place : LineCol}
    (hplace : (ofText text).locate offset = .ok place) :
    place.line.toNat = lineAt text k ∧ place.col.toNat = columnAt text k := by
  have hle := lineAt_le text k
  obtain ⟨hline, hcol⟩ := of_locate (by omega) hk hplace
  refine ⟨?_, hcol⟩
  rw [hline]
  exact UInt32.toNat_ofNatClamp_of_lt (by omega)

/-- In a text short of the longest, no column needs more than 32 bits. -/
lemma exists_locate_exact (hlen : text.utf8ByteSize < UInt32.size - 1) {offset : UInt32}
    (hk : min offset.toNat text.utf8ByteSize = k) :
    ∃ place, (ofText text).locate offset = .ok place ∧
      place.line.toNat = lineAt text k ∧ place.col.toNat = columnAt text k := by
  have hfits : text.utf8ByteSize < UInt32.size := by omega
  have hcol := columnAt_le text k
  obtain ⟨place, hplace⟩ := exists_locate hfits hk (by omega)
  exact ⟨place, hplace, toNat_of_locate hlen hk hplace⟩

/-- Looking an offset up gives the line and the column that counting gives: the line is one more than
the line feeds in front of the offset, the column one more than the bytes since the last of them. -/
theorem locate_counts_lineFeeds (text : String) (hlen : text.utf8ByteSize < UInt32.size - 1) :
    (ofText text).lineCount = 1 + text.toList.count '\n' ∧
      ∀ offset : UInt32, ∃ place, (ofText text).locate offset = .ok place ∧
        place.line.toNat = lineAt text (min offset.toNat text.utf8ByteSize) ∧
          place.col.toNat = columnAt text (min offset.toNat text.utf8ByteSize) := by
  have hfits : text.utf8ByteSize < UInt32.size := by omega
  exact ⟨(lineCount_eq hfits).trans (length_lineStarts text), fun offset => exists_locate_exact hlen rfl⟩

theorem locate_counts_behind_wide :
    "é\n日\r\nx".utf8ByteSize < UInt32.size - 1 ∧
      (ofText "é\n日\r\nx").lineCount = 3 ∧
      (∃ place, (ofText "é\n日\r\nx").locate 5 = .ok place ∧
        place.line.toNat = 2 ∧ place.col.toNat = 3) ∧
      ∃ last, (ofText "é\n日\r\nx").locate 99 = .ok last ∧
        last.line.toNat = 3 ∧ last.col.toNat = 2 := by
  have hlen : "é\n日\r\nx".utf8ByteSize < UInt32.size - 1 := by decide
  obtain ⟨hcount, hplaces⟩ := locate_counts_lineFeeds "é\n日\r\nx" hlen
  obtain ⟨place, hplace, hline, hcol⟩ := hplaces 5
  obtain ⟨last, hlast, hlastline, hlastcol⟩ := hplaces 99
  refine ⟨hlen, hcount.trans ?_, ⟨place, hplace, hline.trans ?_, hcol.trans ?_⟩, last, hlast,
    hlastline.trans ?_, hlastcol.trans ?_⟩
  all_goals decide +kernel

/-! ### The longest texts -/

lemma toNat_ofNatClamp_eq_iff {n : Nat} : (UInt32.ofNatClamp n).toNat = n ↔ n < UInt32.size := by
  constructor
  · intro h
    exact h ▸ UInt32.toNat_lt_size _
  · exact UInt32.toNat_ofNatClamp_of_lt

/-- The last offset of a text as long as a document may be. -/
def AtLongestEnd (text : String) (offset : UInt32) : Prop :=
  text.utf8ByteSize = UInt32.size - 1 ∧ offset.toNat = UInt32.size - 1

lemma atLongestEnd_iff (hfits : text.utf8ByteSize < UInt32.size) {offset : UInt32}
    (hk : min offset.toNat text.utf8ByteSize = k) : AtLongestEnd text offset ↔ k = UInt32.size - 1 := by
  have hlt := offset.toNat_lt_size
  rw [AtLongestEnd]
  omega

/-- A line needs more than 32 bits only behind as many line feeds as a text can have. -/
lemma size_le_lineAt_iff (hfits : text.utf8ByteSize < UInt32.size) (hk : k ≤ text.utf8ByteSize) :
    UInt32.size ≤ lineAt text k ↔ k = UInt32.size - 1 ∧ ∀ ch ∈ text.toList, ch = '\n' := by
  have hle := lineAt_le text k
  have hcount := count_lineFeed_le text
  have hend : text.utf8ByteSize ≤ k → lineAt text k = 1 + text.toList.count '\n' := lineAt_of_size_le
  rw [← count_lineFeed_eq_iff]
  omega

/-- A column needs more than 32 bits only behind a line as long as a text can be. -/
lemma size_le_columnAt_iff (hfits : text.utf8ByteSize < UInt32.size) (hk : k ≤ text.utf8ByteSize) :
    UInt32.size ≤ columnAt text k ↔ k = UInt32.size - 1 ∧ '\n' ∉ text.toList := by
  have hsum := lineBegin_add_columnAt text k
  have hend : text.utf8ByteSize ≤ k → (lineBegin text k = 0 ↔ '\n' ∉ text.toList) :=
    lineBegin_eq_zero_iff
  constructor
  · intro hcol
    exact ⟨by omega, (hend (by omega)).1 (by omega)⟩
  · rintro ⟨hlast, hnone⟩
    have hzero := (hend (by omega)).2 hnone
    omega

lemma line_of_longest (hfits : text.utf8ByteSize < UInt32.size) {offset : UInt32}
    (hend : AtLongestEnd text offset) (hall : ∀ ch ∈ text.toList, ch = '\n') :
    lineAt text (UInt32.size - 1) = UInt32.size ∧
      ∃ place, (ofText text).locate offset = .ok place ∧ place.line.toNat = UInt32.size - 1 := by
  have hk : min offset.toNat text.utf8ByteSize = UInt32.size - 1 := by rw [hend.1, hend.2, Nat.min_self]
  have hle : UInt32.size - 1 ≤ text.utf8ByteSize := Nat.le_of_eq hend.1.symm
  have hline := (size_le_lineAt_iff hfits hle).2 ⟨rfl, hall⟩
  have hmem : '\n' ∈ text.toList := by
    apply List.count_pos_iff.1
    rw [(count_lineFeed_eq_iff text).2 hall, hend.1]
    decide
  have hcol : columnAt text (UInt32.size - 1) < UInt32.size :=
    Nat.lt_of_not_le fun hlong => ((size_le_columnAt_iff hfits hle).1 hlong).2 hmem
  obtain ⟨place, hplace⟩ := exists_locate hfits hk hcol
  refine ⟨Nat.le_antisymm (lineAt_le text (UInt32.size - 1)) hline, place, hplace, ?_⟩
  rw [(of_locate hfits hk hplace).1]
  exact UInt32.toNat_ofNatClamp_of_le hline

lemma col_of_longest (hfits : text.utf8ByteSize < UInt32.size) {offset : UInt32}
    (hend : AtLongestEnd text offset) (hnone : '\n' ∉ text.toList) :
    columnAt text (UInt32.size - 1) = UInt32.size ∧ (ofText text).locate offset = .error .add := by
  have hk : min offset.toNat text.utf8ByteSize = UInt32.size - 1 := by rw [hend.1, hend.2, Nat.min_self]
  have hcol := (size_le_columnAt_iff hfits (Nat.le_of_eq hend.1.symm)).2 ⟨rfl, hnone⟩
  exact ⟨Nat.le_antisymm (columnAt_le text (UInt32.size - 1)) hcol,
    (locate_eq_error_iff hfits hk).2 ⟨rfl, hcol⟩⟩

/-- What 32 bits leave of the place of an offset. -/
structure Narrows (text : String) (offset : UInt32) : Prop where
  /-- The line start that is taken off the offset is in the table and not past the offset. -/
  start_le : ∃ start : UInt32,
    (ofText text).starts[linesUpTo (ofText text).starts (min offset (ofText text).len) 0
      (ofText text).starts.size - 1]? = some start ∧ start ≤ min offset (ofText text).len
  /-- The column overflows behind a line as long as a text can be, and nothing else does. -/
  overflows_iff : ∀ overflow, (ofText text).locate offset = .error overflow ↔
    overflow = .add ∧ AtLongestEnd text offset ∧ '\n' ∉ text.toList
  /-- Every other offset has a place. Its column is exact, and so is its line, but behind as many line
  feeds as a text can have. -/
  exists_place : ¬(AtLongestEnd text offset ∧ '\n' ∉ text.toList) →
    ∃ place, (ofText text).locate offset = .ok place ∧
      place.col.toNat = columnAt text (min offset.toNat text.utf8ByteSize) ∧
        (place.line.toNat = lineAt text (min offset.toNat text.utf8ByteSize) ↔
          ¬(AtLongestEnd text offset ∧ ∀ ch ∈ text.toList, ch = '\n'))
  line_saturates : AtLongestEnd text offset → (∀ ch ∈ text.toList, ch = '\n') →
    ∃ place, (ofText text).locate offset = .ok place ∧ place.line.toNat = UInt32.size - 1

/-- In a text that fits, the place of an offset is exact up to the last offset of a longest text: there
the column overflows if the text is one line, and the line saturates if it is nothing but line feeds. -/
theorem locate_overflows_at_longest_end (text : String) (hfits : text.utf8ByteSize < UInt32.size)
    (offset : UInt32) : Narrows text offset := by
  obtain ⟨k, hk⟩ : ∃ k, min offset.toNat text.utf8ByteSize = k := ⟨_, rfl⟩
  have hle : k ≤ text.utf8ByteSize := by omega
  have hclamp : (min offset (ofText text).len).toNat = k := (toNat_clamp hfits offset).trans hk
  constructor
  · rw [linesUpTo_ofText hfits, hclamp]
    obtain ⟨start, hstart, hbegin⟩ := exists_start hfits k
    refine ⟨start, hstart, ?_⟩
    rw [UInt32.le_iff_toNat_le, hbegin, hclamp]
    exact lineBegin_le text k
  · intro overflow
    rw [locate_eq_error_iff hfits hk, size_le_columnAt_iff hfits hle, atLongestEnd_iff hfits hk]
  · intro hshort
    rw [atLongestEnd_iff hfits hk, ← size_le_columnAt_iff hfits hle, Nat.not_le] at hshort
    obtain ⟨place, hplace⟩ := exists_locate hfits hk hshort
    obtain ⟨hline, hcol⟩ := of_locate hfits hk hplace
    rw [hk]
    refine ⟨place, hplace, hcol, ?_⟩
    rw [hline, toNat_ofNatClamp_eq_iff, atLongestEnd_iff hfits hk, ← size_le_lineAt_iff hfits hle,
      Nat.not_le]
  · exact fun hend hall => (line_of_longest hfits hend hall).2

/-- One character as many times as a document may have bytes. -/
def longest (ch : Char) : String := String.ofList (List.replicate (UInt32.size - 1) ch)

lemma utf8ByteSize_longest {ch : Char} (h : ch.utf8Size = 1) :
    (longest ch).utf8ByteSize = UInt32.size - 1 := by
  rw [longest, utf8ByteSize_ofList, byteCount_replicate, h, Nat.mul_one]

lemma eq_of_mem_longest {ch c : Char} (h : c ∈ (longest ch).toList) : c = ch := by
  rw [longest, String.toList_ofList] at h
  exact List.eq_of_mem_replicate h

lemma utf8ByteSize_longest_lt {ch : Char} (h : ch.utf8Size = 1) :
    (longest ch).utf8ByteSize < UInt32.size := by
  rw [utf8ByteSize_longest h]
  decide

/-- The longest line is opened, and so are as many line feeds, yet their last place needs more than
32 bits: the column behind the line overflows, the line behind the line feeds comes out one too low. -/
theorem last_place_of_longest_overflows :
    ((∃ extent, Span.ofRange? 0 (longest 'a').utf8ByteSize = .ok extent) ∧
      columnAt (longest 'a') (UInt32.size - 1) = UInt32.size ∧
      (ofText (longest 'a')).locate 4294967295 = .error .add) ∧
    ((∃ extent, Span.ofRange? 0 (longest '\n').utf8ByteSize = .ok extent) ∧
      lineAt (longest '\n') (UInt32.size - 1) = UInt32.size ∧
      ∃ place, (ofText (longest '\n')).locate 4294967295 = .ok place ∧
        place.line.toNat = UInt32.size - 1) := by
  have hopen : ∀ ch : Char, ch.utf8Size = 1 →
      ∃ extent, Span.ofRange? 0 (longest ch).utf8ByteSize = .ok extent := by
    intro ch hch
    rw [Span.ofRange?, if_pos (by decide), if_pos (utf8ByteSize_longest_lt hch)]
    exact ⟨_, rfl⟩
  refine ⟨⟨hopen 'a' rfl, ?_⟩, hopen '\n' rfl, ?_⟩
  · exact col_of_longest (utf8ByteSize_longest_lt rfl) ⟨utf8ByteSize_longest rfl, rfl⟩
      fun hmem => absurd (eq_of_mem_longest hmem) (by decide)
  · exact line_of_longest (utf8ByteSize_longest_lt rfl) ⟨utf8ByteSize_longest rfl, rfl⟩
      fun ch hch => eq_of_mem_longest hch

theorem locate_overflows_longest_line :
    (longest 'a').utf8ByteSize < UInt32.size ∧ Narrows (longest 'a') 4294967295 :=
  ⟨utf8ByteSize_longest_lt rfl,
    locate_overflows_at_longest_end (longest 'a') (utf8ByteSize_longest_lt rfl) 4294967295⟩

end FrontEnd.LineIndex
