import FrontEnd.Proofs.LineIndex.Places

/-!
# Offsets and places

In a text of fewer than 2^32 - 1 bytes the lookup of places and the lookup of line starts undo each
other, and both keep the order: of two offsets the earlier one has the earlier place
(`offsets_correspond_to_places`).
-/

namespace FrontEnd.LineIndex

open Text

variable {text : String}

/-- Offsets and places of a text correspond to each other in their order. -/
structure Corresponds (text : String) : Prop where
  /-- The lines are numbered from one. -/
  startOf?_isSome_iff : ∀ line : UInt32, ((ofText text).startOf? line).isSome = true ↔
    1 ≤ line.toNat ∧ line.toNat ≤ (ofText text).lineCount
  startOf?_lt : ∀ line later start next : UInt32, line < later →
    (ofText text).startOf? line = some start → (ofText text).startOf? later = some next → start < next
  /-- A line starts in its first column. -/
  locate_startOf? : ∀ line start : UInt32, (ofText text).startOf? line = some start →
    (ofText text).locate start = .ok ⟨line, 1⟩
  /-- The column counts from the start of the line. -/
  startOf?_locate : ∀ offset : UInt32, offset.toNat ≤ text.utf8ByteSize →
    ∃ place start, (ofText text).locate offset = .ok place ∧
      (ofText text).startOf? place.line = some start ∧
        start.toNat + place.col.toNat = offset.toNat + 1
  /-- Later lines start behind the offset. -/
  lt_startOf? : ∀ (offset : UInt32) (place : LineCol) (later next : UInt32),
    offset.toNat ≤ text.utf8ByteSize → (ofText text).locate offset = .ok place →
      place.line < later → (ofText text).startOf? later = some next → offset < next
  locate_lt : ∀ offset next : UInt32, offset < next → next.toNat ≤ text.utf8ByteSize →
    ∃ place later, (ofText text).locate offset = .ok place ∧ (ofText text).locate next = .ok later ∧
      place < later

/-! ### Line starts by number -/

lemma startOf?_eq_some_iff (hfits : text.utf8ByteSize < UInt32.size) {line start : UInt32} :
    (ofText text).startOf? line = some start ↔
      line ≠ 0 ∧ (lineStarts text)[line.toNat - 1]? = some start.toNat := by
  rw [startOf?, ← getElem?_starts hfits, Option.map_eq_some_iff]
  split
  next hzero => simp [hzero]
  next hzero =>
    constructor
    · intro hstart
      exact ⟨hzero, start, hstart, rfl⟩
    · rintro ⟨-, other, hother, heq⟩
      rw [hother, UInt32.toNat_inj.1 heq]

lemma toNat_pos_of_ne_zero {line : UInt32} (h : line ≠ 0) : 0 < line.toNat :=
  Nat.pos_of_ne_zero fun hzero => h (UInt32.toNat_inj.1 hzero)

lemma startOf?_isSome_iff_le (index : LineIndex) (line : UInt32) :
    (index.startOf? line).isSome = true ↔ 1 ≤ line.toNat ∧ line.toNat ≤ index.lineCount := by
  rw [startOf?]
  split
  next hzero => simp [hzero]
  next hzero =>
    have hpos := toNat_pos_of_ne_zero hzero
    rw [Option.isSome_iff_ne_none, ne_eq, Array.getElem?_eq_none_iff, lineCount]
    omega

lemma startOf?_lt_startOf? (hfits : text.utf8ByteSize < UInt32.size) {line later start next : UInt32}
    (hlt : line < later) (hstart : (ofText text).startOf? line = some start)
    (hnext : (ofText text).startOf? later = some next) : start < next := by
  obtain ⟨hzero, hstart⟩ := (startOf?_eq_some_iff hfits).1 hstart
  obtain ⟨-, hnext⟩ := (startOf?_eq_some_iff hfits).1 hnext
  obtain ⟨hi, hstart⟩ := List.getElem?_eq_some_iff.1 hstart
  obtain ⟨hj, hnext⟩ := List.getElem?_eq_some_iff.1 hnext
  have hpos := toNat_pos_of_ne_zero hzero
  rw [UInt32.lt_iff_toNat_lt] at hlt ⊢
  have hasc := List.pairwise_iff_getElem.1 (pairwise_lineStarts text) _ _ hi hj (by omega)
  rwa [hstart, hnext] at hasc

/-! ### Places of offsets -/

lemma locate_eq_of_startOf? (hfits : text.utf8ByteSize < UInt32.size) {line start : UInt32}
    (hstart : (ofText text).startOf? line = some start) :
    (ofText text).locate start = .ok ⟨line, 1⟩ := by
  obtain ⟨hzero, hstart⟩ := (startOf?_eq_some_iff hfits).1 hstart
  have hpos := toNat_pos_of_ne_zero hzero
  have hline : lineAt text start.toNat = line.toNat := by
    rw [lineAt_of_getElem? hstart]
    omega
  have hcol : columnAt text start.toNat = 1 := by
    rw [columnAt, lineBegin_of_getElem? hstart, Nat.sub_self]
  have hle := le_size_of_mem_lineStarts (List.mem_of_getElem? hstart)
  rw [locate_ofText hfits (Nat.min_eq_left hle), hline, hcol, if_pos (by decide), Except.ok.injEq,
    LineCol.mk.injEq, ← UInt32.toNat_inj, UInt32.toNat_ofNatClamp_of_lt line.toNat_lt_size]
  exact ⟨rfl, rfl⟩

lemma startOf?_of_locate (hlen : text.utf8ByteSize < UInt32.size - 1) {offset : UInt32}
    (hle : offset.toNat ≤ text.utf8ByteSize) :
    ∃ place start, (ofText text).locate offset = .ok place ∧
      (ofText text).startOf? place.line = some start ∧
        start.toNat + place.col.toNat = offset.toNat + 1 := by
  obtain ⟨place, hplace, hline, hcol⟩ := exists_locate_exact hlen (Nat.min_eq_left hle)
  have hbegin := lineBegin_le text offset.toNat
  have hstart : (UInt32.ofNat (lineBegin text offset.toNat)).toNat = lineBegin text offset.toNat :=
    UInt32.toNat_ofNat_of_lt' (by omega)
  refine ⟨place, UInt32.ofNat (lineBegin text offset.toNat), hplace,
    (startOf?_eq_some_iff (by omega)).2 ⟨?_, ?_⟩, ?_⟩
  · intro hzero
    rw [hzero] at hline
    exact absurd hline (Nat.ne_of_lt (lineAt_pos text offset.toNat))
  · rw [hline, hstart]
    exact getElem?_lineStarts_lineAt text offset.toNat
  · rw [hstart, hcol]
    exact lineBegin_add_columnAt text offset.toNat

lemma lt_of_startOf?_later (hlen : text.utf8ByteSize < UInt32.size - 1) {offset later next : UInt32}
    {place : LineCol} (hle : offset.toNat ≤ text.utf8ByteSize)
    (hplace : (ofText text).locate offset = .ok place) (hlater : place.line < later)
    (hnext : (ofText text).startOf? later = some next) : offset < next := by
  obtain ⟨-, hstart⟩ := (startOf?_eq_some_iff (by omega)).1 hnext
  rw [UInt32.lt_iff_toNat_lt, (toNat_of_locate hlen (Nat.min_eq_left hle) hplace).1] at hlater
  rw [UInt32.lt_iff_toNat_lt]
  exact lt_of_lineAt_le hstart (by omega)

lemma locate_lt_locate (hlen : text.utf8ByteSize < UInt32.size - 1) {offset next : UInt32}
    (hlt : offset < next) (hle : next.toNat ≤ text.utf8ByteSize) :
    ∃ place later, (ofText text).locate offset = .ok place ∧ (ofText text).locate next = .ok later ∧
      place < later := by
  rw [UInt32.lt_iff_toNat_lt] at hlt
  obtain ⟨place, hplace, hline, hcol⟩ :=
    exists_locate_exact hlen (Nat.min_eq_left (Nat.le_trans (Nat.le_of_lt hlt) hle))
  obtain ⟨later, hlater, hline', hcol'⟩ := exists_locate_exact hlen (Nat.min_eq_left hle)
  refine ⟨place, later, hplace, hlater, ?_⟩
  rcases Nat.lt_or_eq_of_le (lineAt_mono text (Nat.le_of_lt hlt)) with hbefore | hsame
  · left
    rwa [UInt32.lt_iff_toNat_lt, hline, hline']
  · -- on one line the columns count from the same start
    right
    have hbegin := lineBegin_eq_of_lineAt_eq hsame
    have hsum := lineBegin_add_columnAt text offset.toNat
    have hsum' := lineBegin_add_columnAt text next.toNat
    refine ⟨UInt32.toNat_inj.1 (hline.trans (hsame.trans hline'.symm)), ?_⟩
    rw [UInt32.lt_iff_toNat_lt, hcol, hcol']
    omega

/-- Looking up places and looking up line starts undo each other and keep the order. -/
theorem offsets_correspond_to_places (text : String) (hlen : text.utf8ByteSize < UInt32.size - 1) :
    Corresponds text := by
  have hfits : text.utf8ByteSize < UInt32.size := by omega
  constructor
  · exact startOf?_isSome_iff_le (ofText text)
  · exact fun line later start next => startOf?_lt_startOf? hfits
  · exact fun line start => locate_eq_of_startOf? hfits
  · exact fun offset => startOf?_of_locate hlen
  · exact fun offset place later next => lt_of_startOf?_later hlen
  · exact fun offset next => locate_lt_locate hlen

theorem offsets_correspond_in_lines :
    "ab\n\né\n".utf8ByteSize < UInt32.size - 1 ∧ Corresponds "ab\n\né\n" :=
  ⟨by decide, offsets_correspond_to_places "ab\n\né\n" (by decide)⟩

end FrontEnd.LineIndex
