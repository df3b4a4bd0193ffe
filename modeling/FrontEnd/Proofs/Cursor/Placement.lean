import FrontEnd.Cursor.Walk
import FrontEnd.Proofs.Text.Bytes
import FrontEnd.Text.Slice
import Mathlib.Tactic.Lemma

/-!
# Where a cursor stands in its text

A cursor that was moved over a text of fewer than 2^32 bytes stands in it: some characters lie
before its lexeme, its offsets count the bytes up to the two ends of the lexeme, and the text at
these offsets is the lexeme. The moves that begin no lexeme, the shifts, keep what lies before.
-/

namespace FrontEnd

namespace Cursor

lemma toNat_width (ch : Char) : (width ch).toNat = ch.utf8Size := by
  have hle := ch.utf8Size_le_four
  rw [width, UInt32.toNat_ofNat_of_lt']
  simp only [UInt32.size]
  omega

lemma toNat_bytes {chars : List Char} (h : byteCount chars < UInt32.size) :
    (bytes chars).toNat = byteCount chars := by
  induction chars with
  | nil => rfl
  | cons ch chars ih =>
    simp only [byteCount_cons] at h
    rw [bytes_cons, UInt32.toNat_add, toNat_width, ih (by omega), byteCount_cons]
    exact Nat.mod_eq_of_lt h

/-! ### Moves within a lexeme -/

/-- One operation that begins no lexeme. -/
inductive Shift (c : Cursor) : Cursor → Prop where
  | read : Shift c c.read.2
  | readWhile (keep : Char → Bool) : Shift c (c.readWhile keep)
  | unread (n : Nat) : Shift c (c.unread n)

/-- Any number of operations that begin no lexeme. -/
inductive Shifts (c : Cursor) : Cursor → Prop where
  | refl : Shifts c c
  | tail {d e : Cursor} : Shifts c d → Shift d e → Shifts c e

lemma Shifts.trans {c d e : Cursor} (h : Shifts c d) (h' : Shifts d e) : Shifts c e := by
  induction h' with
  | refl => exact h
  | tail _ m ih => exact .tail ih m

lemma text_read (c : Cursor) : c.read.2.text = c.text := by
  unfold read
  split
  next => rfl
  next => rfl

lemma start_read (c : Cursor) : c.read.2.start = c.start := by
  unfold read
  split
  next => rfl
  next => rfl

lemma Shift.text_eq {c d : Cursor} (m : Shift c d) : d.text = c.text := by
  cases m with
  | read => exact text_read c
  | readWhile keep => rfl
  | unread n => rfl

lemma Shift.start_eq {c d : Cursor} (m : Shift c d) : d.start = c.start := by
  cases m with
  | read => exact start_read c
  | readWhile keep => rfl
  | unread n => rfl

lemma Shift.pending_eq {c d : Cursor} (m : Shift c d) : d.pending = c.pending := by
  cases m with
  | read => exact pending_read c
  | readWhile keep => exact pending_readWhile keep c
  | unread n => exact pending_unread n c

lemma Shift.counted {c d : Cursor} (m : Shift c d) (h : c.Counted) : d.Counted := by
  cases m with
  | read => exact h.read
  | readWhile keep => exact h.readWhile keep
  | unread n => exact h.unread n

/-- A move is a shift, or begins a lexeme and may read one character of it. -/
lemma Move.mark_or_shift {c d : Cursor} (m : Move c d) :
    Shift c d ∨ d = c.mark ∨ Shift c.mark d := by
  cases m with
  | mark => exact .inr (.inl rfl)
  | markAndRead => exact .inr (.inr .read)
  | read => exact .inl .read
  | readWhile keep => exact .inl (.readWhile keep)
  | unread n => exact .inl (.unread n)

/-! ### Placed cursors -/

/-- The cursor stands in its text with the characters `before` in front of its lexeme. -/
structure Placed (c : Cursor) (before : List Char) : Prop where
  fits : c.text.utf8ByteSize < UInt32.size
  text_eq : c.text.toList = before ++ c.pending
  start_eq : c.start.toNat = byteCount before
  counted : c.Counted

lemma placed_ofText {text : String} (h : text.utf8ByteSize < UInt32.size) :
    (ofText text).Placed [] :=
  ⟨h, rfl, rfl, counted_ofText text⟩

namespace Placed

variable {c d : Cursor} {before : List Char}

lemma byteCount_pending (h : c.Placed before) :
    byteCount before + byteCount c.taken + byteCount c.ahead = c.text.utf8ByteSize := by
  rw [← byteCount_toList, h.text_eq, pending]
  simp [Nat.add_assoc]

lemma pos_eq (h : c.Placed before) : c.pos.toNat = byteCount before + byteCount c.taken := by
  have hsize := h.byteCount_pending
  have hfits := h.fits
  rw [show c.pos = _ from h.counted, UInt32.toNat_add, h.start_eq, toNat_bytes (by omega)]
  apply Nat.mod_eq_of_lt
  simp only [UInt32.size] at hfits
  omega

lemma start_le_pos (h : c.Placed before) : c.start ≤ c.pos := by
  rw [UInt32.le_iff_toNat_le, h.start_eq, h.pos_eq]
  omega

lemma pos_le_size (h : c.Placed before) : c.pos.toNat ≤ c.text.utf8ByteSize := by
  have hsize := h.byteCount_pending
  rw [h.pos_eq]
  omega

lemma pos_eq_size (h : c.Placed before) (hend : c.ahead = []) :
    c.pos.toNat = c.text.utf8ByteSize := by
  have hsize := h.byteCount_pending
  rw [hend, byteCount_nil] at hsize
  rw [h.pos_eq]
  omega

/-- The text between the two offsets of the lexeme is the lexeme. -/
lemma slice_eq (h : c.Placed before) :
    Text.slice? c.text c.start.toNat c.pos.toNat = some c.lexeme := by
  rw [Text.slice?_eq_some_iff]
  refine ⟨String.ofList before, String.ofList c.ahead, ?_, ?_, ?_⟩
  · rw [← String.toList_inj, h.text_eq]
    simp [pending, lexeme]
  · rw [utf8ByteSize_ofList, h.start_eq]
  · rw [String.utf8ByteSize_append, utf8ByteSize_ofList, lexeme, utf8ByteSize_ofList, h.pos_eq,
      byteCount_reverse]

lemma mark (h : c.Placed before) : c.mark.Placed (before ++ c.taken.reverse) where
  fits := h.fits
  text_eq := by
    rw [pending_mark, List.append_assoc]
    exact h.text_eq
  start_eq := by
    rw [byteCount_append, byteCount_reverse]
    exact h.pos_eq
  counted := counted_mark c

lemma shift (h : c.Placed before) (m : Shift c d) : d.Placed before where
  fits := m.text_eq ▸ h.fits
  text_eq := by rw [m.text_eq, m.pending_eq, h.text_eq]
  start_eq := by rw [m.start_eq, h.start_eq]
  counted := m.counted h.counted

/-- Wherever a cursor is moved, what lay before its lexeme still does. -/
lemma moves (h : c.Placed before) (m : Moves c d) : ∃ later, d.Placed (before ++ later) := by
  induction m with
  | refl => exact ⟨[], by rwa [List.append_nil]⟩
  | tail _ m ih =>
    obtain ⟨later, hd⟩ := ih
    rcases m.mark_or_shift with hs | rfl | hs
    · exact ⟨later, hd.shift hs⟩
    · exact ⟨_, List.append_assoc .. ▸ hd.mark⟩
    · exact ⟨_, List.append_assoc .. ▸ hd.mark.shift hs⟩

end Placed

lemma Moves.text_eq {c d : Cursor} (m : Moves c d) : d.text = c.text := by
  induction m with
  | refl => rfl
  | tail _ m ih =>
    rcases m.mark_or_shift with hs | rfl | hs
    · exact hs.text_eq.trans ih
    · exact ih
    · exact hs.text_eq.trans ih

/-- A walk never leaves its lexeme at the front: the lexeme never begins before it did. -/
lemma Placed.start_le_start {c d : Cursor} {before : List Char} (h : c.Placed before)
    (m : Moves c d) : c.start ≤ d.start := by
  obtain ⟨later, hd⟩ := h.moves m
  rw [UInt32.le_iff_toNat_le, h.start_eq, hd.start_eq, byteCount_append]
  omega

lemma Shifts.start_eq {c d : Cursor} (m : Shifts c d) : d.start = c.start := by
  induction m with
  | refl => rfl
  | tail _ m ih => exact m.start_eq.trans ih

end Cursor

end FrontEnd
