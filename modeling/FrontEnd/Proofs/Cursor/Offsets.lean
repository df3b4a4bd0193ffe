import FrontEnd.Proofs.Cursor.Placement
import FrontEnd.Proofs.Text.Boundary

/-!
# Reading by offsets

What a cursor does can be done with the text and two byte offsets alone. An offset reader cuts what it
looks at out of the text each time and checks every step of its offsets: it fails where there is no
such slice and where an offset would leave 32 bits. From the offsets of a cursor in a text that fits it
never fails, and it goes where the cursor goes; the cursor's lexeme and what it has not read yet are the
slices at its offsets (`anchored_of_moves`).
-/

namespace FrontEnd

/-- A place in a text and the beginning of a lexeme, both by their byte offsets. -/
structure OffsetReader where
  text : String
  start : UInt32
  pos : UInt32
  deriving DecidableEq

namespace OffsetReader

def mark (r : OffsetReader) : OffsetReader := { r with start := r.pos }

def lexeme? (r : OffsetReader) : Option String := Text.slice? r.text r.start.toNat r.pos.toNat

def remaining? (r : OffsetReader) : Option String :=
  Text.slice? r.text r.pos.toNat r.text.utf8ByteSize

/-- The next character, if there is one. -/
def peek? (r : OffsetReader) : Option (Option Char) := r.remaining?.map fun rest => rest.toList.head?

/-- The last character of the lexeme, if there is one. -/
def last? (r : OffsetReader) : Option (Option Char) := r.lexeme?.map fun read => read.toList.getLast?

def forth (r : OffsetReader) (ch : Char) : OffsetReader := { r with pos := r.pos + Cursor.width ch }

def back (r : OffsetReader) (ch : Char) : OffsetReader := { r with pos := r.pos - Cursor.width ch }

/-- The offset behind a character still has 32 bits. -/
def HasRoom (r : OffsetReader) (ch : Char) : Prop := r.pos.toNat + ch.utf8Size < UInt32.size

instance (r : OffsetReader) (ch : Char) : Decidable (r.HasRoom ch) :=
  inferInstanceAs (Decidable (r.pos.toNat + ch.utf8Size < UInt32.size))

lemma toNat_pos_forth {r : OffsetReader} {ch : Char} (h : r.HasRoom ch) :
    (r.forth ch).pos.toNat = r.pos.toNat + ch.utf8Size := by
  rw [forth, UInt32.toNat_add, Cursor.toNat_width]
  exact Nat.mod_eq_of_lt h

def read? (r : OffsetReader) : Option (Option Char × OffsetReader) :=
  match r.peek? with
  | none => none
  | some none => some (none, r)
  | some (some ch) => if r.HasRoom ch then some (some ch, r.forth ch) else none

def markAndRead? (r : OffsetReader) : Option (Option Char × OffsetReader) := r.mark.read?

def readWhile? (keep : Char → Bool) (r : OffsetReader) : Option OffsetReader :=
  match r.peek? with
  | none => none
  | some none => some r
  | some (some ch) =>
    if keep ch = true then
      if _h : r.HasRoom ch then readWhile? keep (r.forth ch) else none
    else some r
termination_by UInt32.size - r.pos.toNat
decreasing_by
  have hpos := ch.utf8Size_pos
  have hforth := toNat_pos_forth _h
  have hlt := (r.forth ch).pos.toNat_lt_size
  omega

def unread? : Nat → OffsetReader → Option OffsetReader
  | 0, r => some r
  | n + 1, r =>
    match r.last? with
    | none => none
    | some none => some r
    | some (some ch) => if ch.utf8Size ≤ r.pos.toNat then unread? n (r.back ch) else none

def atEnd (r : OffsetReader) : Bool := r.text.utf8ByteSize ≤ r.pos.toNat

end OffsetReader

namespace Cursor

variable {c : Cursor} {before : List Char}

def offsets (c : Cursor) : OffsetReader := ⟨c.text, c.start, c.pos⟩

/-! ### A step of a cursor by one character -/

lemma read_of_ahead {ch : Char} {rest : List Char} (h : c.ahead = ch :: rest) :
    c.read = (some ch, { c with pos := c.pos + width ch, taken := ch :: c.taken, ahead := rest }) := by
  rw [read, h]

lemma readWhile_of_keep {keep : Char → Bool} {ch : Char} {rest : List Char}
    (h : c.ahead = ch :: rest) (hkeep : keep ch = true) : c.readWhile keep = c.read.2.readWhile keep := by
  rw [read_of_ahead h]
  simp [readWhile, h, List.takeWhile_cons_of_pos hkeep, List.dropWhile_cons_of_pos hkeep,
    UInt32.add_assoc]

/-- Where no character is kept the cursor stays. -/
lemma readWhile_of_stop {keep : Char → Bool} (h : ∀ ch, c.peek = some ch → ¬keep ch = true) :
    c.readWhile keep = c := by
  obtain ⟨text, start, pos, taken, ahead⟩ := c
  cases ahead with
  | nil => simp [readWhile]
  | cons ch rest => simp [readWhile, h ch rfl]

lemma unread_succ {ch : Char} {earlier : List Char} (h : c.taken = ch :: earlier) (n : Nat) :
    c.unread (n + 1) =
      ({ c with pos := c.pos - width ch, taken := earlier, ahead := ch :: c.ahead } : Cursor).unread n := by
  have hsub : ∀ w : UInt32, c.pos - (width ch + w) = c.pos - width ch - w := by grind
  simp [unread, h, hsub]

lemma unread_of_taken_nil (h : c.taken = []) (n : Nat) : c.unread n = c := by
  obtain ⟨text, start, pos, taken, ahead⟩ := c
  obtain rfl : taken = [] := h
  simp [unread]

/-! ### The offsets of a placed cursor -/

namespace Placed

lemma text_split (h : c.Placed before) :
    c.text = String.ofList before ++ c.lexeme ++ c.remaining := by
  rw [← String.toList_inj, h.text_eq]
  simp [pending, lexeme, remaining]

lemma utf8ByteSize_before (h : c.Placed before) :
    (String.ofList before).utf8ByteSize = c.start.toNat := by
  rw [utf8ByteSize_ofList, h.start_eq]

lemma utf8ByteSize_behind (h : c.Placed before) :
    (String.ofList before ++ c.lexeme).utf8ByteSize = c.pos.toNat := by
  rw [String.utf8ByteSize_append, utf8ByteSize_ofList, lexeme, utf8ByteSize_ofList, byteCount_reverse,
    h.pos_eq]

lemma slice_before (h : c.Placed before) :
    Text.slice? c.text 0 c.start.toNat = some (String.ofList before) := by
  rw [Text.slice?_eq_some_iff]
  refine ⟨"", c.lexeme ++ c.remaining, ?_, rfl, ?_⟩
  · rw [String.empty_append, ← String.append_assoc]
    exact h.text_split
  · rw [String.empty_append]
    exact h.utf8ByteSize_before

lemma isBoundary_start (h : c.Placed before) : Text.IsBoundary c.text c.start.toNat := by
  refine ⟨String.ofList before, c.lexeme ++ c.remaining, ?_, h.utf8ByteSize_before⟩
  rw [← String.append_assoc]
  exact h.text_split

lemma isBoundary_pos (h : c.Placed before) : Text.IsBoundary c.text c.pos.toNat :=
  ⟨String.ofList before ++ c.lexeme, c.remaining, h.text_split, h.utf8ByteSize_behind⟩

lemma lexeme?_offsets (h : c.Placed before) : c.offsets.lexeme? = some c.lexeme := h.slice_eq

lemma remaining?_offsets (h : c.Placed before) : c.offsets.remaining? = some c.remaining := by
  rw [OffsetReader.remaining?, Text.slice?_eq_some_iff]
  refine ⟨String.ofList before ++ c.lexeme, "", ?_, h.utf8ByteSize_behind, ?_⟩
  · rw [String.append_empty]
    exact h.text_split
  · rw [← h.text_split]
    rfl

lemma peek?_offsets (h : c.Placed before) : c.offsets.peek? = some c.peek := by
  rw [OffsetReader.peek?, h.remaining?_offsets, Option.map_some, remaining, String.toList_ofList]
  rfl

lemma last?_offsets (h : c.Placed before) : c.offsets.last? = some c.taken.head? := by
  rw [OffsetReader.last?, h.lexeme?_offsets, Option.map_some, lexeme, String.toList_ofList,
    List.getLast?_reverse]

lemma hasRoom (h : c.Placed before) {ch : Char} {rest : List Char} (hahead : c.ahead = ch :: rest) :
    c.offsets.HasRoom ch := by
  have hsize := h.byteCount_pending
  have hfits := h.fits
  rw [hahead, byteCount_cons] at hsize
  rw [OffsetReader.HasRoom, show c.offsets.pos = c.pos from rfl, h.pos_eq]
  omega

lemma read?_offsets (h : c.Placed before) : c.offsets.read? = some (c.read.1, c.read.2.offsets) := by
  rw [OffsetReader.read?, h.peek?_offsets, peek]
  cases hahead : c.ahead with
  | nil =>
    rw [read, hahead]
    rfl
  | cons ch rest =>
    rw [read_of_ahead hahead]
    exact if_pos (h.hasRoom hahead)

lemma readWhile?_offsets (h : c.Placed before) (keep : Char → Bool) :
    c.offsets.readWhile? keep = some (c.readWhile keep).offsets := by
  have hpeek := h.peek?_offsets
  induction hahead : c.ahead generalizing c with
  | nil =>
    have hnone : c.peek = none := by rw [peek, hahead, List.head?_nil]
    rw [OffsetReader.readWhile?, hpeek, hnone, readWhile_of_stop (by simp [hnone])]
  | cons ch rest ih =>
    have hsome : c.peek = some ch := by rw [peek, hahead, List.head?_cons]
    rw [OffsetReader.readWhile?, hpeek, hsome]
    by_cases hkeep : keep ch = true
    · have hnext := h.shift .read
      have hrest : c.read.2.ahead = rest := by rw [read_of_ahead hahead]
      have hforth : c.offsets.forth ch = c.read.2.offsets := by
        rw [read_of_ahead hahead]
        rfl
      rw [readWhile_of_keep hahead hkeep, ← ih hnext hnext.peek?_offsets hrest, ← hforth]
      simp [hkeep, h.hasRoom hahead]
    · rw [readWhile_of_stop (by simp [hsome, hkeep])]
      simp [hkeep]

lemma unread?_offsets (h : c.Placed before) (n : Nat) :
    c.offsets.unread? n = some (c.unread n).offsets := by
  induction n generalizing c with
  | zero => simp [OffsetReader.unread?, unread, offsets]
  | succ n ih =>
    rw [OffsetReader.unread?, h.last?_offsets]
    cases htaken : c.taken with
    | nil =>
      rw [unread_of_taken_nil htaken]
      rfl
    | cons ch earlier =>
      have hpos : ch.utf8Size ≤ c.offsets.pos.toNat := by
        rw [show c.offsets.pos = c.pos from rfl, h.pos_eq, htaken, byteCount_cons]
        omega
      have hback : c.unread 1 =
          { c with pos := c.pos - width ch, taken := earlier, ahead := ch :: c.ahead } := by
        rw [unread_succ htaken]
        simp [unread]
      rw [unread_succ htaken, ← hback, ← ih (h.shift (.unread 1)), hback]
      exact if_pos hpos

lemma atEnd_offsets (h : c.Placed before) : c.offsets.atEnd = c.atEnd := by
  have hsize := h.byteCount_pending
  rw [OffsetReader.atEnd, atEnd, Bool.eq_iff_iff, decide_eq_true_iff, List.isEmpty_iff]
  show c.text.utf8ByteSize ≤ c.pos.toNat ↔ _
  rw [h.pos_eq]
  constructor
  · intro hle
    have hlength := length_le_byteCount c.ahead
    exact List.eq_nil_of_length_eq_zero (by omega)
  · intro hend
    rw [hend, byteCount_nil] at hsize
    omega

end Placed

/-! ### Moved cursors -/

/-- The cursor is anchored in its text: its offsets cut the text into what it stands for, and every
operation can be done on the offsets alone without a missing slice or an offset out of range. -/
structure Anchored (c : Cursor) : Prop where
  start_le_pos : c.start ≤ c.pos
  pos_le_size : c.pos.toNat ≤ c.text.utf8ByteSize
  isBoundary_start : Text.IsBoundary c.text c.start.toNat
  isBoundary_pos : Text.IsBoundary c.text c.pos.toNat
  text_eq : ∃ before, Text.slice? c.text 0 c.start.toNat = some before ∧
    c.text = before ++ c.lexeme ++ c.remaining
  lexeme?_eq : c.offsets.lexeme? = some c.lexeme
  remaining?_eq : c.offsets.remaining? = some c.remaining
  /-- A document is told of the lexeme where it stands. -/
  excerpt_eq : c.excerpt.span = ⟨c.start, c.pos⟩ ∧
    Text.slice? c.text c.excerpt.span.start.toNat c.excerpt.span.stop.toNat = some c.excerpt.image
  peek?_eq : c.offsets.peek? = some c.peek
  /-- The next character is the one read next. -/
  peek_eq : c.peek = c.read.1
  atEnd_eq : c.atEnd = c.offsets.atEnd
  atEnd_iff_remaining : c.atEnd = true ↔ c.remaining = ""
  atEnd_iff_peek : c.atEnd = true ↔ c.peek = none
  mark_eq : c.offsets.mark = c.mark.offsets
  read?_eq : c.offsets.read? = some (c.read.1, c.read.2.offsets)
  markAndRead?_eq : c.offsets.markAndRead? = some (c.markAndRead.1, c.markAndRead.2.offsets)
  readWhile?_eq : ∀ keep, c.offsets.readWhile? keep = some (c.readWhile keep).offsets
  unread?_eq : ∀ n, c.offsets.unread? n = some (c.unread n).offsets

lemma peek_eq_read (c : Cursor) : c.peek = c.read.1 := by
  rw [peek, read]
  cases c.ahead with
  | nil => rfl
  | cons ch rest => rfl

lemma atEnd_iff_remaining (c : Cursor) : c.atEnd = true ↔ c.remaining = "" := by
  rw [atEnd, remaining, List.isEmpty_iff, ← String.toList_inj, String.toList_ofList, String.toList_empty]

lemma atEnd_iff_peek (c : Cursor) : c.atEnd = true ↔ c.peek = none := by
  rw [atEnd, peek, List.isEmpty_iff, List.head?_eq_none_iff]

lemma Placed.anchored (h : c.Placed before) : c.Anchored where
  start_le_pos := h.start_le_pos
  pos_le_size := h.pos_le_size
  isBoundary_start := h.isBoundary_start
  isBoundary_pos := h.isBoundary_pos
  text_eq := ⟨String.ofList before, h.slice_before, h.text_split⟩
  lexeme?_eq := h.lexeme?_offsets
  remaining?_eq := h.remaining?_offsets
  excerpt_eq := ⟨rfl, h.slice_eq⟩
  peek?_eq := h.peek?_offsets
  peek_eq := peek_eq_read c
  atEnd_eq := h.atEnd_offsets.symm
  atEnd_iff_remaining := atEnd_iff_remaining c
  atEnd_iff_peek := atEnd_iff_peek c
  mark_eq := rfl
  read?_eq := h.read?_offsets
  markAndRead?_eq := h.mark.read?_offsets
  readWhile?_eq := h.readWhile?_offsets
  unread?_eq := h.unread?_offsets

/-- However a cursor is moved over a text that fits, it stays anchored in that text. A copy of a cursor
is the cursor, so its moves are among these. -/
theorem anchored_of_moves (text : String) (hfits : text.utf8ByteSize < UInt32.size) (c : Cursor)
    (hmoves : (ofText text).Moves c) : c.text = text ∧ c.Anchored := by
  obtain ⟨before, hplaced⟩ := (placed_ofText hfits).moves hmoves
  exact ⟨hmoves.text_eq, hplaced.anchored⟩

theorem anchored_of_moves_wide :
    "é+ß".utf8ByteSize < UInt32.size ∧
      (ofText "é+ß").Moves (((ofText "é+ß").markAndRead.2.readWhile (· = '+')).unread 1) ∧
      (((ofText "é+ß").markAndRead.2.readWhile (· = '+')).unread 1).text = "é+ß" ∧
      (((ofText "é+ß").markAndRead.2.readWhile (· = '+')).unread 1).Anchored :=
  have hmoves := ((Moves.refl.tail .markAndRead).tail (.readWhile (· = '+'))).tail (.unread 1)
  ⟨by decide, hmoves, anchored_of_moves "é+ß" (by decide) _ hmoves⟩

end Cursor

end FrontEnd
