import FrontEnd.Cursor.Basic

/-!
# What the operations of a cursor keep

Reading and putting back only shift the border between the lexeme and the characters ahead:
together, as `pending`, they stay the same. Beginning a lexeme drops the one before. On the
way the offsets go on counting the bytes of the lexeme (`Counted`).
-/

namespace FrontEnd.Cursor

@[simp] theorem bytes_nil : bytes [] = 0 := rfl

@[simp] theorem bytes_cons (ch : Char) (chars : List Char) :
    bytes (ch :: chars) = width ch + bytes chars := by
  simp [bytes]

@[simp] theorem bytes_append (xs ys : List Char) : bytes (xs ++ ys) = bytes xs + bytes ys := by
  induction xs with
  | nil => simp
  | cons ch xs ih => simp [ih, UInt32.add_assoc]

@[simp] theorem bytes_reverse (chars : List Char) : bytes chars.reverse = bytes chars := by
  induction chars with
  | nil => rfl
  | cons ch chars ih => simp [ih, UInt32.add_comm]

/-- The characters from the beginning of the lexeme on. -/
def pending (c : Cursor) : List Char := c.taken.reverse ++ c.ahead

@[simp] theorem pending_ofText (text : String) : (ofText text).pending = text.toList := rfl

@[simp] theorem pending_mark (c : Cursor) : c.mark.pending = c.ahead := rfl

@[simp] theorem pending_read (c : Cursor) : c.read.2.pending = c.pending := by
  unfold read
  split
  next => rfl
  next ch rest h => simp [pending, h]

@[simp] theorem pending_readWhile (keep : Char → Bool) (c : Cursor) :
    (c.readWhile keep).pending = c.pending := by
  simp [pending, readWhile, List.takeWhile_append_dropWhile]

@[simp] theorem pending_unread (n : Nat) (c : Cursor) : (c.unread n).pending = c.pending := by
  rw [pending, pending, unread, ← List.append_assoc, ← List.reverse_append, List.take_append_drop]

/-- The offsets of the lexeme lie as far apart as its characters are wide. -/
def Counted (c : Cursor) : Prop := c.pos = c.start + bytes c.taken

theorem counted_ofText (text : String) : (ofText text).Counted := rfl

theorem counted_mark (c : Cursor) : c.mark.Counted := (UInt32.add_zero _).symm

theorem Counted.read {c : Cursor} (h : c.Counted) : c.read.2.Counted := by
  unfold Cursor.read
  split
  next => exact h
  next ch rest _ =>
    simp only [Counted, bytes_cons]
    rw [show c.pos = _ from h, UInt32.add_assoc, UInt32.add_comm (width ch)]

theorem Counted.readWhile {c : Cursor} (h : c.Counted) (keep : Char → Bool) :
    (c.readWhile keep).Counted := by
  simp only [Counted, Cursor.readWhile, bytes_append, bytes_reverse]
  rw [show c.pos = _ from h, UInt32.add_assoc, UInt32.add_comm (bytes c.taken)]

theorem Counted.unread {c : Cursor} (h : c.Counted) (n : Nat) : (c.unread n).Counted := by
  have ht : bytes c.taken = bytes (c.taken.drop n) + bytes (c.taken.take n) := by
    rw [UInt32.add_comm, ← bytes_append, List.take_append_drop]
  simp only [Counted, Cursor.unread]
  rw [show c.pos = _ from h, ht, ← UInt32.add_assoc, UInt32.add_sub_cancel]

end FrontEnd.Cursor
