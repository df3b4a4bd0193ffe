import FrontEnd.Cursor.Lemmas

/-!
# Walks of a cursor

A walk is a computation that sees a text only through a cursor and moves the cursor only by its
own operations. `Cursor.Moves` says which cursors can be reached that way, and a walk carries the
evidence. Main statement: a walk from a new lexeme that ends with a lexeme in hand leaves fewer
characters ahead than there were (`Moves.ahead_length_lt`).
-/

namespace FrontEnd

namespace Cursor

/-- One operation on a cursor. -/
inductive Move (c : Cursor) : Cursor → Prop where
  | mark : Move c c.mark
  | markAndRead : Move c c.markAndRead.2
  | read : Move c c.read.2
  | readWhile (keep : Char → Bool) : Move c (c.readWhile keep)
  | unread (n : Nat) : Move c (c.unread n)

/-- Any number of operations on a cursor, one after the other. -/
inductive Moves (c : Cursor) : Cursor → Prop where
  | refl : Moves c c
  | tail {d e : Cursor} : Moves c d → Move d e → Moves c e

theorem Move.moves {c d : Cursor} (m : Move c d) : Moves c d := .tail .refl m

theorem Moves.trans {c d e : Cursor} (h : Moves c d) (h' : Moves d e) : Moves c e := by
  induction h' with
  | refl => exact h
  | tail _ m ih => exact .tail ih m

theorem Move.counted {c d : Cursor} (m : Move c d) (h : c.Counted) : d.Counted := by
  cases m with
  | mark => exact counted_mark c
  | markAndRead => exact (counted_mark c).read
  | read => exact h.read
  | readWhile keep => exact h.readWhile keep
  | unread n => exact h.unread n

theorem Move.pending_suffix {c d : Cursor} (m : Move c d) : d.pending <:+ c.pending := by
  cases m with
  | mark => exact List.suffix_append _ _
  | markAndRead => exact (pending_read c.mark) ▸ List.suffix_append _ _
  | read => exact (pending_read c) ▸ List.suffix_refl _
  | readWhile keep => exact (pending_readWhile keep c) ▸ List.suffix_refl _
  | unread n => exact (pending_unread n c) ▸ List.suffix_refl _

theorem Moves.counted {c d : Cursor} (h : Moves c d) (hc : c.Counted) : d.Counted := by
  induction h with
  | refl => exact hc
  | tail _ m ih => exact m.counted ih

theorem Moves.pending_suffix {c d : Cursor} (h : Moves c d) : d.pending <:+ c.pending := by
  induction h with
  | refl => exact List.suffix_refl _
  | tail _ m ih => exact m.pending_suffix.trans ih

/-- Whoever begins a lexeme and ends with one has read some of what was ahead. -/
theorem Moves.ahead_length_lt {c d : Cursor} (h : Moves c.mark d) (hp : d.pos ≠ d.start) :
    d.ahead.length < c.ahead.length := by
  have hne : d.taken ≠ [] := by
    intro he
    have hc : d.pos = d.start + bytes d.taken := h.counted (counted_mark c)
    rw [he, bytes_nil, UInt32.add_zero] at hc
    exact hp hc
  have hlen := h.pending_suffix.length_le
  have hpos := List.length_pos_iff.2 hne
  rw [pending_mark, pending, List.length_append, List.length_reverse] at hlen
  omega

end Cursor

/-- A computation that moves a cursor by the cursor's own operations. -/
structure Walk (α : Type) where
  run : (c : Cursor) → α × { d : Cursor // c.Moves d }

namespace Walk

variable {α : Type}

instance : Monad Walk where
  pure a := ⟨fun c => (a, ⟨c, .refl⟩)⟩
  bind x f := ⟨fun c =>
    let r := x.run c
    let s := (f r.1).run r.2.1
    (s.1, ⟨s.2.1, r.2.2.trans s.2.2⟩)⟩

/-- Looks at the cursor without moving it. -/
def look (f : Cursor → α) : Walk α := ⟨fun c => (f c, ⟨c, .refl⟩)⟩

def mark : Walk Unit := ⟨fun c => ((), ⟨c.mark, Cursor.Move.mark.moves⟩)⟩

def markAndRead : Walk (Option Char) :=
  ⟨fun c => (c.markAndRead.1, ⟨c.markAndRead.2, Cursor.Move.markAndRead.moves⟩)⟩

def read : Walk (Option Char) := ⟨fun c => (c.read.1, ⟨c.read.2, Cursor.Move.read.moves⟩)⟩

def readWhile (keep : Char → Bool) : Walk Unit :=
  ⟨fun c => ((), ⟨c.readWhile keep, (Cursor.Move.readWhile keep).moves⟩)⟩

def unread (n : Nat) : Walk Unit := ⟨fun c => ((), ⟨c.unread n, (Cursor.Move.unread n).moves⟩)⟩

end Walk

end FrontEnd
