/-!
# Spans of byte offsets

A span is a pair of 32-bit byte offsets into a text. Its ends are reported by whoever read the
text, so a span may be reversed; its length is then zero. `Span.ofRange?` narrows a pair of
unbounded offsets and says which end did not fit.
-/

namespace FrontEnd

/-- A range of byte offsets, from `start` up to but not including `stop`. -/
structure Span where
  start : UInt32
  stop : UInt32
  deriving DecidableEq

/-- Why two offsets are no span: one of them needs more than 32 bits. -/
inductive SpanError where
  | startTooLarge (offset : Nat)
  | endTooLarge (offset : Nat)
  deriving DecidableEq

namespace SpanError

def hexUpper (n : Nat) : String :=
  String.ofList ((Nat.toDigits 16 n).map Char.toUpper)

def limitText (which : String) (offset : Nat) : String :=
  "span " ++ which ++ " " ++ toString offset ++ " (0x" ++ hexUpper offset ++
    ") exceeds u32::MAX (0x" ++ hexUpper (UInt32.size - 1) ++ ")"

def message : SpanError → String
  | startTooLarge offset => limitText "start" offset
  | endTooLarge offset => limitText "end" offset

end SpanError

namespace Span

def point (offset : UInt32) : Span := ⟨offset, offset⟩

/-- The span that stands for no place in particular. -/
def dummy : Span := ⟨0, 0⟩

instance : Inhabited Span := ⟨dummy⟩

/-- The number of bytes covered, zero if the span is reversed. -/
def len (s : Span) : UInt32 :=
  if s.start ≤ s.stop then s.stop - s.start else 0

def isEmpty (s : Span) : Bool := s.stop ≤ s.start

/-- Narrows a pair of offsets; the start is looked at first. -/
def ofRange? (start stop : Nat) : Except SpanError Span :=
  if start < UInt32.size then
    if stop < UInt32.size then .ok ⟨UInt32.ofNat start, UInt32.ofNat stop⟩
    else .error (.endTooLarge stop)
  else .error (.startTooLarge start)

def toText (s : Span) : String :=
  toString s.start.toNat ++ ".." ++ toString s.stop.toNat

theorem toNat_len (s : Span) : s.len.toNat = s.stop.toNat - s.start.toNat := by
  unfold len
  split
  next h => exact UInt32.toNat_sub_of_le _ _ h
  next h =>
    have hlt := UInt32.lt_iff_toNat_lt.1 (UInt32.not_le.1 h)
    simp
    omega

theorem isEmpty_iff_len_eq_zero (s : Span) : s.isEmpty = true ↔ s.len = 0 := by
  rw [← UInt32.toNat_inj, toNat_len]
  simp [isEmpty, UInt32.le_iff_toNat_le]
  omega

end Span

end FrontEnd
