/-!
# Slices of a text by byte offset

A text is cut at offsets into its UTF-8 encoding. A cut exists only where a character begins or
the text ends. `slice?_eq_some_iff` says that slicing finds exactly the middle parts of the
ways to write the text as three pieces.
-/

namespace FrontEnd.Text

/-- The position at a byte offset, if a character begins or the text ends there. -/
def boundary? (text : String) (offset : Nat) : Option text.Pos :=
  if h : String.Pos.Raw.isValid text ⟨offset⟩ = true then
    some (text.pos ⟨offset⟩ (String.Pos.Raw.isValid_eq_true_iff.1 h))
  else none

/-- The part of `text` between two byte offsets, if both are character boundaries of the text
and the first is not past the second. -/
def slice? (text : String) (start stop : Nat) : Option String :=
  match boundary? text start, boundary? text stop with
  | some p, some q => if h : p ≤ q then some (text.slice p q h).copy else none
  | _, _ => none

theorem boundary?_eq_some_iff {text : String} {offset : Nat} {p : text.Pos} :
    boundary? text offset = some p ↔ p.offset.byteIdx = offset := by
  unfold boundary?
  split
  next h =>
    constructor
    · intro hp
      cases hp
      rfl
    · rintro rfl
      exact congrArg some (String.Pos.ext rfl)
  next h =>
    refine ⟨fun hp => (nomatch hp), ?_⟩
    rintro rfl
    refine absurd ?_ h
    exact String.Pos.Raw.isValid_eq_true_iff.2 p.isValid

theorem boundary?_of_append (before after : String) :
    ∃ p, boundary? (before ++ after) before.utf8ByteSize = some p ∧ p.Splits before after := by
  refine ⟨_, boundary?_eq_some_iff.2 ?_, String.Pos.splits_append_rawEndPos⟩
  rfl

/-- Slicing finds `part` exactly where the text reads `part` between the two offsets. -/
theorem slice?_eq_some_iff {text part : String} {start stop : Nat} :
    slice? text start stop = some part ↔
      ∃ before after, text = before ++ part ++ after ∧
        before.utf8ByteSize = start ∧ (before ++ part).utf8ByteSize = stop := by
  unfold slice?
  constructor
  · intro h
    split at h
    next p q hp hq =>
      split at h
      next hle =>
        obtain ⟨before, after, h₁, h₂⟩ :=
          String.copy_slice_eq_iff_splits.1 ⟨hle, Option.some.inj h⟩
        refine ⟨before, after, h₂.eq_append, ?_, ?_⟩
        · rw [← boundary?_eq_some_iff.1 hp, h₁.offset_eq_rawEndPos]
          rfl
        · rw [← boundary?_eq_some_iff.1 hq, h₂.offset_eq_rawEndPos]
          rfl
      next => cases h
    next => cases h
  · rintro ⟨before, after, rfl, rfl, rfl⟩
    obtain ⟨q, hq, hqs⟩ := boundary?_of_append (before ++ part) after
    have hstart : ∃ p, boundary? (before ++ part ++ after) before.utf8ByteSize = some p ∧
        p.Splits before (part ++ after) := by
      rw [String.append_assoc]
      exact boundary?_of_append before (part ++ after)
    obtain ⟨p, hp, hps⟩ := hstart
    obtain ⟨hle, hcopy⟩ := String.copy_slice_eq_iff_splits.2 ⟨before, after, hps, hqs⟩
    rw [hp, hq]
    exact (dif_pos hle).trans (congrArg some hcopy)

end FrontEnd.Text
