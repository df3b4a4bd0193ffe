import FrontEnd.Text.Slice
import Mathlib.Tactic.ByContra
import Mathlib.Tactic.Lemma

/-!
# Boundaries of a text

A text can be cut where a character begins or the text ends. A slice is there exactly if its offsets
are boundaries in their order (`slice?_eq_none_iff`).
-/

namespace FrontEnd

namespace Text

/-- A character of the text begins at the offset, or the text ends there. -/
def IsBoundary (text : String) (offset : Nat) : Prop :=
  ∃ before after, text = before ++ after ∧ before.utf8ByteSize = offset

variable {text : String} {start stop : Nat}

lemma IsBoundary.le_size (h : IsBoundary text start) : start ≤ text.utf8ByteSize := by
  obtain ⟨before, after, rfl, rfl⟩ := h
  rw [String.utf8ByteSize_append]
  exact Nat.le_add_right _ _

lemma IsBoundary.exists_pos (h : IsBoundary text start) : ∃ p, boundary? text start = some p := by
  obtain ⟨before, after, rfl, rfl⟩ := h
  obtain ⟨p, hp, -⟩ := boundary?_of_append before after
  exact ⟨p, hp⟩

/-- There is no slice where the offsets are reversed or not both boundaries. -/
lemma slice?_eq_none_iff :
    slice? text start stop = none ↔
      stop < start ∨ ¬IsBoundary text start ∨ ¬IsBoundary text stop := by
  constructor
  · intro hnone
    by_contra hcut
    simp only [not_or, not_not] at hcut
    obtain ⟨hle, hstart, hstop⟩ := hcut
    obtain ⟨p, hp⟩ := hstart.exists_pos
    obtain ⟨q, hq⟩ := hstop.exists_pos
    have hpq : p ≤ q := by
      rw [String.Pos.le_iff, String.Pos.Raw.le_iff, boundary?_eq_some_iff.1 hp,
        boundary?_eq_some_iff.1 hq]
      exact Nat.not_lt.1 hle
    rw [slice?, hp, hq] at hnone
    simp only [dif_pos hpq] at hnone
    cases hnone
  · intro hcut
    cases hslice : slice? text start stop with
    | none => rfl
    | some part =>
      obtain ⟨before, after, htext, hstart, hstop⟩ := slice?_eq_some_iff.1 hslice
      have hle : start ≤ stop := by
        rw [← hstart, ← hstop, String.utf8ByteSize_append]
        exact Nat.le_add_right _ _
      rcases hcut with hlt | hno | hno
      · omega
      · exact absurd ⟨before, part ++ after, by rw [htext, String.append_assoc], hstart⟩ hno
      · exact absurd ⟨before ++ part, after, htext, hstop⟩ hno

end Text

end FrontEnd
