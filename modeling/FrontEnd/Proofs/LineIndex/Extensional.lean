import FrontEnd.Proofs.LineIndex.Correspondence
import Mathlib.Data.List.Sort
import Mathlib.Data.List.TFAE
import Mathlib.Tactic.TFAE

/-!
# Equal line indexes

A line index keeps of its text the length and the line feeds, and no more: two texts of fewer than
2^32 - 1 bytes have one line index exactly if they are as long as each other and have their line feeds
at the same offsets. All of this shows in the places of their offsets, so indexes that place all offsets
alike are equal (`ofText_tfae`).
-/

namespace FrontEnd

namespace Text

variable {text : String} {i : Nat}

/-- There is a line feed at the byte offset. -/
def LineFeedAt (text : String) (i : Nat) : Prop :=
  ∃ before after : String, text = before ++ "\n" ++ after ∧ before.utf8ByteSize = i

lemma mem_lineFeedsFrom_iff {offset p : Nat} {chars : List Char} :
    p ∈ lineFeedsFrom offset chars ↔
      ∃ before after, chars = before ++ '\n' :: after ∧ offset + byteCount before = p := by
  induction chars generalizing offset with
  | nil => simp [lineFeedsFrom]
  | cons ch rest ih =>
    -- a line feed is either the first character or it is among the others
    have hmem : p ∈ lineFeedsFrom offset (ch :: rest) ↔
        ch = '\n' ∧ p = offset ∨ p ∈ lineFeedsFrom (offset + ch.utf8Size) rest := by
      rw [lineFeedsFrom]
      by_cases hch : ch = '\n'
      · rw [if_pos hch, List.mem_cons, and_iff_right hch]
      · rw [if_neg hch, or_iff_right fun h => hch h.1]
    rw [hmem, ih]
    constructor
    · rintro (⟨rfl, rfl⟩ | ⟨before, after, rfl, rfl⟩)
      · exact ⟨[], rest, rfl, rfl⟩
      · refine ⟨ch :: before, after, rfl, ?_⟩
        rw [byteCount_cons, Nat.add_assoc]
    · rintro ⟨before, after, hchars, rfl⟩
      cases before with
      | nil =>
        obtain ⟨rfl, rfl⟩ := List.cons.inj hchars
        exact .inl ⟨rfl, rfl⟩
      | cons c before =>
        obtain ⟨rfl, rfl⟩ := List.cons.inj hchars
        refine .inr ⟨before, after, rfl, ?_⟩
        rw [byteCount_cons, Nat.add_assoc]

lemma mem_lineFeeds_iff : i ∈ lineFeeds text ↔ LineFeedAt text i := by
  rw [lineFeeds, mem_lineFeedsFrom_iff]
  constructor
  · rintro ⟨before, after, htext, hsize⟩
    refine ⟨.ofList before, .ofList after, ?_, ?_⟩
    · apply String.toList_injective
      simp [htext]
    · rwa [Nat.zero_add, ← utf8ByteSize_ofList] at hsize
  · rintro ⟨before, after, rfl, rfl⟩
    refine ⟨before.toList, after.toList, ?_, ?_⟩
    · simp
    · rw [Nat.zero_add, byteCount_toList]

lemma LineFeedAt.lt_size (h : LineFeedAt text i) : i < text.utf8ByteSize := by
  have hlt := (mem_lineFeedsFrom (mem_lineFeeds_iff.2 h)).2
  rwa [Nat.zero_add, byteCount_toList] at hlt

/-- Behind the first offset only that behind a line feed is in a first column. -/
lemma columnAt_succ_eq_one_iff : columnAt text (i + 1) = 1 ↔ LineFeedAt text i := by
  rw [← mem_lineFeeds_iff]
  constructor
  · intro hcol
    have hbegin : lineBegin text (i + 1) = i + 1 := by
      have hsum := lineBegin_add_columnAt text (i + 1)
      omega
    have hmem := List.mem_of_getElem? (getElem?_lineStarts_lineAt text (i + 1))
    rw [hbegin, lineStarts, List.mem_cons, or_iff_right (Nat.succ_ne_zero i), List.mem_map] at hmem
    obtain ⟨p, hp, heq⟩ := hmem
    rwa [← Nat.succ.inj heq]
  · intro hmem
    have hstart : i + 1 ∈ lineStarts text := List.mem_cons_of_mem 0 (List.mem_map_of_mem hmem)
    obtain ⟨line, hline⟩ := List.getElem?_of_mem hstart
    rw [columnAt, lineBegin_of_getElem? hline, Nat.sub_self]

/-- Two texts are as long as each other and have their line feeds at the same offsets. -/
structure SameLines (a b : String) : Prop where
  size_eq : a.utf8ByteSize = b.utf8ByteSize
  lineFeedAt_iff : ∀ i, LineFeedAt a i ↔ LineFeedAt b i

variable {a b : String}

lemma SameLines.lineStarts_eq (h : SameLines a b) : lineStarts a = lineStarts b := by
  have hfeeds : lineFeeds a = lineFeeds b := by
    apply (pairwise_lineFeeds a).eq_of_mem_iff (pairwise_lineFeeds b)
    intro i
    rw [mem_lineFeeds_iff, mem_lineFeeds_iff]
    exact h.lineFeedAt_iff i
  rw [lineStarts, lineStarts, hfeeds]

end Text

lemma LineCol.lt_irrefl (place : LineCol) : ¬place < place := by
  rintro (hline | ⟨-, hcol⟩)
  · exact UInt32.lt_irrefl _ hline
  · exact UInt32.lt_irrefl _ hcol

namespace LineIndex

open Text

variable {a b : String}

lemma ofText_eq_of_sameLines (ha : a.utf8ByteSize < UInt32.size) (hb : b.utf8ByteSize < UInt32.size)
    (h : SameLines a b) : ofText a = ofText b := by
  have hstarts : (ofText a).starts = (ofText b).starts := by
    apply Array.toList_inj.1
    apply List.map_injective_iff.2 fun _ _ => UInt32.toNat_inj.1
    rw [toNat_starts ha, toNat_starts hb, h.lineStarts_eq]
  have hlen : (ofText a).len = (ofText b).len := by
    rw [← UInt32.toNat_inj, toNat_len ha, toNat_len hb, h.size_eq]
  exact congrArg₂ LineIndex.mk hstarts hlen

/-! ### Texts whose offsets have the same places -/

lemma exists_toNat_eq {n : Nat} (h : n < UInt32.size) : ∃ offset : UInt32, offset.toNat = n :=
  ⟨.ofNat n, UInt32.toNat_ofNat_of_lt' h⟩

/-- The places end where the text does: behind the end the last one is repeated. -/
lemma size_le_of_locate_eq (ha : a.utf8ByteSize < UInt32.size - 1)
    (hb : b.utf8ByteSize < UInt32.size - 1)
    (h : ∀ offset, (ofText a).locate offset = (ofText b).locate offset) :
    b.utf8ByteSize ≤ a.utf8ByteSize := by
  by_contra hlt
  have hfits : a.utf8ByteSize < UInt32.size := by omega
  have hroom : a.utf8ByteSize + 1 < UInt32.size := by omega
  obtain ⟨last, hlast⟩ := exists_toNat_eq hfits
  obtain ⟨next, hnext⟩ := exists_toNat_eq hroom
  have hclamped : (ofText a).locate last = (ofText a).locate next := by
    have hk : min last.toNat a.utf8ByteSize = a.utf8ByteSize := by omega
    have hk' : min next.toNat a.utf8ByteSize = a.utf8ByteSize := by omega
    rw [locate_ofText hfits hk, locate_ofText hfits hk']
  have hlt' : last < next := by
    rw [UInt32.lt_iff_toNat_lt]
    omega
  obtain ⟨place, later, hplace, hlater, hbefore⟩ := locate_lt_locate hb hlt' (by omega)
  rw [← h, hclamped, h, hlater] at hplace
  cases hplace
  exact place.lt_irrefl hbefore

lemma sameLines_of_locate_eq (ha : a.utf8ByteSize < UInt32.size - 1)
    (hb : b.utf8ByteSize < UInt32.size - 1)
    (h : ∀ offset, (ofText a).locate offset = (ofText b).locate offset) : SameLines a b := by
  have hsize : a.utf8ByteSize = b.utf8ByteSize :=
    Nat.le_antisymm (size_le_of_locate_eq hb ha fun offset => (h offset).symm)
      (size_le_of_locate_eq ha hb h)
  refine ⟨hsize, fun i => ?_⟩
  by_cases hi : i < a.utf8ByteSize
  · -- behind a line feed both have a first column
    have hroom : i + 1 < UInt32.size := by omega
    obtain ⟨offset, hoffset⟩ := exists_toNat_eq hroom
    have hka : min offset.toNat a.utf8ByteSize = i + 1 := by omega
    have hkb : min offset.toNat b.utf8ByteSize = i + 1 := by omega
    obtain ⟨place, hplace, -, hcol⟩ := exists_locate_exact ha hka
    have hother := (toNat_of_locate hb hkb ((h offset).symm.trans hplace)).2
    rw [← columnAt_succ_eq_one_iff, ← columnAt_succ_eq_one_iff, ← hcol, ← hother]
  · exact iff_of_false (fun hfeed => hi hfeed.lt_size) fun hfeed => hi (hsize ▸ hfeed.lt_size)

/-- Two texts have equal indexes exactly if they have the same length and line feeds, and exactly if
every offset has the same place in both. -/
theorem ofText_tfae (a b : String) (ha : a.utf8ByteSize < UInt32.size - 1)
    (hb : b.utf8ByteSize < UInt32.size - 1) :
    List.TFAE [ofText a = ofText b, SameLines a b,
      ∀ offset : UInt32, (ofText a).locate offset = (ofText b).locate offset] := by
  tfae_have 1 → 3 := by
    intro h offset
    rw [h]
  tfae_have 3 → 2 := sameLines_of_locate_eq ha hb
  tfae_have 2 → 1 := ofText_eq_of_sameLines (by omega) (by omega)
  tfae_finish

/-- A wide character takes the place of two others. -/
theorem ofText_eq_of_wide :
    "é\nx".utf8ByteSize < UInt32.size - 1 ∧ "ab\ny".utf8ByteSize < UInt32.size - 1 ∧
      ofText "é\nx" = ofText "ab\ny" := by
  have ha : "é\nx".utf8ByteSize < UInt32.size - 1 := by decide
  have hb : "ab\ny".utf8ByteSize < UInt32.size - 1 := by decide
  have hfeeds : lineFeeds "é\nx" = lineFeeds "ab\ny" := by decide
  have hlines : SameLines "é\nx" "ab\ny" :=
    ⟨by decide, fun i => by rw [← mem_lineFeeds_iff, ← mem_lineFeeds_iff, hfeeds]⟩
  exact ⟨ha, hb, ((ofText_tfae "é\nx" "ab\ny" ha hb).out 0 1).2 hlines⟩

end LineIndex

end FrontEnd
