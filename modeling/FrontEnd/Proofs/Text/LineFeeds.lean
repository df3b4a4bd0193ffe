import FrontEnd.Proofs.Text.Bytes

/-!
# Lines by their line feeds

The lines of a text, read off its characters one by one: a line ends behind each line feed. Line and
column of a byte offset are counted from the line feeds in front of it (`lineAt`, `columnAt`). Since
the line starts ascend, the line of an offset is the last one that begins at or before it
(`getElem?_lineStarts_lineAt`, `lt_of_lineAt_le`).
-/

namespace FrontEnd

namespace Text

/-- The byte offsets of the line feeds among some characters, the first of which is at `offset`. -/
def lineFeedsFrom (offset : Nat) : List Char → List Nat
  | [] => []
  | ch :: rest =>
    if ch = '\n' then offset :: lineFeedsFrom (offset + ch.utf8Size) rest
    else lineFeedsFrom (offset + ch.utf8Size) rest

def lineFeeds (text : String) : List Nat := lineFeedsFrom 0 text.toList

/-- The line of a byte offset, counted from one: a line feed in front of it ends a line. -/
def lineAt (text : String) (offset : Nat) : Nat := 1 + (lineFeeds text).countP (· < offset)

/-- Where the line of a byte offset begins: behind the last line feed in front of it. -/
def lineBegin (text : String) (offset : Nat) : Nat :=
  ((lineFeeds text).filter (· < offset)).getLast?.elim 0 (· + 1)

/-- The column of a byte offset, counted from one in bytes. -/
def columnAt (text : String) (offset : Nat) : Nat := 1 + (offset - lineBegin text offset)

/-- Where the lines begin: at the start of the text and behind each line feed. -/
def lineStarts (text : String) : List Nat := 0 :: (lineFeeds text).map (· + 1)

/-! ### Ascending lists -/

section Ascending

variable {α : Type} {r : α → α → Prop} {p : α → Bool} {xs : List α}

lemma forall_not_of_not_head {x : α} (h : (x :: xs).Pairwise r)
    (hp : ∀ a b, r a b → p b = true → p a = true) (hx : ¬p x = true) : ∀ a ∈ x :: xs, ¬p a = true := by
  intro a ha
  rcases List.mem_cons.1 ha with rfl | ha
  · exact hx
  · exact fun hpa => hx (hp x a (List.rel_of_pairwise_cons h ha) hpa)

/-- What holds of a prefix of a list holds of as many of its elements as there are. -/
lemma getElem_iff_lt_countP (h : xs.Pairwise r) (hp : ∀ a b, r a b → p b = true → p a = true)
    {i : Nat} (hi : i < xs.length) : p xs[i] = true ↔ i < xs.countP p := by
  induction xs generalizing i with
  | nil => simp at hi
  | cons x xs ih =>
    by_cases hx : p x = true
    · rw [List.countP_cons_of_pos hx]
      cases i with
      | zero => simp [hx]
      | succ i =>
        rw [List.getElem_cons_succ, ih h.of_cons (by simpa using hi)]
        omega
    · have hnone := forall_not_of_not_head h hp hx
      rw [List.countP_eq_zero.2 hnone]
      exact iff_of_false (hnone _ (List.getElem_mem hi)) (Nat.not_lt_zero i)

lemma filter_eq_take_countP (h : xs.Pairwise r) (hp : ∀ a b, r a b → p b = true → p a = true) :
    xs.filter p = xs.take (xs.countP p) := by
  induction xs with
  | nil => rfl
  | cons x xs ih =>
    by_cases hx : p x = true
    · rw [List.filter_cons_of_pos hx, List.countP_cons_of_pos hx, List.take_succ_cons, ih h.of_cons]
    · have hnone := forall_not_of_not_head h hp hx
      rw [List.countP_eq_zero.2 hnone, List.take_zero, List.filter_eq_nil_iff.2 hnone]

end Ascending

/-! ### Line feeds -/

variable {text : String} {offset k : Nat}

lemma length_lineFeedsFrom (offset : Nat) (chars : List Char) :
    (lineFeedsFrom offset chars).length = chars.count '\n' := by
  induction chars generalizing offset with
  | nil => rfl
  | cons ch rest ih =>
    rw [lineFeedsFrom]
    by_cases hch : ch = '\n'
    · rw [if_pos hch, hch, List.count_cons_self, List.length_cons, ih]
    · rw [if_neg hch, List.count_cons_of_ne hch, ih]

lemma mem_lineFeedsFrom {chars : List Char} {p : Nat} (h : p ∈ lineFeedsFrom offset chars) :
    offset ≤ p ∧ p < offset + byteCount chars := by
  induction chars generalizing offset with
  | nil => simp [lineFeedsFrom] at h
  | cons ch rest ih =>
    have hpos := ch.utf8Size_pos
    rw [byteCount_cons]
    have hrest : p ∈ lineFeedsFrom (offset + ch.utf8Size) rest →
        offset ≤ p ∧ p < offset + (ch.utf8Size + byteCount rest) := by
      intro hp
      have := ih hp
      omega
    rw [lineFeedsFrom] at h
    split at h
    · rcases List.mem_cons.1 h with rfl | h
      · omega
      · exact hrest h
    · exact hrest h

lemma pairwise_lineFeedsFrom (offset : Nat) (chars : List Char) :
    (lineFeedsFrom offset chars).Pairwise (· < ·) := by
  induction chars generalizing offset with
  | nil => exact .nil
  | cons ch rest ih =>
    rw [lineFeedsFrom]
    split
    · refine List.pairwise_cons.2 ⟨fun p hp => ?_, ih _⟩
      have hle := (mem_lineFeedsFrom hp).1
      have hpos := ch.utf8Size_pos
      omega
    · exact ih _

lemma pairwise_lineFeeds (text : String) : (lineFeeds text).Pairwise (· < ·) :=
  pairwise_lineFeedsFrom 0 text.toList

/-! ### Line starts -/

lemma length_lineStarts (text : String) :
    (lineStarts text).length = 1 + text.toList.count '\n' := by
  rw [lineStarts, List.length_cons, List.length_map, lineFeeds, length_lineFeedsFrom, Nat.add_comm]

lemma pairwise_lineStarts (text : String) : (lineStarts text).Pairwise (· < ·) := by
  refine List.pairwise_cons.2 ⟨?_, ?_⟩
  · intro s hs
    obtain ⟨p, -, rfl⟩ := List.mem_map.1 hs
    exact Nat.succ_pos p
  · exact (pairwise_lineFeeds text).map _ fun a b hab => Nat.succ_lt_succ hab

lemma le_size_of_mem_lineStarts {s : Nat} (h : s ∈ lineStarts text) : s ≤ text.utf8ByteSize := by
  rcases List.mem_cons.1 h with rfl | h
  · exact Nat.zero_le _
  · obtain ⟨p, hp, rfl⟩ := List.mem_map.1 h
    have hlt := (mem_lineFeedsFrom hp).2
    rw [byteCount_toList] at hlt
    omega

lemma lineAt_eq_countP (text : String) (k : Nat) :
    lineAt text k = (lineStarts text).countP (· ≤ k) := by
  rw [lineStarts, List.countP_cons_of_pos (by simp), List.countP_map, lineAt, Nat.add_comm]
  rfl

/-- The lines that begin at or before an offset are those up to its own. -/
lemma getElem_lineStarts_le_iff {i : Nat} (hi : i < (lineStarts text).length) :
    (lineStarts text)[i] ≤ k ↔ i < lineAt text k := by
  rw [lineAt_eq_countP, ← getElem_iff_lt_countP (pairwise_lineStarts text) _ hi, decide_eq_true_iff]
  intro a b hab hb
  rw [decide_eq_true_iff] at hb ⊢
  omega

lemma lineAt_pos (text : String) (k : Nat) : 0 < lineAt text k := by
  rw [lineAt]
  omega

lemma lineAt_le_length (text : String) (k : Nat) : lineAt text k ≤ (lineStarts text).length := by
  rw [lineAt_eq_countP]
  exact List.countP_le_length

/-- The line of an offset is in the list of the line starts. -/
lemma getElem?_lineStarts_lineAt (text : String) (k : Nat) :
    (lineStarts text)[lineAt text k - 1]? = some (lineBegin text k) := by
  have htake := filter_eq_take_countP (p := (· < k)) (pairwise_lineFeeds text)
    fun a b hab hb => by
      rw [decide_eq_true_iff] at hb ⊢
      omega
  have hle := List.countP_le_length (p := (· < k)) (l := lineFeeds text)
  rw [lineBegin, htake, lineAt, Nat.add_sub_cancel_left, lineStarts]
  generalize (lineFeeds text).countP (· < k) = n at hle
  cases n with
  | zero => rfl
  | succ n =>
    rw [List.getElem?_cons_succ, List.getElem?_map, List.getLast?_take, if_neg (Nat.succ_ne_zero n),
      Nat.add_sub_cancel, List.getElem?_eq_getElem (by omega)]
    rfl

lemma lineBegin_le (text : String) (k : Nat) : lineBegin text k ≤ k := by
  obtain ⟨hi, hbegin⟩ := List.getElem?_eq_some_iff.1 (getElem?_lineStarts_lineAt text k)
  have hpos := lineAt_pos text k
  rw [← hbegin, getElem_lineStarts_le_iff]
  omega

/-- Later lines begin behind the offset. -/
lemma lt_of_lineAt_le {i s : Nat} (h : (lineStarts text)[i]? = some s) (hi : lineAt text k ≤ i) :
    k < s := by
  obtain ⟨hlt, rfl⟩ := List.getElem?_eq_some_iff.1 h
  rw [← Nat.not_le, getElem_lineStarts_le_iff hlt]
  omega

lemma lineBegin_add_columnAt (text : String) (k : Nat) :
    lineBegin text k + columnAt text k = k + 1 := by
  have hle := lineBegin_le text k
  rw [columnAt]
  omega

lemma lineAt_mono (text : String) {j k : Nat} (h : j ≤ k) : lineAt text j ≤ lineAt text k := by
  refine Nat.add_le_add_left (List.countP_mono_left fun p _ hp => ?_) 1
  rw [decide_eq_true_iff] at hp ⊢
  omega

lemma lineBegin_eq_of_lineAt_eq {j : Nat} (h : lineAt text j = lineAt text k) :
    lineBegin text j = lineBegin text k := by
  have hj := getElem?_lineStarts_lineAt text j
  rw [h, getElem?_lineStarts_lineAt] at hj
  exact (Option.some.inj hj).symm

/-- At the start of a line stand that line and the first column. -/
lemma lineAt_of_getElem? {i s : Nat} (h : (lineStarts text)[i]? = some s) :
    lineAt text s = i + 1 := by
  obtain ⟨hi, hs⟩ := List.getElem?_eq_some_iff.1 h
  have hlt : i < lineAt text s := (getElem_lineStarts_le_iff hi).1 (Nat.le_of_eq hs)
  refine Nat.le_antisymm (Nat.le_of_not_lt fun hnext => ?_) hlt
  -- the line behind would begin at `s` or before
  have hlen : i + 1 < (lineStarts text).length := Nat.lt_of_lt_of_le hnext (lineAt_le_length text s)
  have hle := (getElem_lineStarts_le_iff hlen).2 hnext
  have hasc := List.pairwise_iff_getElem.1 (pairwise_lineStarts text) i (i + 1) hi hlen
    (Nat.lt_succ_self i)
  omega

lemma lineBegin_of_getElem? {i s : Nat} (h : (lineStarts text)[i]? = some s) :
    lineBegin text s = s := by
  have hbegin := getElem?_lineStarts_lineAt text s
  rw [lineAt_of_getElem? h, Nat.add_sub_cancel, h] at hbegin
  exact (Option.some.inj hbegin).symm

/-! ### The end of the text -/

lemma le_getElem_lineStarts {i : Nat} (hi : i < (lineStarts text).length) : i ≤ (lineStarts text)[i] := by
  induction i with
  | zero => exact Nat.zero_le _
  | succ i ih =>
    have hle := ih (by omega)
    have hlt := List.pairwise_iff_getElem.1 (pairwise_lineStarts text) i (i + 1) (by omega) hi
      (Nat.lt_succ_self i)
    omega

lemma lineAt_le_lineBegin (text : String) (k : Nat) : lineAt text k ≤ lineBegin text k + 1 := by
  obtain ⟨hi, hbegin⟩ := List.getElem?_eq_some_iff.1 (getElem?_lineStarts_lineAt text k)
  have hle := le_getElem_lineStarts hi
  omega

lemma lineAt_of_size_le (h : text.utf8ByteSize ≤ k) : lineAt text k = 1 + text.toList.count '\n' := by
  rw [← length_lineStarts, lineAt_eq_countP, List.countP_eq_length]
  intro s hs
  exact decide_eq_true (Nat.le_trans (le_size_of_mem_lineStarts hs) h)

lemma lineBegin_eq_zero_iff (h : text.utf8ByteSize ≤ k) :
    lineBegin text k = 0 ↔ '\n' ∉ text.toList := by
  have hline := lineAt_of_size_le h
  rw [← List.count_eq_zero]
  constructor
  · intro hzero
    have hle := lineAt_le_lineBegin text k
    omega
  · intro hnone
    have hbegin := getElem?_lineStarts_lineAt text k
    rw [hline, hnone] at hbegin
    exact (Option.some.inj hbegin).symm

lemma count_lineFeed_le (text : String) : text.toList.count '\n' ≤ text.utf8ByteSize := by
  rw [← byteCount_toList]
  exact Nat.le_trans List.count_le_length (length_le_byteCount _)

/-- As many line feeds as bytes has only a text of nothing else. -/
lemma count_lineFeed_eq_iff (text : String) :
    text.toList.count '\n' = text.utf8ByteSize ↔ ∀ ch ∈ text.toList, ch = '\n' := by
  rw [← byteCount_toList]
  constructor
  · intro hcount ch hch
    have hlength : text.toList.count '\n' = text.toList.length :=
      Nat.le_antisymm List.count_le_length (hcount ▸ length_le_byteCount _)
    exact (List.count_eq_length.1 hlength ch hch).symm
  · intro hall
    rw [List.eq_replicate_of_mem hall, List.count_replicate_self, byteCount_replicate]
    exact (Nat.mul_one _).symm

end Text

end FrontEnd
