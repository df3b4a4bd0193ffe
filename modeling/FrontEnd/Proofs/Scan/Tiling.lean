import FrontEnd.Proofs.Scan.InStep

/-!
# A scan tiles the text

For a decider that begins no lexeme of its own, the pieces of text its calls read follow one another
from the beginning of the text to where the scan stops, and the chain holds one token for each piece
that was given a kind (`scan_tiles_text`).
-/

namespace FrontEnd

namespace Call

/-- The text that a call has read: from the cursor before it to the cursor behind it. -/
def region (call : Call) : Span := ⟨call.before.pos, call.after.pos⟩

def moved (call : Call) : Bool := call.after.pos ≠ call.before.pos

/-- The token due for a call, if its decider named what it read. -/
def token? (d : Document) (call : Call) : Option Token :=
  call.lexeme?.map fun lexeme =>
    { kind := lexeme.kind
      image := match lexeme.constant with
        | some constant => .shared constant
        | none => .owned ((d.textAt? call.region).getD "")
      span := call.region
      document := d.id }

end Call

/-- Spans of text, none of them empty, that follow one another from `lo` to `hi`. -/
def Tiles (d : Document) (lo : UInt32) : List Span → UInt32 → Prop
  | [], hi => lo = hi
  | s :: rest, hi =>
    s.start = lo ∧ s.start < s.stop ∧ (d.textAt? s).isSome ∧ Tiles d s.stop rest hi

lemma Tiles.append {d : Document} {lo mid hi : UInt32} {xs ys : List Span} (h : Tiles d lo xs mid)
    (h' : Tiles d mid ys hi) : Tiles d lo (xs ++ ys) hi := by
  induction xs generalizing lo with
  | nil =>
    obtain rfl : lo = mid := h
    exact h'
  | cons s xs ih => exact ⟨h.1, h.2.1, h.2.2.1, ih h.2.2.2⟩

namespace Walk

variable {α β : Type}

/-- The walk begins no lexeme. -/
def KeepsLexeme (w : Walk α) : Prop := ∀ c : Cursor, c.Shifts (w.run c).2.1

lemma keepsLexeme_pure (a : α) : (pure a : Walk α).KeepsLexeme := fun _ => .refl

lemma keepsLexeme_look (f : Cursor → α) : (look f).KeepsLexeme := fun _ => .refl

lemma keepsLexeme_read : read.KeepsLexeme := fun _ => .tail .refl .read

lemma keepsLexeme_readWhile (keep : Char → Bool) : (readWhile keep).KeepsLexeme :=
  fun _ => .tail .refl (.readWhile keep)

lemma keepsLexeme_unread (n : Nat) : (unread n).KeepsLexeme := fun _ => .tail .refl (.unread n)

lemma KeepsLexeme.bind {w : Walk α} {f : α → Walk β} (h : w.KeepsLexeme)
    (hf : ∀ a, (f a).KeepsLexeme) : (w >>= f).KeepsLexeme :=
  fun c => (h c).trans (hf _ _)

end Walk

/-- The decider begins no lexeme of its own. -/
def Decider.KeepsLexeme {σ : Type} (decider : Decider σ) : Prop :=
  ∀ memory, (decider memory).KeepsLexeme

/-- How an unopened document is scanned by a decider that keeps its lexemes. The pieces of text its
calls have read tile the text up to where the scan stops, and the chain is the tokens due for them;
at the end of the text it is closed by one more token if a kind was given for it. -/
def Document.ScanTiles {σ : Type} (d : Document) (eofKind : Option TokenKind) (decider : Decider σ)
    (memory : σ) : Prop :=
  let o := (d.scan eofKind decider memory).value
  let calls := d.calls eofKind decider memory
  let moved := calls.filter Call.moved
  let found := Token.sentinel d.id :: moved.filterMap (Call.token? d)
  match o.result with
  | .ok b =>
    Tiles d 0 (moved.map Call.region) d.len ∧ d.len.toNat = d.text.utf8ByteSize ∧
      moved = calls ∧ o.document.chain.toList = found ++ (eofKind.map d.endToken).toList ∧
      (o.document.chainFrom 0).getLast? = some b.tail ∧ b.size = o.document.real.length
  | .error (.noProgress offset) =>
    Tiles d 0 (moved.map Call.region) offset ∧
      (∃ last, calls = moved ++ [last] ∧ last.region = .point offset) ∧
      o.document.chain.toList = found
  | .error (.refused _) => False

section Tiling

variable {σ : Type} {decider : Decider σ} {d e : Document} {b : ChainBuilder} {c : Cursor}
  {calls : List Call} {m : σ}

namespace Decider.KeepsLexeme

lemma start_next (h : decider.KeepsLexeme) (m : σ) (c : Cursor) :
    (decider.next m c).start = c.pos :=
  (h m c.mark).start_eq

lemma region_call (h : decider.KeepsLexeme) (m : σ) (c : Cursor) :
    (decider.call m c).region = (decider.next m c).excerpt.span := by
  rw [Call.region, Cursor.excerpt, h.start_next]
  rfl

lemma moved_call_iff (h : decider.KeepsLexeme) (m : σ) (c : Cursor) :
    (decider.call m c).moved = true ↔ (decider.next m c).pos ≠ (decider.next m c).start := by
  rw [Call.moved, h.start_next, decide_eq_true_iff]
  rfl

lemma textAt?_region (h : decider.KeepsLexeme) (hs : Scanned d e b c calls) (m : σ) :
    d.textAt? (decider.call m c).region = some (decider.next m c).lexeme := by
  have hnext := hs.step.moved (decider.moves_next m c)
  obtain ⟨before, hplaced⟩ := hnext.placed
  have htext : d.text = (decider.next m c).text := by rw [hnext.text_eq, hs.text_eq]
  rw [h.region_call, Document.textAt?, htext]
  exact hplaced.slice_eq

/-- The token a scan mints after a call is the one due for it. -/
lemma minted?_call (h : decider.KeepsLexeme) (hs : Scanned d e b c calls)
    (hmove : (decider.next m c).pos ≠ (decider.next m c).start) :
    (decider.call m c).minted? d = (decider.call m c).token? d := by
  have htext := h.textAt?_region hs m
  rw [Decider.minted?_call hmove, Call.token?, htext, h.region_call]
  cases hl : decider.lexeme? m c with
  | none => simp [Decider.call, hl]
  | some lexeme =>
    obtain ⟨kind, constant⟩ := lexeme
    cases constant with
    | none => simp [Decider.call, hl, Document.mint, Document.imageOf, Cursor.excerpt]
    | some text => simp [Decider.call, hl, Document.mint, Document.imageOf, Cursor.excerpt]

end Decider.KeepsLexeme

/-- The calls made so far tile the text up to the cursor, and the tokens minted after them are those
due for what they have read. -/
structure Tiled (d : Document) (c : Cursor) (calls : List Call) : Prop where
  moved : ∀ call ∈ calls, call.moved = true
  minted : ∀ call ∈ calls, call.minted? d = call.token? d
  tiles : Tiles d 0 (calls.map Call.region) c.pos

namespace Tiled

lemma filter_moved (h : Tiled d c calls) : calls.filter Call.moved = calls :=
  List.filter_eq_self.2 h.moved

lemma chain_eq (h : Tiled d c calls) (hs : Scanned d e b c calls) :
    e.chain.toList = Token.sentinel d.id :: calls.filterMap (Call.token? d) := by
  rw [hs.chain_eq, List.filterMap_congr h.minted]

/-- A call that moves the cursor adds one tile. -/
lemma call (h : Tiled d c calls) (hs : Scanned d e b c calls) (hk : decider.KeepsLexeme)
    (hmove : (decider.next m c).pos ≠ (decider.next m c).start) :
    Tiled d (decider.next m c) (calls ++ [decider.call m c]) where
  moved := by
    intro call hcall
    rw [List.mem_append, List.mem_singleton] at hcall
    rcases hcall with hcall | rfl
    · exact h.moved call hcall
    · exact (hk.moved_call_iff m c).2 hmove
  minted := by
    intro call hcall
    rw [List.mem_append, List.mem_singleton] at hcall
    rcases hcall with hcall | rfl
    · exact h.minted call hcall
    · exact hk.minted?_call hs hmove
  tiles := by
    have hnext := hs.step.moved (decider.moves_next m c)
    obtain ⟨before, hplaced⟩ := hnext.placed
    have hlt : (decider.next m c).start < (decider.next m c).pos :=
      UInt32.lt_of_le_of_ne hplaced.start_le_pos hmove.symm
    rw [List.map_append]
    apply h.tiles.append
    rw [List.map_singleton]
    refine ⟨rfl, ?_, ?_, rfl⟩
    · rw [hk.region_call]
      exact hlt
    · rw [hk.textAt?_region hs]
      rfl

end Tiled

lemma tiled_scanInvariant (d : Document) (hk : decider.KeepsLexeme) :
    ScanInvariant decider.recorded fun e b c m => Scanned d e b c m.2 ∧ Tiled d c m.2 where
  skip := by
    rintro e b c ⟨m, calls⟩ ⟨h, ht⟩ - hs hl
    have hcall : Tiled d (decider.next m c) (calls ++ [decider.call m c]) := ht.call h hk hs
    exact ⟨h.skip hs hl, hcall⟩
  push := by
    rintro e b c ⟨m, calls⟩ lexeme f b' ⟨h, ht⟩ - hs hl hp
    have hcall : Tiled d (decider.next m c) (calls ++ [decider.call m c]) := ht.call h hk hs
    exact ⟨h.push hs hl hp, hcall⟩

/-- A scan of an unopened text that fits tiles it, if its decider begins no lexeme of its own. -/
theorem scan_tiles_text (d : Document) (hclosed : d.isOpened = false)
    (hfits : d.text.utf8ByteSize < UInt32.size) (eofKind : Option TokenKind)
    (hk : decider.KeepsLexeme) (memory : σ) : d.ScanTiles eofKind decider memory := by
  have hend := (tiled_scanInvariant d hk).scan eofKind (m := (memory, []))
    (ChainBuilder.start_of_not_isOpened hclosed hfits)
    ⟨Scanned.start hfits, nofun, nofun, rfl⟩
  have hstop := hend.stop fun h => h.1.step
  rw [Document.ScanTiles, Document.calls, d.value_scan eofKind decider memory]
  generalize (d.scan eofKind decider.recorded (memory, [])).value = o at hstop ⊢
  cases hstop with
  | @finished e b c m hinv ha hkind =>
    obtain ⟨h, ht⟩ := hinv
    have htiles := ht.tiles
    rw [h.pos_eq_len ha] at htiles
    simp only [ScanOutcome.forget, ht.filter_moved]
    refine ⟨htiles, Document.toNat_len hfits, trivial, ?_, h.step.tail_last, h.step.size_real⟩
    rw [ht.chain_eq h, hkind]
    simp
  | @closed e b c m kind hinv ha hkind =>
    obtain ⟨h, ht⟩ := hinv
    have htiles := ht.tiles
    rw [h.pos_eq_len ha] at htiles
    have hpushed := (h.step.moved .refl).pushed (e.mint kind c.mark.excerpt (some "")).value rfl
    simp only [ScanOutcome.forget, ht.filter_moved]
    refine ⟨htiles, Document.toNat_len hfits, trivial, ?_, hpushed.tail_last, hpushed.size_real⟩
    rw [Array.toList_push, ht.chain_eq h, hkind, h.endToken_eq ha]
    rfl
  | @stuck e b c m hinv ha hs =>
    obtain ⟨m, calls⟩ := m
    obtain ⟨h, ht⟩ := hinv
    -- the call that ends the scan is the one that did not move
    have hlast : (decider.call m c).moved ≠ true := by
      rw [Ne, hk.moved_call_iff m c]
      exact fun hne => hne hs
    have hoffset : (decider.next m c).pos = c.pos := Eq.trans hs (hk.start_next m c)
    have hmoved : (calls ++ [decider.call m c]).filter Call.moved = calls := by
      rw [List.filter_append, ht.filter_moved, List.filter_cons_of_neg hlast, List.filter_nil,
        List.append_nil]
    simp only [ScanOutcome.forget, Decider.memory_recorded, Decider.next_recorded, hmoved]
    refine ⟨hoffset ▸ ht.tiles, ⟨_, rfl, ?_⟩, ht.chain_eq h⟩
    rw [Call.region, hoffset]
    exact congrArg (Span.mk c.pos) hoffset

/-- Takes what stands between two blanks for a lexeme and skips each blank. -/
def Decider.words (kind : TokenKind) : Decider Unit := fun _ => do
  let first ← Walk.read
  if first = some ' ' then
    pure (none, ())
  else
    Walk.readWhile (· ≠ ' ')
    let _ ← Walk.read
    let past ← Walk.look Cursor.taken
    Walk.unread (if past.head? = some ' ' then 1 else 0)
    pure (some ⟨kind, none⟩, ())

lemma Decider.keepsLexeme_words (kind : TokenKind) : (words kind).KeepsLexeme := by
  intro memory
  refine .bind Walk.keepsLexeme_read fun first => ?_
  split
  · exact Walk.keepsLexeme_pure _
  · refine .bind (Walk.keepsLexeme_readWhile _) fun _ => .bind Walk.keepsLexeme_read fun _ => ?_
    exact .bind (Walk.keepsLexeme_look _) fun past =>
      .bind (Walk.keepsLexeme_unread _) fun _ => Walk.keepsLexeme_pure _

/-- A text of two words and a character of two bytes. -/
theorem scan_tiles_words :
    (Document.create ⟨0⟩ "é b" .unnamed false).isOpened = false ∧
      "é b".utf8ByteSize < UInt32.size ∧ (Decider.words ⟨7⟩).KeepsLexeme ∧
      (Document.create ⟨0⟩ "é b" .unnamed false).ScanTiles (some ⟨0⟩) (Decider.words ⟨7⟩) () :=
  ⟨rfl, by decide, Decider.keepsLexeme_words ⟨7⟩,
    scan_tiles_text (.create ⟨0⟩ "é b" .unnamed false) rfl (by decide) (some ⟨0⟩)
      (Decider.keepsLexeme_words ⟨7⟩) ()⟩

end Tiling

end FrontEnd
