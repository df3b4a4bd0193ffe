import FrontEnd.Proofs.Cursor.Placement
import FrontEnd.Proofs.Document.Operations

/-!
# Chain and cursor keep step

While a scan goes on, its builder stands at the end of the chain and the chain ends no later than
the cursor, whatever the decider does with the cursor. A token read at the cursor then passes all
checks of the document (`InStep.push_ok`), so a scan refuses no token and ends after no more calls
than the text has characters (`scan_ends_in_step`).
-/

namespace FrontEnd

lemma Document.toNat_len {d : Document} (h : d.text.utf8ByteSize < UInt32.size) :
    d.len.toNat = d.text.utf8ByteSize := by
  rw [Document.len, UInt32.ofNatClamp_eq_ofNat _ h, UInt32.toNat_ofNat_of_lt' h]

/-- The builder stands at the end of the chain, and the chain ends no later than the cursor, which
stands in the text of the document. -/
structure InStep (d : Document) (b : ChainBuilder) (c : Cursor) : Prop where
  text_eq : c.text = d.text
  placed : ∃ before, c.Placed before
  holds : d.Holds b.tail
  last : d.chain.size = b.tail.position + 1
  size_eq : b.size = b.tail.position
  behind : b.tail.token.span.stop ≤ c.pos

namespace InStep

variable {d : Document} {b : ChainBuilder} {c next : Cursor}

lemma fits (h : InStep d b c) : d.text.utf8ByteSize < UInt32.size := by
  obtain ⟨before, hc⟩ := h.placed
  exact h.text_eq ▸ hc.fits

lemma tail_last (h : InStep d b c) : (d.chainFrom 0).getLast? = some b.tail :=
  Document.getLast?_chainFrom h.holds h.last

lemma size_real (h : InStep d b c) : b.size = d.real.length := by
  rw [Document.real, Document.length_chainFrom, h.last, h.size_eq, Nat.add_sub_cancel]

lemma start (hfits : d.text.utf8ByteSize < UInt32.size) :
    InStep { d with chain := #[Token.sentinel d.id] } ⟨⟨Token.sentinel d.id, 0⟩, 0⟩
      (Cursor.ofText d.text) where
  text_eq := rfl
  placed := ⟨[], Cursor.placed_ofText hfits⟩
  holds := Document.holds_iff.2 rfl
  last := rfl
  size_eq := rfl
  behind := UInt32.zero_le

/-- A new lexeme begins behind the chain, wherever it ends. -/
lemma behind_start (h : InStep d b c) (m : c.mark.Moves next) :
    b.tail.token.span.stop ≤ next.start := by
  obtain ⟨before, hc⟩ := h.placed
  exact UInt32.le_trans h.behind (hc.mark.start_le_start m)

/-- The decider cannot bring the cursor out of step. -/
lemma moved (h : InStep d b c) (m : c.mark.Moves next) : InStep d b next where
  text_eq := m.text_eq.trans h.text_eq
  placed := by
    obtain ⟨before, hc⟩ := h.placed
    obtain ⟨later, hn⟩ := hc.mark.moves m
    exact ⟨_, hn⟩
  holds := h.holds
  last := h.last
  size_eq := h.size_eq
  behind := by
    obtain ⟨before, hc⟩ := h.placed
    obtain ⟨later, hn⟩ := hc.mark.moves m
    exact UInt32.le_trans (h.behind_start m) hn.start_le_pos

/-- A token of the lexeme at the cursor passes all checks if the lexeme begins behind the chain. -/
lemma linkError?_of_span (h : InStep d b c) (hb : b.tail.token.span.stop ≤ c.start) {t : Token}
    (hown : t.document = d.id) (hspan : t.span = c.excerpt.span) :
    d.linkError? b.tail t = none := by
  obtain ⟨before, hc⟩ := h.placed
  have hlen : c.pos ≤ d.len := by
    rw [UInt32.le_iff_toNat_le, Document.toNat_len h.fits, ← h.text_eq]
    exact hc.pos_le_size
  rw [Document.linkError?_eq_none_iff, hspan]
  exact ⟨hown, hc.start_le_pos, hlen, hb, h.last⟩

/-- A lexeme that begins behind the chain becomes a token that no check stops. -/
lemma linkError?_eq_none (h : InStep d b c) (hb : b.tail.token.span.stop ≤ c.start)
    (kind : TokenKind) (constant : Option String) :
    d.linkError? b.tail (d.mint kind c.excerpt constant).value = none :=
  h.linkError?_of_span hb rfl rfl

lemma push_ok (h : InStep d b c) (hb : b.tail.token.span.stop ≤ c.start) (kind : TokenKind)
    (constant : Option String) :
    (b.push d kind c.excerpt constant).value =
      (.ok ⟨⟨(d.mint kind c.excerpt constant).value, d.chain.size⟩, b.size + 1⟩,
        { d with chain := d.chain.push (d.mint kind c.excerpt constant).value }) := by
  rw [ChainBuilder.value_push, ChainBuilder.attach_eq,
    Document.link_of_no_error (h.linkError?_eq_none hb kind constant)]
  rfl

lemma pushed (h : InStep d b c) (t : Token) (ht : t.span.stop = c.pos) :
    InStep { d with chain := d.chain.push t } ⟨⟨t, d.chain.size⟩, b.size + 1⟩ c where
  text_eq := h.text_eq
  placed := h.placed
  holds := by simp [Document.holds_iff]
  last := by simp
  size_eq := by
    have hlast := h.last
    have hsize := h.size_eq
    simp only
    omega
  behind := by rw [ht]; exact UInt32.le_refl _

end InStep

/-! ### What a scan has done -/

/-- The token minted after a call, if the call read something and named it. -/
def Call.minted? (d : Document) (call : Call) : Option Token :=
  if call.after.pos = call.after.start then none
  else call.lexeme?.map fun lexeme =>
    (d.mint lexeme.kind call.after.excerpt lexeme.constant).value

/-- The token that closes the chain of a document at the end of its text. -/
def Document.endToken (d : Document) (kind : TokenKind) : Token :=
  ⟨kind, .shared "", .point d.len, d.id⟩

/-- What a scan of `d` has done before a round: chain and cursor are in step, each call has used up
a character of the text, and the chain is what was minted after the calls. -/
structure Scanned (d e : Document) (b : ChainBuilder) (c : Cursor) (calls : List Call) : Prop where
  step : InStep e b c
  id_eq : e.id = d.id
  text_eq : e.text = d.text
  length_le : calls.length + c.ahead.length ≤ d.text.length
  chain_eq : e.chain.toList = Token.sentinel d.id :: calls.filterMap (Call.minted? d)

section Scanned

variable {σ : Type} {d e : Document} {b : ChainBuilder} {c : Cursor} {m : σ} {calls : List Call}

lemma Document.value_mint_of_id_eq (h : e.id = d.id) (kind : TokenKind) (excerpt : Excerpt)
    (constant : Option String) :
    (e.mint kind excerpt constant).value = (d.mint kind excerpt constant).value := by
  rw [mint, mint, h]

lemma Decider.minted?_call {decider : Decider σ}
    (hs : (decider.next m c).pos ≠ (decider.next m c).start) :
    (decider.call m c).minted? d = (decider.lexeme? m c).map fun lexeme =>
      (d.mint lexeme.kind (decider.next m c).excerpt lexeme.constant).value :=
  if_neg hs

namespace Scanned

lemma start (hfits : d.text.utf8ByteSize < UInt32.size) :
    Scanned d { d with chain := #[Token.sentinel d.id] } ⟨⟨Token.sentinel d.id, 0⟩, 0⟩
      (Cursor.ofText d.text) [] where
  step := InStep.start hfits
  id_eq := rfl
  text_eq := rfl
  length_le := by simp [Cursor.ofText, String.length_toList]
  chain_eq := rfl

lemma length_call (h : Scanned d e b c calls) (decider : Decider σ)
    (hs : (decider.next m c).pos ≠ (decider.next m c).start) :
    (calls ++ [decider.call m c]).length + (decider.next m c).ahead.length ≤ d.text.length := by
  have hlt := (decider.moves_next m c).ahead_length_lt hs
  have hle := h.length_le
  rw [List.length_append, List.length_singleton]
  omega

lemma skip (h : Scanned d e b c calls) {decider : Decider σ}
    (hs : (decider.next m c).pos ≠ (decider.next m c).start) (hl : decider.lexeme? m c = none) :
    Scanned d e b (decider.next m c) (calls ++ [decider.call m c]) where
  step := h.step.moved (decider.moves_next m c)
  id_eq := h.id_eq
  text_eq := h.text_eq
  length_le := h.length_call decider hs
  chain_eq := by
    have hnone : (decider.call m c).minted? d = none := by
      rw [Decider.minted?_call hs, hl, Option.map_none]
    rw [List.filterMap_append, List.filterMap_cons, hnone, h.chain_eq]
    simp

lemma push (h : Scanned d e b c calls) {decider : Decider σ} {lexeme : Lexeme} {f : Document}
    {b' : ChainBuilder} (hs : (decider.next m c).pos ≠ (decider.next m c).start)
    (hl : decider.lexeme? m c = some lexeme)
    (hp : (b.push e lexeme.kind (decider.next m c).excerpt lexeme.constant).value = (.ok b', f)) :
    Scanned d f b' (decider.next m c) (calls ++ [decider.call m c]) := by
  have hnext := h.step.moved (decider.moves_next m c)
  have hsome : (decider.call m c).minted? d =
      some (e.mint lexeme.kind (decider.next m c).excerpt lexeme.constant).value := by
    rw [Decider.minted?_call hs, hl, Option.map_some, Document.value_mint_of_id_eq h.id_eq]
  rw [hnext.push_ok (h.step.behind_start (decider.moves_next m c))] at hp
  obtain ⟨rfl, rfl⟩ : _ = b' ∧ _ = f := by simpa using hp
  exact
    { step := hnext.pushed _ rfl
      id_eq := h.id_eq
      text_eq := h.text_eq
      length_le := h.length_call decider hs
      chain_eq := by
        rw [List.filterMap_append, List.filterMap_cons, hsome, Array.toList_push, h.chain_eq]
        simp }

lemma pos_eq_len (h : Scanned d e b c calls) (ha : c.ahead = []) : c.pos = d.len := by
  obtain ⟨before, hplaced⟩ := h.step.placed
  have hfits : d.text.utf8ByteSize < UInt32.size := h.text_eq ▸ h.step.fits
  rw [← UInt32.toNat_inj, hplaced.pos_eq_size ha, h.step.text_eq, h.text_eq,
    Document.toNat_len hfits]

lemma endToken_eq (h : Scanned d e b c calls) (ha : c.ahead = []) (kind : TokenKind) :
    (e.mint kind c.mark.excerpt (some "")).value = d.endToken kind := by
  rw [Document.endToken, ← h.pos_eq_len ha, ← h.id_eq]
  rfl

end Scanned

lemma scanned_scanInvariant (d : Document) (decider : Decider σ) :
    ScanInvariant decider.recorded fun e b c m => Scanned d e b c m.2 where
  skip h _ hs hl := h.skip hs hl
  push h _ hs hl hp := h.push hs hl hp

end Scanned

/-! ### Every scan ends -/

section Ends

variable {σ : Type} {decider : Decider σ}

/-- How a scan ends that refuses no token: behind the last lexeme, behind the token that closes the
chain, or at an empty lexeme. -/
inductive ScanStop (decider : Decider σ) (eofKind : Option TokenKind)
    (I : Document → ChainBuilder → Cursor → σ → Prop) : ScanOutcome σ → Prop where
  | finished {e b c m} : I e b c m → c.ahead = [] → eofKind = none →
      ScanStop decider eofKind I ⟨.ok b, e, m⟩
  | closed {e b c m kind} : I e b c m → c.ahead = [] → eofKind = some kind →
      ScanStop decider eofKind I
        ⟨.ok ⟨⟨(e.mint kind c.mark.excerpt (some "")).value, e.chain.size⟩, b.size + 1⟩,
          { e with chain := e.chain.push (e.mint kind c.mark.excerpt (some "")).value }, m⟩
  | stuck {e b c m} : I e b c m → c.ahead ≠ [] →
      (decider.next m c).pos = (decider.next m c).start →
      ScanStop decider eofKind I
        ⟨.error (.noProgress (decider.next m c).pos), e, decider.memory m c⟩

lemma ScanEnd.stop {I : Document → ChainBuilder → Cursor → σ → Prop}
    {eofKind : Option TokenKind} {o : ScanOutcome σ} (h : ScanEnd decider eofKind I o)
    (hI : ∀ {e b c m}, I e b c m → InStep e b c) : ScanStop decider eofKind I o := by
  cases h with
  | finished h ha hkind => exact .finished h ha hkind
  | closed h ha hkind hp =>
    rw [((hI h).moved .refl).push_ok (hI h).behind] at hp
    cases hp
    exact .closed h ha hkind
  | closeRefused h _ _ hp =>
    rw [((hI h).moved .refl).push_ok (hI h).behind] at hp
    cases hp
  | stuck h ha hs => exact .stuck h ha hs
  | @refused e b c m lexeme f cause h _ _ _ hp =>
    have hnext := (hI h).moved (decider.moves_next m c)
    rw [hnext.push_ok ((hI h).behind_start (decider.moves_next m c))] at hp
    cases hp

lemma scanned_stop (decider : Decider σ) {d : Document} (hopen : d.isOpened = false)
    (hfits : d.text.utf8ByteSize < UInt32.size) (eofKind : Option TokenKind) (m : σ) :
    ScanStop decider.recorded eofKind (fun e b c m => Scanned d e b c m.2)
      (d.scan eofKind decider.recorded (m, [])).value := by
  have hend := (scanned_scanInvariant d decider).scan eofKind (m := (m, []))
    (ChainBuilder.start_of_not_isOpened hopen hfits) (Scanned.start hfits)
  exact hend.stop Scanned.step

/-- A scan of a text that fits ends after no more calls of the decider than the text has
characters. It refuses no token, and stops early only at a decider that leaves an empty lexeme;
if the document was open, it is refused itself and asks the decider nothing. -/
theorem scan_ends_in_step (d : Document) (hfits : d.text.utf8ByteSize < UInt32.size)
    (eofKind : Option TokenKind) (decider : Decider σ) (memory : σ) :
    (d.calls eofKind decider memory).length ≤ d.text.length ∧
    (d.isOpened = false →
      (∃ b, (d.scan eofKind decider memory).value.result = .ok b) ∨
        ∃ offset, (d.scan eofKind decider memory).value.result = .error (.noProgress offset)) ∧
    (d.isOpened = true →
      (d.scan eofKind decider memory).value.result = .error (.refused .alreadyOpened) ∧
        d.calls eofKind decider memory = [] ∧
        (d.scan eofKind decider memory).value.document = d) := by
  cases hopen : d.isOpened with
  | true =>
    have hs := ChainBuilder.start_of_isOpened hopen hfits
    have hnone : d.calls eofKind decider memory = [] := by
      rw [Document.calls, Document.scan_of_refused hs]
    rw [hnone, Document.scan_of_refused hs]
    exact ⟨Nat.zero_le _, nofun, fun _ => ⟨rfl, rfl, rfl⟩⟩
  | false =>
    have hstop := scanned_stop decider hopen hfits eofKind memory
    rw [Document.calls, d.value_scan eofKind decider memory]
    generalize (d.scan eofKind decider.recorded (memory, [])).value = o at hstop ⊢
    cases hstop with
    | finished h _ _ =>
      exact ⟨Nat.le_trans (Nat.le_add_right _ _) h.length_le, fun _ => .inl ⟨_, rfl⟩, nofun⟩
    | closed h _ _ =>
      exact ⟨Nat.le_trans (Nat.le_add_right _ _) h.length_le, fun _ => .inl ⟨_, rfl⟩, nofun⟩
    | stuck h ha _ =>
      have hle := h.length_le
      have hpos := List.length_pos_iff.2 ha
      refine ⟨?_, fun _ => .inr ⟨_, rfl⟩, nofun⟩
      rw [Decider.memory_recorded, List.length_append, List.length_singleton]
      omega

/-- Passes over one character, takes the next for a lexeme and reads ahead of it in vain. -/
def Decider.every (kind : TokenKind) : Decider Unit := fun _ => do
  let _ ← Walk.read
  let _ ← Walk.markAndRead
  let ahead ← Walk.read
  Walk.unread (if ahead.isSome then 1 else 0)
  pure (some ⟨kind, none⟩, ())

theorem scan_every_ends :
    "é b".utf8ByteSize < UInt32.size ∧
      ((Document.create ⟨0⟩ "é b" .unnamed false).calls none (Decider.every ⟨7⟩) ()).length ≤ 3 ∧
      ((∃ b, ((Document.create ⟨0⟩ "é b" .unnamed false).scan none
          (Decider.every ⟨7⟩) ()).value.result = .ok b) ∨
        ∃ offset, ((Document.create ⟨0⟩ "é b" .unnamed false).scan none
          (Decider.every ⟨7⟩) ()).value.result = .error (.noProgress offset)) := by
  have hfits : "é b".utf8ByteSize < UInt32.size := by decide
  obtain ⟨hcalls, hclosed, -⟩ := scan_ends_in_step (.create ⟨0⟩ "é b" .unnamed false) hfits none
    (Decider.every ⟨7⟩) ()
  exact ⟨hfits, hcalls, hclosed rfl⟩

/-! ### The tokens of a scan -/

/-- The tokens minted in the course of a scan: after its calls, and at the end of the text. -/
def Document.scanTokens (d : Document) (eofKind : Option TokenKind) (decider : Decider σ)
    (memory : σ) : List Token :=
  (d.calls eofKind decider memory).filterMap (Call.minted? d) ++
    match (d.scan eofKind decider memory).value.result with
    | .ok _ => (eofKind.map d.endToken).toList
    | .error _ => []

lemma Document.chain_scan_of_not_isOpened {d : Document} (hopen : d.isOpened = false)
    (hfits : d.text.utf8ByteSize < UInt32.size) (eofKind : Option TokenKind) (m : σ) :
    (d.scan eofKind decider m).value.document.chain.toList =
      Token.sentinel d.id :: d.scanTokens eofKind decider m := by
  have hstop := scanned_stop decider hopen hfits eofKind m
  rw [Document.scanTokens, Document.calls, d.value_scan eofKind decider m]
  generalize (d.scan eofKind decider.recorded (m, [])).value = o at hstop ⊢
  cases hstop with
  | finished h _ hkind =>
    simp only [ScanOutcome.forget]
    rw [h.chain_eq, hkind]
    simp
  | closed h ha hkind =>
    simp only [ScanOutcome.forget]
    rw [Array.toList_push, h.chain_eq, hkind, h.endToken_eq ha]
    rfl
  | @stuck e b c m h _ hs =>
    obtain ⟨m, calls⟩ := m
    -- nothing is minted after the call that ends the scan
    have hnone : (decider.call m c).minted? d = none := if_pos hs
    simp only [ScanOutcome.forget, Decider.memory_recorded]
    rw [List.filterMap_append, List.filterMap_cons, hnone, h.chain_eq]
    simp

/-- What a scan links are the tokens it has minted, in their order. -/
theorem Document.scan_links (d : Document) (eofKind : Option TokenKind) (decider : Decider σ)
    (m : σ) :
    ∃ links, d.Becomes links (d.scan eofKind decider m).value.document ∧
      links.map LinkedToken.token = d.scanTokens eofKind decider m := by
  obtain ⟨⟨links, hgrow⟩, -⟩ := d.scan_becomes eofKind decider m
  rcases ChainBuilder.start_cases d with ⟨cause, hs⟩ | ⟨hc, hfits, -⟩
  · refine ⟨[], ?_, ?_⟩
    · rw [Document.scan_of_refused hs]
      exact .same
    · rw [Document.scanTokens, Document.calls, Document.scan_of_refused hs,
        Document.scan_of_refused hs]
      rfl
  · refine ⟨links, hgrow, ?_⟩
    have hopen : d.isOpened = false := Document.isOpened_eq_false_iff.2 hc
    have hreal : d.real = [] := by
      rw [Document.real, Document.chainFrom, hc]
      rfl
    have hlinks : (d.scan eofKind decider m).value.document.real = links := by
      rw [hgrow.real_eq, hreal, List.nil_append]
    rw [← hlinks, Document.real, Document.map_token_chainFrom,
      Document.chain_scan_of_not_isOpened hopen hfits]
    rfl

end Ends

end FrontEnd
