import FrontEnd.Proofs.Scan.Tiling

/-!
# Where a scan makes no progress

A scan stops for want of progress after the first call of its decider that leaves an empty lexeme.
A call that has not moved the cursor leaves one, but so does a call that has read some text and has
begun a new lexeme behind it (`scan_stops_at_empty_lexeme`, `scan_stops_behind_skipped`).
-/

namespace FrontEnd

namespace Call

def leavesEmpty (call : Call) : Bool := call.after.pos = call.after.start

/-- The lexeme a call leaves lies in the text it has read. -/
def Within (call : Call) : Prop :=
  call.before.pos ≤ call.after.start ∧ call.after.start ≤ call.after.pos

variable {call : Call}

lemma Within.leavesEmpty_of_unmoved (h : call.Within) (hm : call.moved = false) :
    call.leavesEmpty = true := by
  have hpos : call.after.pos = call.before.pos := by simpa [moved] using hm
  have hle : call.after.pos ≤ call.after.start := hpos ▸ h.1
  exact decide_eq_true (UInt32.le_antisymm hle h.2)

lemma Within.lt_start_of_moved (h : call.Within) (he : call.leavesEmpty = true)
    (hm : call.moved = true) : call.before.pos < call.after.start := by
  have hpos : call.after.pos = call.after.start := of_decide_eq_true he
  have hne : call.after.pos ≠ call.before.pos := of_decide_eq_true hm
  exact UInt32.lt_of_le_of_ne h.1 (hpos ▸ hne.symm)

end Call

/-- After which of its calls a scan stops for want of progress. -/
structure Document.StopsAtEmptyLexeme {σ : Type} (d : Document) (eofKind : Option TokenKind)
    (decider : Decider σ) (memory : σ) : Prop where
  /-- It stops after a call exactly if the call leaves an empty lexeme. -/
  stops_iff : ∀ earlier call later, d.calls eofKind decider memory = earlier ++ call :: later →
    (later = [] ∧ (d.scan eofKind decider memory).value.result =
      .error (.noProgress call.after.pos) ↔ call.leavesEmpty = true)
  /-- It stops after a call only, at the offset where the call has left the cursor. -/
  stops_after : ∀ offset,
    (d.scan eofKind decider memory).value.result = .error (.noProgress offset) →
      ∃ earlier last, d.calls eofKind decider memory = earlier ++ [last] ∧
        last.after.pos = offset
  /-- A call that has not moved the cursor is one it stops after. -/
  unmoved : ∀ call ∈ d.calls eofKind decider memory, call.moved = false → call.leavesEmpty = true
  /-- Any other one has begun a lexeme of its own, behind the text it has read. -/
  moved : ∀ call ∈ d.calls eofKind decider memory, call.leavesEmpty = true → call.moved = true →
    call.before.pos < call.after.start

section Progress

variable {σ : Type} {decider : Decider σ} {d e : Document} {b : ChainBuilder} {c : Cursor}
  {calls : List Call} {m : σ}

lemma Scanned.within_call (h : Scanned d e b c calls) (decider : Decider σ) (m : σ) :
    (decider.call m c).Within := by
  obtain ⟨before, hc⟩ := h.step.placed
  obtain ⟨later, hnext⟩ := hc.mark.moves (decider.moves_next m c)
  exact ⟨hc.mark.start_le_start (decider.moves_next m c), hnext.start_le_pos⟩

/-- Each of the calls has left a lexeme in the text it has read. -/
def Progressed (calls : List Call) : Prop := ∀ call ∈ calls, call.Within ∧ call.leavesEmpty = false

lemma Progressed.call (hp : Progressed calls) (h : Scanned d e b c calls)
    (hs : (decider.next m c).pos ≠ (decider.next m c).start) :
    Progressed (calls ++ [decider.call m c]) := by
  intro call hcall
  rw [List.mem_append, List.mem_singleton] at hcall
  rcases hcall with hcall | rfl
  · exact hp call hcall
  · exact ⟨h.within_call decider m, decide_eq_false hs⟩

lemma progress_scanInvariant (d : Document) (decider : Decider σ) :
    ScanInvariant decider.recorded fun e b c m => Scanned d e b c m.2 ∧ Progressed m.2 where
  skip := by
    rintro e b c ⟨m, calls⟩ ⟨h, hp⟩ - hs hl
    exact ⟨h.skip hs hl, hp.call h hs⟩
  push := by
    rintro e b c ⟨m, calls⟩ lexeme f b' ⟨h, hp⟩ - hs hl hpush
    exact ⟨h.push hs hl hpush, hp.call h hs⟩

/-- A scan that reaches the end of the text has made progress in every call. -/
lemma Document.stopsAtEmptyLexeme_of_ok {eofKind : Option TokenKind} {m : σ} {b : ChainBuilder}
    (hr : (d.scan eofKind decider m).value.result = .ok b)
    (hp : Progressed (d.calls eofKind decider m)) : d.StopsAtEmptyLexeme eofKind decider m where
  stops_iff earlier call later hcalls := by
    have hmem : call ∈ d.calls eofKind decider m := by simp [hcalls]
    simp [hr, (hp call hmem).2]
  stops_after offset ho := by simp [hr] at ho
  unmoved call hcall hm := (hp call hcall).1.leavesEmpty_of_unmoved hm
  moved call hcall he hm := (hp call hcall).1.lt_start_of_moved he hm

/-- A scan that stops at an empty lexeme has made progress in every call but the last. -/
lemma Document.stopsAtEmptyLexeme_of_stuck {eofKind : Option TokenKind} {m : σ} {last : Call}
    (hr : (d.scan eofKind decider m).value.result = .error (.noProgress last.after.pos))
    (hcalls : d.calls eofKind decider m = calls ++ [last]) (hp : Progressed calls)
    (hlast : last.Within) (hempty : last.leavesEmpty = true) :
    d.StopsAtEmptyLexeme eofKind decider m := by
  have hwithin : ∀ call ∈ d.calls eofKind decider m, call.Within := by
    intro call hcall
    rw [hcalls, List.mem_append, List.mem_singleton] at hcall
    rcases hcall with hcall | rfl
    · exact (hp call hcall).1
    · exact hlast
  refine ⟨?_, ?_, ?_, ?_⟩
  · intro earlier call later hsplit
    rw [hcalls] at hsplit
    rcases List.eq_nil_or_concat later with rfl | ⟨between, z, rfl⟩
    · obtain ⟨-, hsame⟩ := List.append_inj' hsplit rfl
      obtain rfl : last = call := List.head_eq_of_cons_eq hsame
      exact iff_of_true ⟨rfl, hr⟩ hempty
    · -- the call is not the last one, hence it has made progress
      rw [List.concat_eq_append, ← List.cons_append, ← List.append_assoc] at hsplit
      obtain ⟨hinit, -⟩ := List.append_inj' hsplit rfl
      have hmem : call ∈ calls := by simp [hinit]
      simp [(hp call hmem).2]
  · intro offset ho
    rw [hr] at ho
    cases ho
    exact ⟨calls, last, hcalls, rfl⟩
  · exact fun call hcall hm => (hwithin call hcall).leavesEmpty_of_unmoved hm
  · exact fun call hcall he hm => (hwithin call hcall).lt_start_of_moved he hm

/-- A scan of an unopened text that fits stops for want of progress after a call of its decider
exactly if the call leaves an empty lexeme. -/
theorem scan_stops_at_empty_lexeme (d : Document) (hclosed : d.isOpened = false)
    (hfits : d.text.utf8ByteSize < UInt32.size) (eofKind : Option TokenKind) (decider : Decider σ)
    (memory : σ) : d.StopsAtEmptyLexeme eofKind decider memory := by
  have hend := (progress_scanInvariant d decider).scan eofKind (m := (memory, []))
    (ChainBuilder.start_of_not_isOpened hclosed hfits) ⟨Scanned.start hfits, nofun⟩
  have hstop := hend.stop fun h => h.1.step
  have hresult : (d.scan eofKind decider memory).value.result =
      (d.scan eofKind decider.recorded (memory, [])).value.result := by
    rw [d.value_scan eofKind decider memory]
    rfl
  have hcalls : d.calls eofKind decider memory =
      (d.scan eofKind decider.recorded (memory, [])).value.memory.2 := rfl
  generalize (d.scan eofKind decider.recorded (memory, [])).value = o at hstop hresult hcalls
  cases hstop with
  | finished h _ _ => exact Document.stopsAtEmptyLexeme_of_ok hresult (hcalls ▸ h.2)
  | closed h _ _ => exact Document.stopsAtEmptyLexeme_of_ok hresult (hcalls ▸ h.2)
  | @stuck e b c m h _ hs =>
    obtain ⟨m, calls⟩ := m
    exact Document.stopsAtEmptyLexeme_of_stuck hresult hcalls h.2 (h.1.within_call decider m)
      (decide_eq_true hs)

/-- Passes over one character and begins a lexeme behind it. -/
def Decider.behind : Decider Unit := fun _ => do
  let _ ← Walk.read
  Walk.mark
  pure (none, ())

/-- A scan that stops after its decider has read a character. -/
theorem scan_stops_behind_skipped :
    ((Document.create ⟨0⟩ "a" .unnamed false).scan none Decider.behind ()).value.result =
        .error (.noProgress 1) ∧
      ((Document.create ⟨0⟩ "a" .unnamed false).calls none Decider.behind ()).map Call.region =
        [⟨0, 1⟩] :=
  ⟨by decide +kernel, by decide +kernel⟩

theorem scan_stops_at_empty_behind :
    (Document.create ⟨0⟩ "a" .unnamed false).isOpened = false ∧ "a".utf8ByteSize < UInt32.size ∧
      (Document.create ⟨0⟩ "a" .unnamed false).StopsAtEmptyLexeme none Decider.behind () :=
  ⟨rfl, by decide, scan_stops_at_empty_lexeme _ rfl (by decide) none Decider.behind ()⟩

end Progress

end FrontEnd
