import FrontEnd.Scan
import Mathlib.Tactic.Lemma

/-!
# The calls of a decider

What a scan asks its decider is seen by scanning with a decider that also writes down its calls.
Recording changes nothing else (`scan_recorded`), so `Document.calls` are the calls of the scan
itself. All else is proved of a scan by an invariant of its rounds: what holds at the first lexeme
and is kept where a lexeme is skipped or pushed holds wherever the scan ends (`ScanInvariant.scan`).
-/

namespace FrontEnd

/-- One call of a decider: the cursor it was given and left, and its answer. -/
structure Call where
  before : Cursor
  after : Cursor
  lexeme? : Option Lexeme

namespace Decider

variable {σ : Type}

def lexeme? (decider : Decider σ) (memory : σ) (c : Cursor) : Option Lexeme :=
  ((decider memory).run c.mark).1.1

def memory (decider : Decider σ) (memory : σ) (c : Cursor) : σ :=
  ((decider memory).run c.mark).1.2

def next (decider : Decider σ) (memory : σ) (c : Cursor) : Cursor :=
  ((decider memory).run c.mark).2.1

lemma moves_next (decider : Decider σ) (memory : σ) (c : Cursor) :
    c.mark.Moves (decider.next memory c) :=
  ((decider memory).run c.mark).2.2

def call (decider : Decider σ) (memory : σ) (c : Cursor) : Call :=
  ⟨c.mark, decider.next memory c, decider.lexeme? memory c⟩

/-- The same decider, which writes its calls down. -/
def recorded (decider : Decider σ) : Decider (σ × List Call) := fun (memory, calls) => do
  let before ← Walk.look id
  let (lexeme?, memory) ← decider memory
  let after ← Walk.look id
  pure (lexeme?, memory, calls ++ [⟨before, after, lexeme?⟩])

@[simp] lemma lexeme?_recorded (decider : Decider σ) (m : σ) (calls : List Call) (c : Cursor) :
    decider.recorded.lexeme? (m, calls) c = decider.lexeme? m c := rfl

@[simp] lemma memory_recorded (decider : Decider σ) (m : σ) (calls : List Call) (c : Cursor) :
    decider.recorded.memory (m, calls) c = (decider.memory m c, calls ++ [decider.call m c]) := rfl

@[simp] lemma next_recorded (decider : Decider σ) (m : σ) (calls : List Call) (c : Cursor) :
    decider.recorded.next (m, calls) c = decider.next m c := rfl

end Decider

section Loop

variable {σ : Type} (decider : Decider σ)

lemma scanLexemes_of_ahead_nil {d : Document} {b : ChainBuilder} {c : Cursor} {m : σ}
    {log : Array DocumentEvent} (h : c.ahead = []) :
    scanLexemes decider d b c m log = (.ok (), ⟨d, b, c, m, log⟩) := by
  rw [scanLexemes, if_pos (by simp [Cursor.atEnd, h])]

lemma scanLexemes_of_stuck {d : Document} {b : ChainBuilder} {c : Cursor} {m : σ}
    {log : Array DocumentEvent} (h : c.ahead ≠ [])
    (hs : (decider.next m c).pos = (decider.next m c).start) :
    scanLexemes decider d b c m log = (.error (.noProgress (decider.next m c).pos),
      ⟨d, b, decider.next m c, decider.memory m c, log⟩) := by
  rw [scanLexemes, if_neg (by simpa [Cursor.atEnd] using h)]
  exact dif_pos hs

lemma scanLexemes_of_skip {d : Document} {b : ChainBuilder} {c : Cursor} {m : σ}
    {log : Array DocumentEvent} (h : c.ahead ≠ [])
    (hs : (decider.next m c).pos ≠ (decider.next m c).start) (hl : decider.lexeme? m c = none) :
    scanLexemes decider d b c m log =
      scanLexemes decider d b (decider.next m c) (decider.memory m c) log := by
  rw [scanLexemes, if_neg (by simpa [Cursor.atEnd] using h)]
  refine (dif_neg hs).trans ?_
  rw [show ((decider m).run c.mark).1.1 = none from hl]
  rfl

lemma scanLexemes_of_push {d : Document} {b : ChainBuilder} {c : Cursor} {m : σ}
    {log : Array DocumentEvent} {lexeme : Lexeme} (h : c.ahead ≠ [])
    (hs : (decider.next m c).pos ≠ (decider.next m c).start)
    (hl : decider.lexeme? m c = some lexeme) :
    scanLexemes decider d b c m log =
      match b.push d lexeme.kind (decider.next m c).excerpt lexeme.constant with
      | ⟨(.error cause, e), events⟩ => (.error (.refused cause),
          ⟨e, b, decider.next m c, decider.memory m c, log ++ events⟩)
      | ⟨(.ok b', e), events⟩ =>
          scanLexemes decider e b' (decider.next m c) (decider.memory m c) (log ++ events) := by
  rw [scanLexemes, if_neg (by simpa [Cursor.atEnd] using h)]
  refine (dif_neg hs).trans ?_
  rw [show ((decider m).run c.mark).1.1 = some lexeme from hl]
  rfl

end Loop

/-! ### Recording changes nothing -/

def ScanState.forget {σ : Type} (s : ScanState (σ × List Call)) : ScanState σ :=
  ⟨s.document, s.builder, s.cursor, s.memory.1, s.log⟩

def ScanOutcome.forget {σ : Type} (o : ScanOutcome (σ × List Call)) : ScanOutcome σ :=
  ⟨o.result, o.document, o.memory.1⟩

lemma scanLexemes_recorded {σ : Type} (decider : Decider σ) (d : Document) (b : ChainBuilder)
    (c : Cursor) (m : σ) (calls : List Call) (log : Array DocumentEvent) :
    ((scanLexemes decider.recorded d b c (m, calls) log).1,
      (scanLexemes decider.recorded d b c (m, calls) log).2.forget) =
      scanLexemes decider d b c m log := by
  induction hn : c.ahead.length using Nat.strongRecOn generalizing d b c m calls log with
  | ind n ih =>
    subst hn
    by_cases ha : c.ahead = []
    · rw [scanLexemes_of_ahead_nil decider.recorded ha, scanLexemes_of_ahead_nil decider ha]
      rfl
    by_cases hs : (decider.next m c).pos = (decider.next m c).start
    · rw [scanLexemes_of_stuck decider.recorded (m := (m, calls)) ha hs,
        scanLexemes_of_stuck decider ha hs]
      rfl
    have hlt := (decider.moves_next m c).ahead_length_lt hs
    cases hl : decider.lexeme? m c with
    | none =>
      rw [scanLexemes_of_skip decider.recorded (m := (m, calls)) ha hs hl,
        scanLexemes_of_skip decider ha hs hl]
      exact ih _ hlt _ _ _ _ _ _ rfl
    | some lexeme =>
      rw [scanLexemes_of_push decider.recorded (m := (m, calls)) ha hs hl,
        scanLexemes_of_push decider ha hs hl, Decider.next_recorded, Decider.memory_recorded]
      split
      next => rfl
      next => exact ih _ hlt _ _ _ _ _ _ rfl

lemma ScanState.close_forget {σ : Type} (s : ScanState (σ × List Call))
    (eofKind : Option TokenKind) :
    (s.close eofKind).map ScanOutcome.forget = s.forget.close eofKind := by
  cases eofKind with
  | none => rfl
  | some kind =>
    simp only [ScanState.close, ScanState.forget]
    split
    next => rfl
    next => rfl

/-- A scan that records the calls of its decider ends like one that does not. -/
theorem Document.scan_recorded {σ : Type} (d : Document) (eofKind : Option TokenKind)
    (decider : Decider σ) (m : σ) (calls : List Call) :
    (d.scan eofKind decider.recorded (m, calls)).map ScanOutcome.forget =
      d.scan eofKind decider m := by
  unfold Document.scan
  split
  next => rfl
  next b e events _ =>
    have hr := scanLexemes_recorded decider e b (Cursor.ofText e.text) m calls events.toArray
    rw [← hr]
    split
    next err s hs =>
      rw [hs]
      rfl
    next s hs =>
      rw [hs]
      exact s.close_forget eofKind

lemma Document.value_scan {σ : Type} (d : Document) (eofKind : Option TokenKind)
    (decider : Decider σ) (m : σ) :
    (d.scan eofKind decider m).value =
      (d.scan eofKind decider.recorded (m, [])).value.forget := by
  rw [← d.scan_recorded eofKind decider m []]
  rfl

/-- The calls a scan makes of its decider, the first one first. -/
def Document.calls {σ : Type} (d : Document) (eofKind : Option TokenKind) (decider : Decider σ)
    (memory : σ) : List Call :=
  (d.scan eofKind decider.recorded (memory, [])).value.memory.2

/-! ### Invariants of a scan -/

/-- What the opened document, the builder, the cursor and the memory of the decider satisfy before
every round of a scan. -/
structure ScanInvariant {σ : Type} (decider : Decider σ)
    (I : Document → ChainBuilder → Cursor → σ → Prop) : Prop where
  skip : ∀ {d b c m}, I d b c m → c.ahead ≠ [] →
    (decider.next m c).pos ≠ (decider.next m c).start → decider.lexeme? m c = none →
    I d b (decider.next m c) (decider.memory m c)
  push : ∀ {d b c m lexeme e b'}, I d b c m → c.ahead ≠ [] →
    (decider.next m c).pos ≠ (decider.next m c).start → decider.lexeme? m c = some lexeme →
    (b.push d lexeme.kind (decider.next m c).excerpt lexeme.constant).value = (.ok b', e) →
    I e b' (decider.next m c) (decider.memory m c)

/-- How a scan ends that was able to open its document. -/
inductive ScanEnd {σ : Type} (decider : Decider σ) (eofKind : Option TokenKind)
    (I : Document → ChainBuilder → Cursor → σ → Prop) : ScanOutcome σ → Prop where
  | finished {d b c m} : I d b c m → c.ahead = [] → eofKind = none →
      ScanEnd decider eofKind I ⟨.ok b, d, m⟩
  | closed {d b c m kind e b'} : I d b c m → c.ahead = [] → eofKind = some kind →
      (b.push d kind c.mark.excerpt (some "")).value = (.ok b', e) →
      ScanEnd decider eofKind I ⟨.ok b', e, m⟩
  | closeRefused {d b c m kind e cause} : I d b c m → c.ahead = [] → eofKind = some kind →
      (b.push d kind c.mark.excerpt (some "")).value = (.error cause, e) →
      ScanEnd decider eofKind I ⟨.error (.refused cause), e, m⟩
  | stuck {d b c m} : I d b c m → c.ahead ≠ [] →
      (decider.next m c).pos = (decider.next m c).start →
      ScanEnd decider eofKind I
        ⟨.error (.noProgress (decider.next m c).pos), d, decider.memory m c⟩
  | refused {d b c m lexeme e cause} : I d b c m → c.ahead ≠ [] →
      (decider.next m c).pos ≠ (decider.next m c).start → decider.lexeme? m c = some lexeme →
      (b.push d lexeme.kind (decider.next m c).excerpt lexeme.constant).value = (.error cause, e) →
      ScanEnd decider eofKind I ⟨.error (.refused cause), e, decider.memory m c⟩

def scanOutcome {σ : Type} (eofKind : Option TokenKind) :
    Except ScanError Unit × ScanState σ → ScanOutcome σ
  | (.error e, s) => ⟨.error e, s.document, s.memory⟩
  | (.ok (), s) => (s.close eofKind).value

lemma ScanInvariant.close {σ : Type} {decider : Decider σ}
    {I : Document → ChainBuilder → Cursor → σ → Prop} (eofKind : Option TokenKind) {d : Document}
    {b : ChainBuilder} {c : Cursor} {m : σ} {log : Array DocumentEvent} (h : I d b c m)
    (ha : c.ahead = []) :
    ScanEnd decider eofKind I ((⟨d, b, c, m, log⟩ : ScanState σ).close eofKind).value := by
  cases eofKind with
  | none => exact .finished h ha rfl
  | some kind =>
    simp only [ScanState.close]
    split
    next cause e events hp => exact .closeRefused h ha rfl (congrArg Logged.value hp)
    next b' e events hp => exact .closed h ha rfl (congrArg Logged.value hp)

lemma ScanInvariant.loop {σ : Type} {decider : Decider σ}
    {I : Document → ChainBuilder → Cursor → σ → Prop} (inv : ScanInvariant decider I)
    (eofKind : Option TokenKind) {d : Document} {b : ChainBuilder} {c : Cursor} {m : σ}
    (log : Array DocumentEvent) (h : I d b c m) :
    ScanEnd decider eofKind I (scanOutcome eofKind (scanLexemes decider d b c m log)) := by
  -- every round leaves fewer characters ahead
  induction hn : c.ahead.length using Nat.strongRecOn generalizing d b c m log with
  | ind n ih =>
    subst hn
    by_cases ha : c.ahead = []
    · rw [scanLexemes_of_ahead_nil decider ha]
      exact ScanInvariant.close eofKind h ha
    by_cases hs : (decider.next m c).pos = (decider.next m c).start
    · rw [scanLexemes_of_stuck decider ha hs]
      exact .stuck h ha hs
    have hlt := (decider.moves_next m c).ahead_length_lt hs
    cases hl : decider.lexeme? m c with
    | none =>
      rw [scanLexemes_of_skip decider ha hs hl]
      exact ih _ hlt log (inv.skip h ha hs hl) rfl
    | some lexeme =>
      rw [scanLexemes_of_push decider ha hs hl]
      split
      next cause e events hp => exact .refused h ha hs hl (congrArg Logged.value hp)
      next b' e events hp =>
        exact ih _ hlt _ (inv.push h ha hs hl (congrArg Logged.value hp)) rfl

/-- A scan that opens its document keeps its invariant from the beginning of the text to wherever
it ends. -/
theorem ScanInvariant.scan {σ : Type} {decider : Decider σ}
    {I : Document → ChainBuilder → Cursor → σ → Prop} (inv : ScanInvariant decider I)
    (eofKind : Option TokenKind) {d e : Document} {b : ChainBuilder} {m : σ}
    (hstart : (ChainBuilder.start d).value = (.ok b, e)) (h : I e b (Cursor.ofText e.text) m) :
    ScanEnd decider eofKind I (d.scan eofKind decider m).value := by
  unfold Document.scan
  split
  next cause e' events hs => simp [hs] at hstart
  next b' e' events hs =>
    obtain ⟨rfl, rfl⟩ : b' = b ∧ e' = e := by simpa [hs] using hstart
    have hend := inv.loop eofKind events.toArray h
    split
    next err s hr =>
      rw [hr] at hend
      exact hend
    next s hr =>
      rw [hr] at hend
      exact hend

lemma Document.scan_of_refused {σ : Type} {d e : Document} {cause : ChainError}
    (hstart : (ChainBuilder.start d).value = (.error cause, e)) (eofKind : Option TokenKind)
    (decider : Decider σ) (m : σ) :
    (d.scan eofKind decider m).value = ⟨.error (.refused cause), e, m⟩ := by
  unfold Document.scan
  split
  next cause' e' events hs =>
    obtain ⟨rfl, rfl⟩ : cause' = cause ∧ e' = e := by simpa [hs] using hstart
    rfl
  next b e' events hs => simp [hs] at hstart

end FrontEnd
