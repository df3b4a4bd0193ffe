import FrontEnd.Proofs.Scan.InStep

/-!
# Documents without names and verification

The names of kinds and the verification of images only serve warnings. A document that is stripped
of both, its `plain` form, answers everything as before and reports all but the warnings: every
operation on documents commutes with stripping (`Document.plain_scan` for a whole scan).
-/

namespace FrontEnd

def DocumentEvent.isWarning (e : DocumentEvent) : Bool := e.entry.level = .warn

def withoutWarnings (events : List DocumentEvent) : List DocumentEvent :=
  events.filter fun e => !e.isWarning

@[simp] lemma withoutWarnings_nil : withoutWarnings [] = [] := rfl

@[simp] lemma withoutWarnings_append (events more : List DocumentEvent) :
    withoutWarnings (events ++ more) = withoutWarnings events ++ withoutWarnings more :=
  List.filter_append ..

namespace Logged

variable {α β : Type}

/-- The same without warnings. -/
def quiet (x : Logged DocumentEvent α) : Logged DocumentEvent α :=
  ⟨x.value, withoutWarnings x.events⟩

@[simp] lemma value_quiet (x : Logged DocumentEvent α) : x.quiet.value = x.value := rfl

@[simp] lemma events_quiet (x : Logged DocumentEvent α) :
    x.quiet.events = withoutWarnings x.events := rfl

end Logged

namespace Document

/-- The document without names of kinds and without verification of images. -/
def plain (d : Document) : Document := { d with names := .unnamed, verifyImages := false }

lemma plain_tryOpen (d : Document) :
    d.plain.tryOpen = d.tryOpen.quiet.map fun r => (r.1, r.2.plain) := by
  unfold tryOpen
  simp only [plain]
  split
  next => rfl
  next =>
    change (if d.isOpened = true then _ else _) = _
    split
    next => rfl
    next => rfl

lemma plain_link (d : Document) (onto : LinkedToken) (t : Token) :
    d.plain.link onto t = ((d.link onto t).1, (d.link onto t).2.plain) := by
  have hcheck : d.plain.linkError? onto t = d.linkError? onto t := rfl
  cases h : d.linkError? onto t with
  | some cause => rw [link_of_error h, link_of_error (hcheck.trans h)]
  | none =>
    rw [link_of_no_error h, link_of_no_error (hcheck.trans h)]
    rfl

lemma withoutWarnings_imageReport (d : Document) (kind : TokenKind) (span : Span)
    (constant : Option String) : withoutWarnings (d.imageReport kind span constant) = [] := by
  cases constant with
  | none => rfl
  | some image =>
    rw [imageReport]
    split
    next => rfl
    next => rfl

lemma plain_imageReport (d : Document) (kind : TokenKind) (span : Span) (constant : Option String) :
    d.plain.imageReport kind span constant = [] := by
  cases constant with
  | none => rfl
  | some image =>
    have hoff : ¬(d.plain.verifyImages = true ∧ d.plain.textAt? span ≠ some image) :=
      fun h => Bool.false_ne_true h.1
    rw [imageReport, if_neg hoff]

lemma plain_mint (d : Document) (kind : TokenKind) (excerpt : Excerpt) (constant : Option String) :
    d.plain.mint kind excerpt constant = (d.mint kind excerpt constant).quiet := by
  rw [mint, mint, plain_imageReport, Logged.quiet, withoutWarnings_append,
    withoutWarnings_imageReport]
  rfl

end Document

namespace ChainBuilder

lemma plain_start (d : Document) :
    start d.plain = (start d).quiet.map fun r => (r.1, r.2.plain) := by
  rw [start, start, Document.plain_tryOpen]
  rfl

lemma plain_attach (b : ChainBuilder) (d : Document) (t : Token) :
    b.attach d.plain t = ((b.attach d t).1, (b.attach d t).2.plain) := by
  rw [attach_eq, attach_eq, Document.plain_link]

lemma plain_push (b : ChainBuilder) (d : Document) (kind : TokenKind) (excerpt : Excerpt)
    (constant : Option String) :
    b.push d.plain kind excerpt constant =
      (b.push d kind excerpt constant).quiet.map fun r => (r.1, r.2.plain) := by
  rw [push, push, Document.plain_mint]
  exact congrArg (Logged.mk · _) (b.plain_attach d _)

end ChainBuilder

/-! ### Scans -/

def ScanState.plain {σ : Type} (s : ScanState σ) : ScanState σ :=
  ⟨s.document.plain, s.builder, s.cursor, s.memory, (withoutWarnings s.log.toList).toArray⟩

def ScanOutcome.plain {σ : Type} (o : ScanOutcome σ) : ScanOutcome σ :=
  ⟨o.result, o.document.plain, o.memory⟩

section Scan

variable {σ : Type} (decider : Decider σ)

lemma scanLexemes_plain (d : Document) (b : ChainBuilder) (c : Cursor) (m : σ)
    (log : Array DocumentEvent) :
    scanLexemes decider d.plain b c m (withoutWarnings log.toList).toArray =
      ((scanLexemes decider d b c m log).1, (scanLexemes decider d b c m log).2.plain) := by
  -- every round leaves fewer characters ahead
  induction hn : c.ahead.length using Nat.strongRecOn generalizing d b c m log with
  | ind n ih =>
    subst hn
    by_cases ha : c.ahead = []
    · rw [scanLexemes_of_ahead_nil decider ha, scanLexemes_of_ahead_nil decider ha]
      rfl
    by_cases hs : (decider.next m c).pos = (decider.next m c).start
    · rw [scanLexemes_of_stuck decider ha hs, scanLexemes_of_stuck decider ha hs]
      rfl
    have hlt := (decider.moves_next m c).ahead_length_lt hs
    cases hl : decider.lexeme? m c with
    | none =>
      rw [scanLexemes_of_skip decider ha hs hl, scanLexemes_of_skip decider ha hs hl]
      exact ih _ hlt _ _ _ _ _ rfl
    | some lexeme =>
      rw [scanLexemes_of_push decider ha hs hl, scanLexemes_of_push decider ha hs hl,
        ChainBuilder.plain_push]
      obtain ⟨⟨answer, e⟩, events⟩ :=
        b.push d lexeme.kind (decider.next m c).excerpt lexeme.constant
      have hlog : (withoutWarnings log.toList).toArray ++ withoutWarnings events =
          (withoutWarnings (log ++ events).toList).toArray := by
        simp
      cases answer with
      | error cause =>
        simp only [Logged.map, Logged.quiet, hlog]
        rfl
      | ok b' =>
        simp only [Logged.map, Logged.quiet, hlog]
        exact ih _ hlt _ _ _ _ _ rfl

lemma ScanState.plain_finish (s : ScanState σ) :
    s.plain.finish = s.finish.quiet.map ScanOutcome.plain := by
  have hlog : (s.plain.log.push (.scanned s.document.id s.builder.size)).toList =
      withoutWarnings (s.log.push (.scanned s.document.id s.builder.size)).toList := by
    simp only [ScanState.plain, Array.toList_push, withoutWarnings_append]
    rfl
  exact congrArg (Logged.mk _) hlog

lemma ScanState.plain_close (s : ScanState σ) (eofKind : Option TokenKind) :
    s.plain.close eofKind = (s.close eofKind).quiet.map ScanOutcome.plain := by
  cases eofKind with
  | none => exact s.plain_finish
  | some kind =>
    have hpush : s.plain.builder.push s.plain.document kind s.plain.cursor.mark.excerpt (some "") =
        (s.builder.push s.document kind s.cursor.mark.excerpt (some "")).quiet.map
          fun r => (r.1, r.2.plain) := ChainBuilder.plain_push ..
    rw [close, close, hpush]
    obtain ⟨⟨answer, e⟩, events⟩ :=
      s.builder.push s.document kind s.cursor.mark.excerpt (some "")
    have hlog : s.plain.log ++ withoutWarnings events =
        (withoutWarnings (s.log ++ events).toList).toArray := by
      simp [ScanState.plain]
    cases answer with
    | error cause =>
      simp only [Logged.map, Logged.quiet, hlog]
      rfl
    | ok b =>
      simp only [Logged.map, Logged.quiet, hlog]
      exact ScanState.plain_finish ⟨e, b, s.cursor, s.memory, s.log ++ events⟩

/-- A scan of the plain document ends as a scan of the document does. -/
theorem Document.plain_scan (d : Document) (eofKind : Option TokenKind) (m : σ) :
    d.plain.scan eofKind decider m = (d.scan eofKind decider m).quiet.map ScanOutcome.plain := by
  unfold Document.scan
  rw [ChainBuilder.plain_start]
  obtain ⟨⟨answer, e⟩, events⟩ := ChainBuilder.start d
  cases answer with
  | error cause => rfl
  | ok b =>
    have hloop := scanLexemes_plain decider e b (Cursor.ofText e.text) m events.toArray
    rw [List.toList_toArray] at hloop
    simp only [Logged.map, Logged.quiet]
    rw [show e.plain.text = e.text from rfl, hloop]
    obtain ⟨result, s⟩ := scanLexemes decider e b (Cursor.ofText e.text) m events.toArray
    cases result with
    | error err => rfl
    | ok u => exact s.plain_close eofKind

lemma Document.plain_scanTokens (d : Document) (eofKind : Option TokenKind) (m : σ) :
    d.plain.scanTokens eofKind decider m = d.scanTokens eofKind decider m := by
  rw [Document.scanTokens, Document.scanTokens, Document.calls, Document.calls,
    Document.plain_scan, Document.plain_scan]
  rfl

end Scan

end FrontEnd
