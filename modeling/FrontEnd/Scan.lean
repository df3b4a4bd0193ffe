import FrontEnd.ChainBuilder
import FrontEnd.Cursor.Walk

/-!
# Scanning a document

A scan opens a document and asks a decider, again and again, what the characters at the cursor
are. What the decider calls a lexeme becomes a token, what it leaves unnamed is skipped, and a
decider that reads nothing ends the scan. The decider moves the cursor by a walk, so each round
leaves fewer characters ahead and every scan ends.
-/

namespace FrontEnd

/-- What a decider found: a kind, and the constant image of that kind if it has one. -/
structure Lexeme where
  kind : TokenKind
  constant : Option String
  deriving DecidableEq

/-- Reads one lexeme at the cursor, or skips some text, and remembers what it likes. -/
abbrev Decider (σ : Type) := σ → Walk (Option Lexeme × σ)

/-- Why a scan stopped before the end of the text. -/
inductive ScanError where
  /-- The document refused to open or to take a token. -/
  | refused (cause : ChainError)
  /-- The decider left an empty lexeme at this offset. -/
  | noProgress (offset : UInt32)
  deriving DecidableEq

def ScanError.message : ScanError → String
  | refused cause => cause.message
  | noProgress offset => "scanner made no progress at offset " ++ toString offset.toNat

/-- How far a scan has come. -/
structure ScanState (σ : Type) where
  document : Document
  builder : ChainBuilder
  cursor : Cursor
  memory : σ
  log : Array DocumentEvent

/-- Reads lexemes up to the end of the text or to the first failure. -/
def scanLexemes {σ : Type} (decide : Decider σ) (document : Document) (builder : ChainBuilder)
    (cursor : Cursor) (memory : σ) (log : Array DocumentEvent) :
    Except ScanError Unit × ScanState σ :=
  if cursor.atEnd then (.ok (), ⟨document, builder, cursor, memory, log⟩)
  else
    match (decide memory).run cursor.mark with
    | ((lexeme?, memory), ⟨next, moves⟩) =>
      if stuck : next.pos = next.start then
        (.error (.noProgress next.pos), ⟨document, builder, next, memory, log⟩)
      else
        have : next.ahead.length < cursor.ahead.length := moves.ahead_length_lt stuck
        match lexeme? with
        | none => scanLexemes decide document builder next memory log
        | some lexeme =>
          match builder.push document lexeme.kind next.excerpt lexeme.constant with
          | ⟨(.error cause, document), events⟩ =>
            (.error (.refused cause), ⟨document, builder, next, memory, log ++ events⟩)
          | ⟨(.ok builder, document), events⟩ =>
            scanLexemes decide document builder next memory (log ++ events)
termination_by cursor.ahead.length

/-- How a scan ended, with the document and the decider's memory as the scan left them. -/
structure ScanOutcome (σ : Type) where
  result : Except ScanError ChainBuilder
  document : Document
  memory : σ

namespace ScanState

variable {σ : Type}

/-- The end of a scan that reached the end of the text. -/
def finish (s : ScanState σ) : Logged DocumentEvent (ScanOutcome σ) :=
  ⟨⟨.ok s.builder, s.document, s.memory⟩,
    (s.log.push (.scanned s.document.id s.builder.size)).toList⟩

/-- The end of a scan that closes the chain with an empty token of the given kind. -/
def close (s : ScanState σ) : Option TokenKind → Logged DocumentEvent (ScanOutcome σ)
  | none => s.finish
  | some kind =>
    match s.builder.push s.document kind s.cursor.mark.excerpt (some "") with
    | ⟨(.error cause, document), events⟩ =>
      ⟨⟨.error (.refused cause), document, s.memory⟩, (s.log ++ events).toList⟩
    | ⟨(.ok builder, document), events⟩ =>
      finish { s with document, builder, log := s.log ++ events }

end ScanState

/-- Opens a document and fills its chain with what the decider finds. The tokens found before a
failure stay linked. -/
def Document.scan {σ : Type} (d : Document) (eofKind : Option TokenKind) (decide : Decider σ)
    (memory : σ) : Logged DocumentEvent (ScanOutcome σ) :=
  match ChainBuilder.start d with
  | ⟨(.error cause, document), events⟩ => ⟨⟨.error (.refused cause), document, memory⟩, events⟩
  | ⟨(.ok builder, document), events⟩ =>
    match scanLexemes decide document builder (Cursor.ofText document.text) memory
        events.toArray with
    | (.error e, s) => ⟨⟨.error e, s.document, s.memory⟩, s.log.toList⟩
    | (.ok (), s) => s.close eofKind

end FrontEnd
