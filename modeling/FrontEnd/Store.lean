import FrontEnd.Document.Iterator
import FrontEnd.Scan

/-!
# Stores of documents

A store creates documents, numbers them and finds them again. Each operation on a chain is an
operation on the store that changes the one document it names.
-/

namespace FrontEnd

/-- Documents in the order of their creation; the number of a document is its place. -/
structure Store where
  documents : Array Document

namespace Store

def empty : Store := ⟨#[]⟩

def document? (s : Store) (id : DocumentId) : Option Document := s.documents[id.val]?

/-- Creates a document under the next free number. -/
def create (s : Store) (text : String) (names : KindNames) (verifyImages : Bool) :
    DocumentId × Store :=
  let id : DocumentId := ⟨s.documents.size⟩
  (id, ⟨s.documents.push (.create id text names verifyImages)⟩)

def put (s : Store) (d : Document) : Store := ⟨s.documents.setIfInBounds d.id.val d⟩

variable {α : Type}

/-- Lets one document do something and keeps what becomes of it. -/
def update (s : Store) (id : DocumentId)
    (act : Document → Logged DocumentEvent (Except ChainError α × Document)) :
    Logged DocumentEvent (Except ChainError α × Store) :=
  match s.document? id with
  | none => .silent (.error (.unknownDocument id), s)
  | some d => (act d).map fun r => (r.1, s.put r.2)

def tryOpen (s : Store) (id : DocumentId) :
    Logged DocumentEvent (Except ChainError LinkedToken × Store) :=
  s.update id Document.tryOpen

def link (s : Store) (onto : LinkedToken) (t : Token) :
    Logged DocumentEvent (Except ChainError LinkedToken × Store) :=
  s.update onto.document fun d => .silent (d.link onto t)

def build (s : Store) (id : DocumentId) :
    Logged DocumentEvent (Except ChainError ChainBuilder × Store) :=
  s.update id ChainBuilder.start

def attach (s : Store) (b : ChainBuilder) (t : Token) :
    Logged DocumentEvent (Except ChainError ChainBuilder × Store) :=
  s.update b.document fun d => .silent (b.attach d t)

def push (s : Store) (b : ChainBuilder) (kind : TokenKind) (excerpt : Excerpt)
    (constant : Option String) :
    Logged DocumentEvent (Except ChainError ChainBuilder × Store) :=
  s.update b.document fun d => b.push d kind excerpt constant

/-- Scans one document; a scan that fails also leaves its trace in the store. -/
def scan {σ : Type} (s : Store) (id : DocumentId) (eofKind : Option TokenKind)
    (decide : Decider σ) (memory : σ) :
    Logged DocumentEvent (Except ScanError ChainBuilder × σ × Store) :=
  match s.document? id with
  | none => .silent (.error (.refused (.unknownDocument id)), memory, s)
  | some d => (d.scan eofKind decide memory).map fun o => (o.result, o.memory, s.put o.document)

end Store

end FrontEnd
