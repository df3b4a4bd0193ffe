import FrontEnd.Proofs.Session.History
import FrontEnd.Proofs.Session.Replies

/-!
# Calls that open a document

Any number of clients open documents at once, each step by step: the text is measured, the lock of
the document is taken, a sentinel is looked for, and created if there is none, and the lock is given
back. Between two steps of a call anything may happen, steps of other calls included. Done in one
go, these steps are a request of a session (`Opening.perform_entry_of_ok`,
`Opening.perform_entry_of_error`).
-/

namespace FrontEnd

/-- What a client opens a document for: for its sentinel, for a builder, or to scan it. A scan is
given a builder and goes on with pushes. -/
inductive Opening : Type 1 where
  | direct (id : DocumentId)
  | build (id : DocumentId)
  | scan {σ : Type} (id : DocumentId) (eofKind : Option TokenKind) (decider : Decider σ) (memory : σ)

namespace Opening

def document : Opening → DocumentId
  | direct id => id
  | build id => id
  | scan id _ _ _ => id

/-- The request the client makes. -/
def request : Opening → Request
  | direct id => .tryOpen id
  | build id => .build id
  | scan id eofKind decider memory => .scan id eofKind decider memory

/-- The request that does what is done up to the moment at which the document is open. -/
def entry : Opening → Request
  | direct id => .tryOpen id
  | build id => .build id
  | scan id _ _ _ => .build id

/-- What the entry is answered. -/
def answered (o : Opening) (answer : Except ChainError LinkedToken) : Reply :=
  match o with
  | direct _ => .token answer
  | _ => .builder (answer.map fun sentinel => ⟨sentinel, 0⟩)

/-- What the client is told if the document does not open. -/
def refused (o : Opening) (cause : ChainError) : Reply :=
  match o with
  | direct _ => .token (.error cause)
  | build _ => .builder (.error cause)
  | scan _ _ _ memory => .scanned (.error (.refused cause)) memory

/-- A client has opened a document and has got its sentinel, or a builder that stands there. -/
def grant (o : Opening) (s : Session) (sentinel : LinkedToken) : Session :=
  match o with
  | direct _ => s.learn (some sentinel)
  | _ => { s with builders := s.builders ++ [⟨sentinel, 0⟩] }

end Opening

/-- How far a call that opens a document has come. -/
inductive OpenPhase where
  | called
  /-- The text fits. -/
  | waiting
  | locked
  /-- The call has the lock, and there was no sentinel. -/
  | vacant
  /-- The call has the lock still, and its answer. -/
  | decided (answer : Except ChainError LinkedToken)
  | returned (answer : Except ChainError LinkedToken)

namespace OpenPhase

/-- Whether a call has the lock. -/
def inside : OpenPhase → Bool
  | locked => true
  | vacant => true
  | decided _ => true
  | _ => false

def answer? : OpenPhase → Option (Except ChainError LinkedToken)
  | decided answer => some answer
  | returned answer => some answer
  | _ => none

/-- The number of steps up to the return at most. -/
def stepsLeft : OpenPhase → Nat
  | called => 5
  | waiting => 4
  | locked => 3
  | vacant => 2
  | decided _ => 1
  | returned _ => 0

end OpenPhase

structure OpenCall : Type 1 where
  opening : Opening
  phase : OpenPhase
  /-- Whether it was this call that created the sentinel. -/
  created : Bool

def OpenCall.document (call : OpenCall) : DocumentId := call.opening.document

/-- The sentinel of a document, which is created if there is none, and whether it was. -/
def Document.sentinelOrNew (d : Document) : LinkedToken × Bool × Document :=
  match d.sentinel? with
  | some sentinel => (sentinel, false, d)
  | none => (⟨Token.sentinel d.id, 0⟩, true, { d with chain := #[Token.sentinel d.id] })

/-- A session in which documents are opened step by step. -/
structure Openings : Type 1 where
  session : Session
  /-- The call that has the lock of a document. -/
  holder : DocumentId → Option Nat
  calls : List OpenCall
  /-- The requests in the order in which they took effect. -/
  served : List Request

/-- What happens next: a client begins to open a document, a call takes a step, or any other request
is made. -/
inductive Turn : Type 1 where
  | call (opening : Opening)
  | advance (i : Nat)
  | ask (q : Request)

def Request.opens : Request → Bool
  | tryOpen _ => true
  | build _ => true
  | scan _ _ _ _ => true
  | _ => false

namespace Openings

def start : Openings := ⟨.empty, fun _ => none, [], []⟩

def call? (o : Openings) (i : Nat) : Option OpenCall := o.calls[i]?

def setCall (o : Openings) (i : Nat) (call : OpenCall) : Openings :=
  { o with calls := o.calls.set i call }

/-- The next step of a call. It waits where another call has the lock. -/
def step (o : Openings) (i : Nat) (call : OpenCall) (d : Document) : Openings :=
  match call.phase with
  | .called =>
    match Span.ofRange? 0 d.text.utf8ByteSize with
    | .error cause =>
      { o.setCall i { call with phase := .returned (.error (.textTooLarge cause)) } with
        served := o.served ++ [call.opening.entry] }
    | .ok _ => o.setCall i { call with phase := .waiting }
  | .waiting =>
    match o.holder d.id with
    | some _ => o
    | none =>
      { o.setCall i { call with phase := .locked } with
        holder := Function.update o.holder d.id (some i) }
  | .locked =>
    if d.isOpened then
      { o.setCall i { call with phase := .decided (.error .alreadyOpened) } with
        served := o.served ++ [call.opening.entry] }
    else o.setCall i { call with phase := .vacant }
  | .vacant =>
    let (sentinel, created, e) := d.sentinelOrNew
    { o.setCall i { call with phase := .decided (.ok sentinel), created } with
      session := call.opening.grant { o.session with store := o.session.store.put e } sentinel
      served := o.served ++ [call.opening.entry] }
  | .decided answer =>
    { o.setCall i { call with phase := .returned answer } with
      holder := Function.update o.holder d.id none }
  | .returned _ => o

def take (o : Openings) : Turn → Openings
  | .call opening =>
    match o.session.store.document? opening.document with
    | none => o
    | some _ => { o with calls := o.calls ++ [⟨opening, .called, false⟩] }
  | .advance i =>
    match o.call? i with
    | none => o
    | some call =>
      match o.session.store.document? call.document with
      | none => o
      | some d => o.step i call d
  | .ask q =>
    if q.opens then o
    else { o with session := o.session.perform q, served := o.served ++ [q] }

def run (o : Openings) (turns : List Turn) : Openings := turns.foldl take o

def after (turns : List Turn) : Openings := start.run turns

end Openings

/-! ### Whole requests -/

namespace Document

variable {d : Document}

lemma tryOpen_of_error {cause : SpanError} (h : Span.ofRange? 0 d.text.utf8ByteSize = .error cause) :
    d.tryOpen.value = (.error (.textTooLarge cause), d) := by
  rw [tryOpen, h]
  rfl

lemma fits_iff : d.text.utf8ByteSize < UInt32.size ↔
    ∃ extent, Span.ofRange? 0 d.text.utf8ByteSize = .ok extent := by
  rw [Span.ofRange?, if_pos (by decide)]
  split
  next h => simp [h]
  next h => simp [h]

lemma isOpened_of_sentinel? {sentinel : LinkedToken} (h : d.sentinel? = some sentinel) : d.isOpened = true := by
  obtain ⟨ht, -⟩ := at?_eq_some_iff.1 h
  obtain ⟨hlt, -⟩ := Array.getElem?_eq_some_iff.1 ht
  exact isOpened_iff.2 hlt

lemma sentinelOrNew_of_not_isOpened (h : d.isOpened = false) :
    d.sentinelOrNew =
      (⟨Token.sentinel d.id, 0⟩, true, { d with chain := #[Token.sentinel d.id] }) := by
  have hnone : d.sentinel? = none := by
    rw [sentinel?, at?_eq_none_iff, isOpened_eq_false_iff.1 h]
    rfl
  rw [sentinelOrNew, hnone]

end Document

namespace Opening

variable {s : Session} {o : Opening} {d : Document}

lemma value_tryOpen {answer : Except ChainError LinkedToken} {e : Document}
    (hd : s.store.document? o.document = some d) (h : d.tryOpen.value = (answer, e)) :
    (s.store.tryOpen o.document).value = (answer, s.store.put e) := by
  rw [Store.tryOpen, Store.value_update_some hd, h]

lemma value_build {answer : Except ChainError LinkedToken} {e : Document}
    (hd : s.store.document? o.document = some d) (h : d.tryOpen.value = (answer, e)) :
    (s.store.build o.document).value =
      (answer.map fun sentinel => ⟨sentinel, 0⟩, s.store.put e) := by
  rw [Store.value_build, value_tryOpen hd h]

/-- The entry is answered as the document answers. -/
lemma reply_entry {answer : Except ChainError LinkedToken} {e : Document}
    (hd : s.store.document? o.document = some d) (h : d.tryOpen.value = (answer, e)) :
    s.reply o.entry = o.answered answer := by
  have htry := value_tryOpen hd h
  have hbuild := value_build hd h
  cases o with
  | direct id => exact congrArg (fun r => Reply.token r.1) htry
  | build id => exact congrArg (fun r => Reply.builder r.1) hbuild
  | scan id eofKind decider memory => exact congrArg (fun r => Reply.builder r.1) hbuild

lemma reply_request_of_error {cause : ChainError} (hd : s.store.document? o.document = some d)
    (h : d.tryOpen.value = (.error cause, d)) : s.reply o.request = o.refused cause := by
  have hentry := reply_entry hd h
  cases o with
  | direct id => exact hentry
  | build id => exact hentry
  | scan id eofKind decider memory =>
    have hstart : (ChainBuilder.start d).value = (.error cause, d) := by
      rw [ChainBuilder.value_start, h]
      rfl
    have hdoc : s.store.document? id = some d := hd
    have hscan : (s.store.scan id eofKind decider memory).value =
        (.error (.refused cause), memory, s.store.put d) := by
      rw [Store.scan, hdoc]
      simp only [Logged.value_map, Document.scan_of_refused hstart]
    exact congrArg (fun r => Reply.scanned r.1 r.2.1) hscan

/-- The entry opens the document, and the client has what it opened it for. -/
lemma perform_entry_of_ok {r : LinkedToken} {e : Document}
    (hd : s.store.document? o.document = some d) (h : d.tryOpen.value = (.ok r, e)) :
    s.perform o.entry = o.grant { s with store := s.store.put e } r := by
  have htry := value_tryOpen hd h
  have hbuild := value_build hd h
  cases o with
  | direct id =>
    simp only [document] at htry
    simp only [entry, Session.perform, htry]
    rfl
  | build id =>
    simp only [document] at hbuild
    simp only [entry, Session.perform, hbuild]
    rfl
  | scan id eofKind decider memory =>
    simp only [document] at hbuild
    simp only [entry, Session.perform, hbuild]
    rfl

/-- An entry that is refused changes nothing. -/
lemma perform_entry_of_error {cause : ChainError} (hs : s.Inv)
    (hd : s.store.document? o.document = some d) (h : d.tryOpen.value = (.error cause, d)) :
    s.perform o.entry = s := by
  have htry := value_tryOpen hd h
  have hbuild := value_build hd h
  rw [hs.sound.put_self hd] at htry hbuild
  have hlearn : s.learn none = s := by
    rw [Session.learn, Option.toList_none, List.append_nil]
  have hbuilders : { s with builders := s.builders ++ [] } = s := by
    rw [List.append_nil]
  cases o with
  | direct id =>
    simp only [document] at htry
    simp only [entry, Session.perform, htry]
    exact hlearn
  | build id =>
    simp only [document] at hbuild
    simp only [entry, Session.perform, hbuild]
    exact hbuilders
  | scan id eofKind decider memory =>
    simp only [document] at hbuild
    simp only [entry, Session.perform, hbuild]
    exact hbuilders

lemma store_grant (o : Opening) (s : Session) (r : LinkedToken) : (o.grant s r).store = s.store := by
  cases o with
  | direct id => rfl
  | build id => rfl
  | scan id eofKind decider memory => rfl

end Opening

end FrontEnd
