import FrontEnd.Document.Error
import FrontEnd.Document.Event
import FrontEnd.KindNames
import FrontEnd.LineIndex
import FrontEnd.Text.Slice

/-!
# Documents

A document is a text with the chain of the tokens found in it. The chain is empty until the
document is opened; then it begins with a sentinel and grows only at its end, one checked token
at a time. Whatever happens later, a token keeps its position.
-/

namespace FrontEnd

/-- A text, how its tokens are named and checked, and the chain of its tokens. -/
structure Document where
  id : DocumentId
  text : String
  names : KindNames
  /-- Whether a shared image is compared with the text when a token is minted. -/
  verifyImages : Bool
  /-- The sentinel and the tokens behind it, or nothing if the document is not open. -/
  chain : Array Token
  lines : LineIndex
  lines_eq : lines = .ofText text

namespace Document

def create (id : DocumentId) (text : String) (names : KindNames) (verifyImages : Bool) : Document :=
  ⟨id, text, names, verifyImages, #[], .ofText text, rfl⟩

/-- The length of the text in bytes. -/
def len (d : Document) : UInt32 := UInt32.ofNatClamp d.text.utf8ByteSize

def isOpened (d : Document) : Bool := !d.chain.isEmpty

def at? (d : Document) (position : Nat) : Option LinkedToken :=
  d.chain[position]?.map fun t => ⟨t, position⟩

def sentinel? (d : Document) : Option LinkedToken := d.at? 0

def next? (d : Document) (r : LinkedToken) : Option LinkedToken := d.at? (r.position + 1)

def isLinked (d : Document) (r : LinkedToken) : Bool := (d.next? r).isSome

def chainFrom (d : Document) (position : Nat) : List LinkedToken :=
  ((d.chain.toList.drop position).zipIdx position).map fun p => ⟨p.1, p.2⟩

def first (d : Document) : Except ChainError LinkedToken :=
  match d.sentinel? with
  | none => .error .notOpened
  | some sentinel =>
    match d.next? sentinel with
    | none => .error .noTokens
    | some first => .ok first

def label (d : Document) (kind : TokenKind) : String := d.names.label kind

/-- The text at a span, if the span is a part of the text. -/
def textAt? (d : Document) (span : Span) : Option String :=
  Text.slice? d.text span.start.toNat span.stop.toNat

/-- The text a linked token stands for, empty if its span cannot be cut out of the text. -/
def sourceOf (d : Document) (r : LinkedToken) : String :=
  (d.textAt? r.token.span).getD ""

def locate (d : Document) (offset : UInt32) : Except Overflow LineCol := d.lines.locate offset

/-- Opens the chain with a sentinel; this works once. -/
def tryOpen (d : Document) : Logged DocumentEvent (Except ChainError LinkedToken × Document) :=
  match Span.ofRange? 0 d.text.utf8ByteSize with
  | .error cause => .silent (.error (.textTooLarge cause), d)
  | .ok extent =>
    if d.isOpened then ⟨(.error .alreadyOpened, d), [.openRejected d.id]⟩
    else
      let sentinel := Token.sentinel d.id
      ⟨(.ok ⟨sentinel, 0⟩, { d with chain := #[sentinel] }), [.opened d.id extent]⟩

/-- The image of a new token: the shared constant if there is one, whatever the text says. -/
def imageOf (excerpt : Excerpt) : Option String → Image
  | some constant => .shared constant
  | none => .owned excerpt.image

/-- Reports a shared image that is not what the text reads at the span. -/
def imageReport (d : Document) (kind : TokenKind) (span : Span) :
    Option String → List DocumentEvent
  | none => []
  | some constant =>
    if d.verifyImages = true ∧ d.textAt? span ≠ some constant then
      [.imageMismatch d.id (d.label kind) span constant (d.textAt? span)]
    else []

/-- Makes a loose token of this document from what a reader reports. -/
def mint (d : Document) (kind : TokenKind) (excerpt : Excerpt) (constant : Option String) :
    Logged DocumentEvent Token :=
  ⟨⟨kind, imageOf excerpt constant, excerpt.span, d.id⟩,
    d.imageReport kind excerpt.span constant ++ [.minted d.id kind excerpt.span]⟩

/-- Why a token cannot be linked onto another, the first reason that applies. -/
def linkError? (d : Document) (onto : LinkedToken) (t : Token) : Option ChainError :=
  if t.document ≠ d.id then some (.foreignToken d.id t.document)
  else if t.span.stop < t.span.start ∨ d.len < t.span.stop then some (.outOfBounds t.span d.len)
  else if t.span.start < onto.token.span.stop then
    some (.outOfOrder onto.token.span.stop t.span.start)
  else if d.chain.size ≠ onto.position + 1 then some (.alreadyLinked onto.token.kind)
  else none

def link (d : Document) (onto : LinkedToken) (t : Token) :
    Except ChainError LinkedToken × Document :=
  match d.linkError? onto t with
  | some e => (.error e, d)
  | none => (.ok ⟨t, d.chain.size⟩, { d with chain := d.chain.push t })

def inspect (d : Document) : String :=
  Text.Inspect.openRecord "TokenDocument"
    [("id", Text.Inspect.tagged "DocumentId" (toString d.id.val)),
      ("len", toString d.text.utf8ByteSize), ("kind_names", d.names.inspect),
      ("opened", Text.Inspect.bool d.isOpened)]

end Document

end FrontEnd
