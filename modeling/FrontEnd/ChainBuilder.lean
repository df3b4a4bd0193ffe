import FrontEnd.Document.Basic

/-!
# Building a chain

A builder opens a document and appends tokens to the end of its chain as it sees it: it keeps the
last token it linked and how many there were. A refused token leaves the builder as it was.
-/

namespace FrontEnd

/-- The last token a builder has linked, the sentinel at first, and the number linked. -/
structure ChainBuilder where
  tail : LinkedToken
  size : Nat
  deriving DecidableEq

namespace ChainBuilder

def document (b : ChainBuilder) : DocumentId := b.tail.document

def isEmpty (b : ChainBuilder) : Bool := b.size = 0

/-- Opens a document and stands at its sentinel. -/
def start (d : Document) : Logged DocumentEvent (Except ChainError ChainBuilder × Document) :=
  d.tryOpen.map fun r => (r.1.map fun sentinel => ⟨sentinel, 0⟩, r.2)

/-- Links a loose token onto the builder's tail and moves there. -/
def attach (b : ChainBuilder) (d : Document) (t : Token) :
    Except ChainError ChainBuilder × Document :=
  let r := d.link b.tail t
  (r.1.map fun linked => ⟨linked, b.size + 1⟩, r.2)

def push (b : ChainBuilder) (d : Document) (kind : TokenKind) (excerpt : Excerpt)
    (constant : Option String) :
    Logged DocumentEvent (Except ChainError ChainBuilder × Document) :=
  (d.mint kind excerpt constant).map fun t => b.attach d t

end ChainBuilder

end FrontEnd
