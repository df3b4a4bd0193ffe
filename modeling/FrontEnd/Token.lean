import FrontEnd.Span
import FrontEnd.TokenKind

/-!
# Tokens

A token is a piece of a document as a reader of its text reported it: a kind, the characters it
is shown with and the span it was read from. It remembers the document that minted it. Tokens
are minted loose; one that has been linked into its document's chain is a `LinkedToken`, which
adds the place in the chain.
-/

namespace FrontEnd

/-- The number of a document; documents are numbered in the order of their creation. -/
structure DocumentId where
  val : Nat
  deriving DecidableEq

def DocumentId.toText (id : DocumentId) : String := "#" ++ toString id.val

/-- The characters of a token: a constant shared by all tokens of a sort, or the token's own. -/
inductive Image where
  | shared (text : String)
  | owned (text : String)
  deriving DecidableEq

namespace Image

def text : Image → String
  | shared text => text
  | owned text => text

def isShared : Image → Bool
  | shared _ => true
  | owned _ => false

end Image

/-- What a reader reports about the piece of text it has just read. -/
structure Excerpt where
  span : Span
  image : String
  deriving DecidableEq

/-- A piece of a document. -/
structure Token where
  kind : TokenKind
  image : Image
  span : Span
  document : DocumentId
  deriving DecidableEq

namespace Token

/-- The token that stands before all text of a document. -/
def sentinel (document : DocumentId) : Token :=
  ⟨.implicit, .shared "", .point 0, document⟩

def isImplicit (t : Token) : Bool := t.kind.isImplicit

def inspect (t : Token) : String :=
  t.kind.inspect ++ " " ++ Text.quote t.image.text ++ " @ " ++ t.span.toText

end Token

/-- A token in its document's chain; the sentinel has position zero. -/
structure LinkedToken where
  token : Token
  position : Nat
  deriving DecidableEq

namespace LinkedToken

def document (r : LinkedToken) : DocumentId := r.token.document

/-- Whether two linked tokens are one and the same, not merely alike. -/
def same (a b : LinkedToken) : Bool :=
  a.document = b.document && a.position = b.position

end LinkedToken

end FrontEnd
