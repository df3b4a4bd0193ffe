import FrontEnd.Document.Basic

/-!
# Walking along a chain

An iterator holds the token it will yield next. The successor of a token is looked up when the
token is yielded, so links made after that do not reach the iterator, and one that has run out
stays so.
-/

namespace FrontEnd

structure TokenIterator where
  /-- The token that is yielded next, none when the walk is over. -/
  upcoming : Option LinkedToken
  deriving DecidableEq

namespace TokenIterator

def startingAt (r : LinkedToken) : TokenIterator := ⟨some r⟩

/-- Yields a token and moves on to what is linked onto it now. -/
def next (it : TokenIterator) (d : Document) : Option LinkedToken × TokenIterator :=
  (it.upcoming, ⟨it.upcoming.bind d.next?⟩)

/-- All tokens the walk yields if the chain stays as it is. -/
def remaining (it : TokenIterator) (d : Document) : List LinkedToken :=
  match it.upcoming with
  | none => []
  | some r => r :: d.chainFrom (r.position + 1)

def inspect (it : TokenIterator) (d : Document) : String :=
  Text.Inspect.list ((it.remaining d).map fun r => r.token.inspect)

end TokenIterator

/-- The walk over the tokens behind the sentinel. -/
def Document.tokens (d : Document) : Except ChainError TokenIterator :=
  match d.sentinel? with
  | none => .error .notOpened
  | some sentinel => .ok ⟨d.next? sentinel⟩

end FrontEnd
