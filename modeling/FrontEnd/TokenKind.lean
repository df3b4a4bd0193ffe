import FrontEnd.Text.Inspect

/-!
# Token kinds

A kind is an integer whose meaning belongs to whoever reads the text. One of them is reserved for
tokens that stand for no text.
-/

namespace FrontEnd

/-- The code of a sort of token. -/
structure TokenKind where
  raw : Int32
  deriving DecidableEq

namespace TokenKind

/-- The kind of tokens that stand for no text. -/
def implicit : TokenKind := ⟨-1⟩

def isImplicit (kind : TokenKind) : Bool := kind = implicit

/-- Kinds are in the order of their codes. -/
instance : Ord TokenKind := ⟨fun a b => compare a.raw.toInt b.raw.toInt⟩

def inspect (kind : TokenKind) : String :=
  Text.Inspect.tagged "TokenKind"
    (if kind.isImplicit then "IMPLICIT" else toString kind.raw.toInt)

end TokenKind

end FrontEnd
