import FrontEnd.KindMap

/-!
# How kinds are named

A document may name the kinds of its tokens, by a dense table that begins with kind zero or by a
sparse map. A kind without a name is still labelled in messages.
-/

namespace FrontEnd

/-- How a document names the kinds of its tokens. -/
inductive KindNames where
  | unnamed
  | table (names : Array String)
  | map (names : KindMap)

namespace KindNames

/-- The name given to a kind. A table names the codes from zero on. -/
def name? : KindNames → TokenKind → Option String
  | unnamed, _ => none
  | table names, kind => if 0 ≤ kind.raw.toInt then names[kind.raw.toInt.toNat]? else none
  | map names, kind => names.get? kind

def size : KindNames → Nat
  | unnamed => 0
  | table names => names.size
  | map names => names.size

/-- What a kind is called in messages: the reserved kind always by its own name, another by the
name given to it, else by its code. -/
def label (names : KindNames) (kind : TokenKind) : String :=
  if kind.isImplicit then "implicit token"
  else (names.name? kind).getD ("token of kind " ++ toString kind.raw.toInt)

def inspect : KindNames → String
  | unnamed => "NoKindNames"
  | table names =>
    Text.Inspect.record "KindTable" [("names", Text.Inspect.list (names.toList.map Text.quote))]
  | map names =>
    Text.Inspect.record "KindMap" [("names", Text.Inspect.mapping
      (names.entries.map fun e => (toString e.1.raw.toInt, Text.quote e.2)))]

end KindNames

end FrontEnd
