import FrontEnd.Declaration.Signature
import FrontEnd.Declaration.Symbol
import FrontEnd.Log

/-!
# Nodes of declarations

A node keeps what is found out about a declaration after it has been read: the symbol it is bound
to and its signature. Each is written once, in any order, and never replaced.
-/

namespace FrontEnd

/-- Something that happened to a declaration. -/
inductive NodeEvent where
  | bound (symbol : String) (arity : Nat)
  | rebindingRejected (existing rejected : String)
  | signatureComputed (name : String) (signature : Signature)
  deriving DecidableEq

def NodeEvent.entry : NodeEvent → LogEntry
  | bound symbol arity =>
    ⟨.debug, "bound symbol", [("symbol", .text symbol), ("arity", .number arity)]⟩
  | rebindingRejected existing rejected =>
    ⟨.debug, "symbol rebinding rejected",
      [("existing", .text existing), ("rejected", .text rejected)]⟩
  | signatureComputed name signature =>
    ⟨.trace, "computed operation signature",
      [("name", .text name), ("signature", .text signature.toText)]⟩

/-- Why a node refuses what it is asked. -/
inductive SymbolError where
  | alreadySet
  | notSet
  deriving DecidableEq

def SymbolError.message : SymbolError → String
  | alreadySet => "symbol already set"
  | notSet => "symbol not set"

/-- The symbol and the signature of a declaration, as far as they are known. -/
structure Node (S : Type) where
  slot : Option S
  cached : Option Signature
  deriving DecidableEq

namespace Node

variable {S : Type}

def fresh : Node S := ⟨none, none⟩

def isBound (n : Node S) : Bool := n.slot.isSome

def hasSignature (n : Node S) : Bool := n.cached.isSome

def symbol (n : Node S) : Except SymbolError S :=
  match n.slot with
  | some s => .ok s
  | none => .error .notSet

/-- The signature of the node, which is built if it is not known yet. -/
def signatureOrBuild (n : Node S) (build : Unit → Logged NodeEvent Signature) :
    Logged NodeEvent (Signature × Node S) :=
  match n.cached with
  | some s => .silent (s, n)
  | none => (build ()).map fun s => (s, { n with cached := some s })

variable [Executable S]

/-- Binds the node to a symbol; this works once, even with the same symbol. -/
def bind (n : Node S) (s : S) : Logged NodeEvent (Except SymbolError Unit × Node S) :=
  match n.slot with
  | some existing =>
    ⟨(.error .alreadySet, n),
      [.rebindingRejected (Executable.name existing) (Executable.name s)]⟩
  | none =>
    ⟨(.ok (), { n with slot := some s }), [.bound (Executable.name s) (Executable.arity s)]⟩

def inspectSlot : Option S → String
  | none => "Unbound"
  | some s => Text.Inspect.tagged "Bound" (Executable.inspect s)

def inspect (n : Node S) : String :=
  Text.Inspect.record "NodeBase"
    [("symbol", inspectSlot n.slot),
      ("signature", Text.Inspect.option (n.cached.map Signature.inspect))]

end Node

end FrontEnd
