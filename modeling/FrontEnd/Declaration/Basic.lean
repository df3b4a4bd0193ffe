import FrontEnd.Declaration.Node
import FrontEnd.Declaration.Operation

/-!
# Declarations

A declaration joins a declared operation with the node that keeps its symbol and signature. The
signature is computed from the operation when it is first asked for and kept in the node.
-/

namespace FrontEnd

/-- A declared operation and what is found out about it. -/
structure Declaration (S : Type) where
  operation : Operation
  node : Node S
  deriving DecidableEq

abbrev MethodDeclaration := Declaration MethodSymbol

abbrev ConstructorDeclaration := Declaration ConstructorSymbol

/-- A method without modifiers and parameters. -/
def MethodDeclaration.create (name : String) (returnType : TypeRef) (span : Span) :
    MethodDeclaration :=
  ⟨⟨.method, name, .empty, [], some returnType, span⟩, .fresh⟩

/-- A constructor, named for its type, without modifiers and parameters. -/
def ConstructorDeclaration.create (typeName : String) (span : Span) : ConstructorDeclaration :=
  ⟨⟨.constructor, typeName, .empty, [], none, span⟩, .fresh⟩

namespace Declaration

variable {S : Type}

def withModifiers (d : Declaration S) (modifiers : Modifiers) : Declaration S :=
  { d with operation := { d.operation with modifiers } }

def withParam (d : Declaration S) (p : Parameter) : Declaration S :=
  { d with operation := { d.operation with params := d.operation.params ++ [p] } }

/-- The signature that the operation has as it is declared now. -/
def buildSignature (d : Declaration S) : Logged NodeEvent Signature :=
  let s := d.operation.signature
  ⟨s, [.signatureComputed d.operation.name s]⟩

/-- The signature of the declaration, computed at the first request. -/
def signature (d : Declaration S) : Logged NodeEvent (Signature × Declaration S) :=
  (d.node.signatureOrBuild fun _ => d.buildSignature).map fun r => (r.1, { d with node := r.2 })

variable [Executable S]

def bind (d : Declaration S) (s : S) :
    Logged NodeEvent (Except SymbolError Unit × Declaration S) :=
  (d.node.bind s).map fun r => (r.1, { d with node := r.2 })

def inspect (d : Declaration S) : String :=
  let o := d.operation
  Text.Inspect.record (o.kind.name ++ "Declaration")
    ([("base", d.node.inspect), ("name", Text.quote o.name), ("modifiers", o.modifiers.inspect),
        ("params", Text.Inspect.list (o.params.map Parameter.inspect))] ++
      (o.returnType?.toList.map fun t => ("return_type", t.name)) ++
      [("span", o.span.toText)])

end Declaration

end FrontEnd
