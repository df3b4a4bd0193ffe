import FrontEnd.Declaration.Signature
import FrontEnd.Declaration.Symbol
import FrontEnd.Span
import FrontEnd.Text.Uppercase

/-!
# Declared operations

An operation as it is declared: a method or constructor with its name, modifiers, parameters and
return type. Its role and its signature follow from the declaration alone.
-/

namespace FrontEnd

inductive OperationKind where
  | method
  | constructor
  deriving DecidableEq

namespace OperationKind

def all : List OperationKind := [method, constructor]

def name : OperationKind → String
  | method => "Method"
  | constructor => "Constructor"

end OperationKind

structure Parameter where
  name : String
  type : TypeRef
  deriving DecidableEq

def Parameter.inspect (p : Parameter) : String :=
  Text.Inspect.record "Parameter" [("name", Text.quote p.name), ("ty", p.type.name)]

/-- What a declaration says about an operation. -/
structure Operation where
  kind : OperationKind
  name : String
  modifiers : Modifiers
  params : List Parameter
  /-- The declared return type; a constructor has none. -/
  returnType? : Option TypeRef
  span : Span
  deriving DecidableEq

namespace Operation

def arity (o : Operation) : Nat := o.params.length

/-- Whether `name` begins with `word` and goes on as a new word does, with an uppercase letter or
an underscore. -/
def beginsWithWord (word name : String) : Bool :=
  match (word.toList.isPrefixOf? name.toList) with
  | some (c :: _) => Text.isUppercase c || c == '_'
  | _ => false

/-- Whether calling the operation yields a value. -/
def returnsValue (o : Operation) : Bool := o.returnType?.any fun t => !t.isVoid

/-- Whether the operation reads a property, `get…` or for a truth value also `is…`, or writes one,
`set…` with the new value as its only parameter. -/
def isAccessor (o : Operation) : Bool :=
  match o.params with
  | [] =>
    o.returnsValue &&
      (beginsWithWord "get" o.name ||
        beginsWithWord "is" o.name && o.returnType?.any TypeRef.isBoolean)
  | [_] => !o.returnsValue && beginsWithWord "set" o.name
  | _ => false

def isStatic (o : Operation) : Bool := o.modifiers.contains (.single .static)

def isAbstract (o : Operation) : Bool := o.modifiers.contains (.single .abstract)

/-- The role of an operation; that it constructs or is static decides before its shape does. -/
def role (o : Operation) : Role :=
  if o.kind = .constructor then .constructor
  else if o.isStatic then .static
  else if o.isAccessor then .getterOrSetter
  else .method

def signature (o : Operation) : Signature :=
  ⟨o.role, o.modifiers.visibility, o.isAbstract⟩

end Operation

end FrontEnd
