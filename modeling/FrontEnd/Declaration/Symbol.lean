import FrontEnd.Text.Inspect

/-!
# Types and symbols

A type is referred to by its name. A symbol is what a declared operation is called from outside:
the type that declares it, its name and the types of its parameters.
-/

namespace FrontEnd

/-- A type, by name. -/
structure TypeRef where
  name : String
  deriving DecidableEq

namespace TypeRef

def void : TypeRef := ⟨"void"⟩

def boolean : TypeRef := ⟨"boolean"⟩

def isVoid (t : TypeRef) : Bool := t = void

/-- Whether the type is the primitive truth value or the class that boxes it. -/
def isBoolean (t : TypeRef) : Bool :=
  t = boolean || t.name == "Boolean" || t.name == "java.lang.Boolean"

def inspectList (types : List TypeRef) : String :=
  Text.Inspect.list (types.map name)

end TypeRef

/-- What a declaration can be bound to. -/
class Executable (S : Type) where
  name : S → String
  declaringType : S → String
  paramTypes : S → List TypeRef
  isConstructor : S → Bool := fun _ => false
  isVarargs : S → Bool := fun _ => false
  inspect : S → String

def Executable.arity {S : Type} [Executable S] (s : S) : Nat := (Executable.paramTypes s).length

structure MethodSymbol where
  declaringType : String
  name : String
  paramTypes : List TypeRef
  returnType : TypeRef
  varargs : Bool
  deriving DecidableEq

instance : Executable MethodSymbol where
  name := MethodSymbol.name
  declaringType := MethodSymbol.declaringType
  paramTypes := MethodSymbol.paramTypes
  isVarargs := MethodSymbol.varargs
  inspect s :=
    Text.Inspect.record "MethodSymbol"
      [("name", Text.quote s.name), ("declaring_type", Text.quote s.declaringType),
        ("param_types", TypeRef.inspectList s.paramTypes), ("return_type", s.returnType.name),
        ("varargs", Text.Inspect.bool s.varargs)]

structure ConstructorSymbol where
  declaringType : String
  paramTypes : List TypeRef
  varargs : Bool
  deriving DecidableEq

def ConstructorSymbol.name : String := "new"

instance : Executable ConstructorSymbol where
  name _ := ConstructorSymbol.name
  declaringType := ConstructorSymbol.declaringType
  paramTypes := ConstructorSymbol.paramTypes
  isConstructor _ := true
  isVarargs := ConstructorSymbol.varargs
  inspect s :=
    Text.Inspect.record "ConstructorSymbol"
      [("declaring_type", Text.quote s.declaringType),
        ("param_types", TypeRef.inspectList s.paramTypes),
        ("varargs", Text.Inspect.bool s.varargs)]

end FrontEnd
