import FrontEnd.Declaration.Modifiers

/-!
# Signatures

A signature sums up an operation: the role it plays, who may use it and whether it is abstract.
A mask picks out signatures by these three.
-/

namespace FrontEnd

/-- The part an operation plays in its type. -/
inductive Role where
  | getterOrSetter
  | constructor
  | method
  | static
  deriving DecidableEq

namespace Role

def all : List Role := [getterOrSetter, constructor, method, static]

def toText : Role → String
  | getterOrSetter => "getter or setter"
  | constructor => "constructor"
  | method => "method"
  | static => "static method"

def name : Role → String
  | getterOrSetter => "GetterOrSetter"
  | constructor => "Constructor"
  | method => "Method"
  | static => "Static"

end Role

instance : Flag Role where
  family := "RoleSet"
  width := 8
  members := Role.all
  index
    | .getterOrSetter => 0
    | .constructor => 1
    | .method => 2
    | .static => 3
  name
    | .getterOrSetter => "GETTER_OR_SETTER"
    | .constructor => "CONSTRUCTOR"
    | .method => "METHOD"
    | .static => "STATIC"
  groups := []

abbrev RoleSet := FlagSet Role

/-- The summary of an operation. -/
structure Signature where
  role : Role
  visibility : Visibility
  isAbstract : Bool
  deriving DecidableEq

namespace Signature

def toText (s : Signature) : String :=
  s.visibility.toText ++ " " ++ (if s.isAbstract then "abstract " else "") ++ s.role.toText

def inspect (s : Signature) : String :=
  Text.Inspect.record "OperationSignature"
    [("role", s.role.name), ("visibility", s.visibility.name),
      ("is_abstract", Text.Inspect.bool s.isAbstract)]

end Signature

structure SignatureMask where
  roles : RoleSet
  visibilities : VisibilitySet
  coverAbstract : Bool
  deriving DecidableEq

namespace SignatureMask

/-- The mask that covers every signature. -/
def full : SignatureMask := ⟨.all, .all, true⟩

def onlyRoles (m : SignatureMask) (roles : RoleSet) : SignatureMask := { m with roles }

def onlyVisibilities (m : SignatureMask) (visibilities : VisibilitySet) : SignatureMask :=
  { m with visibilities }

def concreteOnly (m : SignatureMask) : SignatureMask := { m with coverAbstract := false }

def covers (m : SignatureMask) (s : Signature) : Bool :=
  m.roles.contains (.single s.role) && m.visibilities.contains (.single s.visibility) &&
    (m.coverAbstract || !s.isAbstract)

end SignatureMask

end FrontEnd
