import FrontEnd.FlagSet

/-!
# Modifiers and visibility

The modifiers written in front of a declaration form a set of flags. Three of them say who may
use what is declared; where none of them stands, the package may.
-/

namespace FrontEnd

/-- A word that may stand in front of a declaration. -/
inductive Modifier where
  | pub
  | prot
  | priv
  | static
  | abstract
  | final
  | native
  | synchronized
  | default
  deriving DecidableEq

instance : Flag Modifier where
  family := "Modifiers"
  width := 16
  members := [.pub, .prot, .priv, .static, .abstract, .final, .native, .synchronized, .default]
  index
    | .pub => 0
    | .prot => 1
    | .priv => 2
    | .static => 3
    | .abstract => 4
    | .final => 5
    | .native => 6
    | .synchronized => 7
    | .default => 8
  name
    | .pub => "PUBLIC"
    | .prot => "PROTECTED"
    | .priv => "PRIVATE"
    | .static => "STATIC"
    | .abstract => "ABSTRACT"
    | .final => "FINAL"
    | .native => "NATIVE"
    | .synchronized => "SYNCHRONIZED"
    | .default => "DEFAULT"
  groups := [("VISIBILITY", [.pub, .prot, .priv])]

abbrev Modifiers := FlagSet Modifier

/-- Who may use what is declared, from the widest circle to the narrowest. -/
inductive Visibility where
  | pub
  | prot
  | package
  | priv
  deriving DecidableEq

namespace Visibility

def all : List Visibility := [pub, prot, package, priv]

/-- The place in the order from wide to narrow. -/
def rank : Visibility → Nat
  | pub => 0
  | prot => 1
  | package => 2
  | priv => 3

/-- Wider circles come first. -/
instance : Ord Visibility := ⟨fun a b => compare a.rank b.rank⟩

def toText : Visibility → String
  | pub => "public"
  | prot => "protected"
  | package => "package-private"
  | priv => "private"

def name : Visibility → String
  | pub => "Public"
  | prot => "Protected"
  | package => "Package"
  | priv => "Private"

end Visibility

instance : Flag Visibility where
  family := "VisibilitySet"
  width := 8
  members := Visibility.all
  index := Visibility.rank
  name
    | .pub => "PUBLIC"
    | .prot => "PROTECTED"
    | .package => "PACKAGE"
    | .priv => "PRIVATE"
  groups := []

abbrev VisibilitySet := FlagSet Visibility

/-- The visibility that the modifiers give; of several the widest holds. -/
def Modifiers.visibility (m : Modifiers) : Visibility :=
  if m.contains (.single .pub) then .pub
  else if m.contains (.single .prot) then .prot
  else if m.contains (.single .priv) then .priv
  else .package

end FrontEnd
