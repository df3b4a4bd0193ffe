import FrontEnd.Text.Inspect

/-!
# Sets of flags

A set of flags is a word of bits. The flags of a family are numbered from the lowest bit on; bits
above them belong to no flag. Operations on sets keep such unknown bits unless they say that
they drop them.
-/

namespace FrontEnd

/-- A family of flags kept in words of one width. -/
class Flag (F : Type) where
  /-- The name under which sets of these flags are shown. -/
  family : String
  width : Nat
  /-- The flags in the order of their bits. -/
  members : List F
  /-- The number of a flag's bit. -/
  index : F → Nat
  name : F → String
  /-- Names for several flags together. -/
  groups : List (String × List F)

/-- A set of flags of a family. -/
structure FlagSet (F : Type) [Flag F] where
  bits : BitVec (Flag.width F)

namespace FlagSet

variable {F : Type} [Flag F]

@[ext] theorem ext {a b : FlagSet F} (h : a.bits = b.bits) : a = b := by
  cases a
  cases b
  exact congrArg mk h

instance : DecidableEq (FlagSet F) := fun _ _ =>
  decidable_of_iff _ ⟨ext, congrArg bits⟩

def empty : FlagSet F := ⟨0⟩

def single (f : F) : FlagSet F := ⟨BitVec.twoPow (Flag.width F) (Flag.index f)⟩

def union (a b : FlagSet F) : FlagSet F := ⟨a.bits ||| b.bits⟩

def inter (a b : FlagSet F) : FlagSet F := ⟨a.bits &&& b.bits⟩

def symmDiff (a b : FlagSet F) : FlagSet F := ⟨a.bits ^^^ b.bits⟩

def diff (a b : FlagSet F) : FlagSet F := ⟨a.bits &&& ~~~b.bits⟩

def ofList (flags : List F) : FlagSet F :=
  flags.foldl (fun s f => s.union (single f)) empty

def all : FlagSet F := ofList Flag.members

def contains (a b : FlagSet F) : Bool := a.bits &&& b.bits == b.bits

def intersects (a b : FlagSet F) : Bool := a.bits &&& b.bits != 0

def isEmpty (s : FlagSet F) : Bool := s.bits == 0

def isAll (s : FlagSet F) : Bool := s.contains all

/-- The set of a word, bits that belong to no flag included. -/
def ofBitsRetain (n : Nat) : FlagSet F := ⟨BitVec.ofNat _ n⟩

/-- The set of a word without the bits that belong to no flag. -/
def ofBitsTruncate (n : Nat) : FlagSet F := (ofBitsRetain n).inter all

/-- The set of a word in which every bit belongs to a flag. -/
def ofBits? (n : Nat) : Option (FlagSet F) :=
  let s : FlagSet F := ofBitsRetain n
  if (s.diff all).isEmpty then some s else none

def complement (s : FlagSet F) : FlagSet F := all.diff s

def assign (a b : FlagSet F) (present : Bool) : FlagSet F :=
  if present then a.union b else a.diff b

/-- The flags in the set, in the order of their bits. -/
def toList (s : FlagSet F) : List F :=
  Flag.members.filter fun f => s.contains (single f)

/-- The set with a name, which is the name of a flag or of a group of flags. -/
def ofName? (name : String) : Option (FlagSet F) :=
  match (Flag.members : List F).find? fun f => Flag.name f == name with
  | some f => some (single f)
  | none => ((Flag.groups : List (String × List F)).lookup name).map ofList

/-- The flags by name, then the bits that belong to no flag as one number. -/
def parts (s : FlagSet F) : List String :=
  let unknown := (s.diff all).bits.toNat
  s.toList.map Flag.name ++
    (if unknown = 0 then [] else ["0x" ++ String.ofList (Nat.toDigits 16 unknown)])

def inspect (s : FlagSet F) : String :=
  Text.Inspect.tagged (Flag.family F)
    (if s.isEmpty then "0x0" else " | ".intercalate s.parts)

end FlagSet

end FrontEnd
