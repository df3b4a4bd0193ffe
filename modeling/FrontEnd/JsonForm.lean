import FrontEnd.Declaration.Operation
import FrontEnd.Json
import FrontEnd.LineIndex
import FrontEnd.TokenKind

/-!
# Values as JSON

The JSON form of the small values of the library. Records are written by field name, a value that
only wraps another one as that other value, and a choice as its name. Reading refuses numbers
out of range, unknown names and missing fields, and ignores fields it does not know.
-/

namespace FrontEnd

/-- Types whose values can be written as JSON and read back. -/
class JsonForm (α : Type) where
  toJson : α → Json
  ofJson? : Json → Option α

export JsonForm (toJson ofJson?)

instance : JsonForm Bool := ⟨.bool, Json.bool?⟩

instance : JsonForm String := ⟨.str, Json.str?⟩

/-- A number is read only if it survives being narrowed. -/
instance : JsonForm UInt32 where
  toJson n := .int n.toNat
  ofJson? j := j.nat?.bind fun n =>
    if (UInt32.ofNat n).toNat = n then some (UInt32.ofNat n) else none

instance : JsonForm Int32 where
  toJson n := .int n.toInt
  ofJson? j := j.int?.bind fun n =>
    if (Int32.ofInt n).toInt = n then some (Int32.ofInt n) else none

instance : JsonForm TokenKind where
  toJson kind := toJson kind.raw
  ofJson? j := (ofJson? j).map TokenKind.mk

instance : JsonForm TypeRef where
  toJson t := toJson t.name
  ofJson? j := (ofJson? j).map TypeRef.mk

/-- Reads a record of two fields. -/
def record2? {α β γ : Type} [JsonForm α] [JsonForm β] (make : α → β → γ) (first second : String)
    (j : Json) : Option γ :=
  match j.fields? [first, second] with
  | some [a, b] => (ofJson? a).bind fun a => (ofJson? b).map fun b => make a b
  | _ => none

instance : JsonForm Span where
  toJson s := .obj [("start", toJson s.start), ("end", toJson s.stop)]
  ofJson? := record2? Span.mk "start" "end"

instance : JsonForm LineCol where
  toJson p := .obj [("line", toJson p.line), ("col", toJson p.col)]
  ofJson? := record2? LineCol.mk "line" "col"

instance : JsonForm Parameter where
  toJson p := .obj [("name", toJson p.name), ("ty", toJson p.type)]
  ofJson? := record2? Parameter.mk "name" "ty"

instance : JsonForm Role where
  toJson r := .str r.name
  ofJson? j := j.choice?.bind fun name => Role.all.find? fun r => r.name == name

instance : JsonForm Visibility where
  toJson v := .str v.name
  ofJson? j := j.choice?.bind fun name => Visibility.all.find? fun v => v.name == name

instance : JsonForm Signature where
  toJson s :=
    .obj [("role", toJson s.role), ("visibility", toJson s.visibility),
      ("is_abstract", toJson s.isAbstract)]
  ofJson? j :=
    match j.fields? ["role", "visibility", "is_abstract"] with
    | some [role, visibility, isAbstract] =>
      (ofJson? role).bind fun role => (ofJson? visibility).bind fun visibility =>
        (ofJson? isAbstract).map fun isAbstract => ⟨role, visibility, isAbstract⟩
    | _ => none

end FrontEnd
