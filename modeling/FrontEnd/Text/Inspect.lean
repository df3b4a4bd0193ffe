import FrontEnd.Text.Extending
import FrontEnd.Text.Unprintable

/-!
# The diagnostic form of values

Values are shown to a developer in one notation: text between double quotes with everything
invisible escaped, records with their field names, lists in brackets. `quote` is the notation
for text; the other functions put parts that are already shown together.
-/

namespace FrontEnd.Text

/-- A character between double quotes: the quote, the backslash and four control characters have
a short escape, anything that cannot be seen on its own is written by code point. -/
def escape (c : Char) : String :=
  if c = '\x00' then "\\0"
  else if c = '\t' then "\\t"
  else if c = '\n' then "\\n"
  else if c = '\r' then "\\r"
  else if c = '\"' then "\\\""
  else if c = '\\' then "\\\\"
  else if isExtending c || isUnprintable c then
    "\\u\x7b" ++ String.ofList (Nat.toDigits 16 c.toNat) ++ "\x7d"
  else String.singleton c

def quote (text : String) : String :=
  "\"" ++ String.join (text.toList.map escape) ++ "\""

namespace Inspect

def list (items : List String) : String :=
  "[" ++ ", ".intercalate items ++ "]"

def mapping (entries : List (String × String)) : String :=
  "\x7b" ++ ", ".intercalate (entries.map fun e => e.1 ++ ": " ++ e.2) ++ "\x7d"

def tagged (name value : String) : String :=
  name ++ "(" ++ value ++ ")"

def option : Option String → String
  | none => "None"
  | some value => tagged "Some" value

def braced (name : String) (parts : List String) : String :=
  name ++ " \x7b " ++ ", ".intercalate parts ++ " \x7d"

def record (name : String) (fields : List (String × String)) : String :=
  braced name (fields.map fun f => f.1 ++ ": " ++ f.2)

/-- A record that has further fields, which are not shown. -/
def openRecord (name : String) (fields : List (String × String)) : String :=
  braced name (fields.map (fun f => f.1 ++ ": " ++ f.2) ++ [".."])

def bool (b : Bool) : String :=
  if b then "true" else "false"

end Inspect

end FrontEnd.Text
