/-!
# JSON values

Values of the JSON data format, with the two readers that structured data needs: the fields of a
record and the name of a choice.
-/

namespace FrontEnd

/-- A JSON value. A number written with a fraction is kept apart from a whole number, and the keys
of an object are listed once each. -/
inductive Json where
  | null
  | bool (value : Bool)
  | int (value : Int)
  /-- The number `mantissa / 10 ^ places`. -/
  | decimal (mantissa : Int) (places : Nat)
  | str (value : String)
  | arr (items : List Json)
  | obj (entries : List (String × Json))
  deriving Inhabited

namespace Json

def bool? : Json → Option Bool
  | bool b => some b
  | _ => none

def int? : Json → Option Int
  | int n => some n
  | _ => none

def nat? : Json → Option Nat
  | int (.ofNat n) => some n
  | _ => none

def str? : Json → Option String
  | str s => some s
  | _ => none

/-- The values of a record's fields, in the order of `names`: from an object by name, whatever
else it holds, or from an array that holds just these values. -/
def fields? (names : List String) : Json → Option (List Json)
  | obj entries => names.mapM fun name => entries.lookup name
  | arr items => if items.length = names.length then some items else none
  | _ => none

/-- The name of a choice without content: a string, or an object that gives the name nothing. -/
def choice? : Json → Option String
  | str s => some s
  | obj [(name, null)] => some name
  | _ => none

end Json

end FrontEnd
