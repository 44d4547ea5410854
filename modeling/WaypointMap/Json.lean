import WaypointMap.Text

/-!
# JSON values

The values that clients send. Integers and decimals are different kinds, however they are
written; integers have any size. The entries of an object keep their order, and a repeated
key keeps the place of its first entry and the value of its last.
-/

namespace WaypointMap

inductive Json where
  | null
  | bool (b : Bool)
  | int (n : Int)
  | decimal (x : Float)
  | text (t : Text)
  | list (items : List Json)
  | object (entries : List (Text × Json))
  deriving Inhabited

namespace Json

inductive Kind where
  | null | bool | int | decimal | text | list | object
  deriving DecidableEq

def Kind.name : Kind → String
  | null => "NoneType"
  | bool => "bool"
  | int => "int"
  | decimal => "float"
  | text => "str"
  | list => "list"
  | object => "dict"

def kind : Json → Kind
  | null => .null
  | bool _ => .bool
  | int _ => .int
  | decimal _ => .decimal
  | text _ => .text
  | list _ => .list
  | object _ => .object

/-- A value taken as a flag: null, zero and everything empty are false. -/
def truth : Json → Bool
  | null => false
  | bool b => b
  | int n => n != 0
  | decimal x => !(x == 0.0)
  | text t => !t.isEmpty
  | list items => !items.isEmpty
  | object entries => !entries.isEmpty

/-- Whether a value is a number equal to an integer; true counts as one, false as zero. -/
def equalsInt (v : Json) (n : Int) : Bool :=
  match v with
  | bool b => b.toInt == n
  | int m => m == n
  | decimal x => x == Float.ofInt n
  | _ => false

def find? (key : Text) : List (Text × Json) → Option Json
  | [] => none
  | (k, v) :: rest => if k = key then some v else find? key rest

/-- Sets the value under a key; a new key goes to the end. -/
def put (key : Text) (value : Json) : List (Text × Json) → List (Text × Json)
  | [] => [(key, value)]
  | (k, v) :: rest => if k = key then (k, value) :: rest else (k, v) :: put key value rest

end Json

end WaypointMap
