import MongoConfig.Binary64.Shortest
import MongoConfig.Dictionary
import MongoConfig.Text.Unsigned
/-! JSON values.
A number is an integer if it is written as one and fits in 64 bits, and a floating point number
otherwise. The members of an object stand in ascending order of their keys.
-/

namespace MongoConfig

inductive Json.Number where
  | integer (value : Int)
  | float (value : Binary64)
deriving DecidableEq, Repr

inductive Json where
  | null
  | bool (value : Bool)
  | number (value : Json.Number)
  | string (value : String)
  | array (items : List Json)
  | object (members : List (String × Json))
deriving Repr

namespace Json

/-- An integer never equals a floating point number. -/
instance : BEq Number where
  beq
    | .integer a, .integer b => a == b
    | .float a, .float b => a == b
    | _, _ => false

mutual
/-- Whether two values are equal. -/
def same : Json → Json → Bool
  | null, null => true
  | bool a, bool b => a == b
  | number a, number b => a == b
  | string a, string b => a == b
  | array a, array b => sameItems a b
  | object a, object b => sameMembers a b
  | _, _ => false

def sameItems : List Json → List Json → Bool
  | [], [] => true
  | a :: as, b :: bs => same a b && sameItems as bs
  | _, _ => false

def sameMembers : List (String × Json) → List (String × Json) → Bool
  | [], [] => true
  | (key, a) :: as, (key', b) :: bs => key == key' && same a b && sameMembers as bs
  | _, _ => false
end

instance : BEq Json :=
  ⟨same⟩

def Number.text : Number → String
  | .integer value =>
      if value < 0 then
        "-" ++ Text.unsignedText value.natAbs
      else
        Text.unsignedText value.natAbs
  | .float value => value.text

end Json

end MongoConfig
