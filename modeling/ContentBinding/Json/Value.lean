import ContentBinding.Number.Double

/-! Content documents: JSON values. An object keeps its members in the order of the text. -/

namespace ContentBinding.Json

inductive Value
  | null
  | bool (b : Bool)
  | int (n : Int)
  | double (d : Number.Double)
  | str (s : String)
  | arr (items : List Value)
  | obj (members : List (String × Value))

namespace Value

/-- The member of that name; none for values without members. -/
def get? (v : Value) (key : String) : Option Value :=
  match v with
  | obj ms => ms.lookup key
  | _ => none

def isNull : Value → Bool
  | null => true
  | _ => false

/-- Adds a member; one of the same name is replaced where it stands. -/
def insertMember (key : String) (v : Value) : List (String × Value) → List (String × Value)
  | [] => [(key, v)]
  | (k, w) :: rest => if k = key then (k, v) :: rest else (k, w) :: insertMember key v rest

end Value
end ContentBinding.Json
