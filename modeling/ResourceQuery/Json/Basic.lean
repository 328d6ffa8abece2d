import ResourceQuery.Number.Binary64

namespace ResourceQuery

namespace Json

/-- A number without point and exponent is an integer; all other numbers are binary. -/
inductive Numeral where
  | integer (n : Int)
  | real (x : Number.Binary64)
  deriving DecidableEq, Repr

end Json

inductive Json where
  | null
  | bool (b : Bool)
  | number (n : Json.Numeral)
  | string (s : String)
  | array (items : List Json)
  | object (members : List (String × Json))
  deriving Repr

namespace Json

def nat (n : Nat) : Json :=
  .number (.integer n)

def strings (ss : List String) : Json :=
  .array (ss.map .string)

/-- Adds a member among members in key order; a member of the same key is replaced. -/
def insert (key : String) (value : Json) : List (String × Json) → List (String × Json)
  | [] => [(key, value)]
  | (k, v) :: ms =>
    if key = k then (key, value) :: ms
    else if key < k then (key, value) :: (k, v) :: ms
    else (k, v) :: insert key value ms

/-- The members in key order, the last of each key. -/
def sorted (members : List (String × Json)) : List (String × Json) :=
  members.foldl (fun ms (k, v) => insert k v ms) []

/-- An object of one member. -/
def single (key : String) (value : Json) : Json :=
  .object [(key, value)]

/-- A member that is there only if it has a value. -/
def memberIf (key : String) : Option Json → List (String × Json)
  | some v => [(key, v)]
  | none => []

def member? (key : String) : Json → Option Json
  | .object ms => ms.lookup key
  | _ => none

end Json

end ResourceQuery
